import SignIn.Text.Quoted

/-!
# Writing JSON

Texts are written in double quotes. The quote, the backslash and the control characters are escaped,
five of them by a letter; everything else stands as it is.
-/

namespace SignIn

namespace Json

def escape (c : CodePoint) : Text :=
  if c = Quoted.double ∨ c = Quoted.backslash then [Quoted.backslash, c]
  else if c.val = 8 then Quoted.letter 'b'
  else if c.val = 9 then Quoted.letter 't'
  else if c.val = 10 then Quoted.letter 'n'
  else if c.val = 12 then Quoted.letter 'f'
  else if c.val = 13 then Quoted.letter 'r'
  else if c.val < 0x20 then Quoted.letter 'u' ++ Text.hexadecimal 4 c.val
  else [c]

def literal (t : Text) : Text := Quoted.double :: t.flatMap escape ++ [Quoted.double]

def literalOrNull : Option Text → Text
  | none => "null"
  | some t => literal t

/-- A record whose fields are already written. -/
def object (fields : List (Text × Text)) : Text :=
  ("\x7b" : Text) ++
    Text.joinWith "," (fields.map fun f => literal f.1 ++ (":" : Text) ++ f.2) ++ ("\x7d" : Text)

end Json

end SignIn
