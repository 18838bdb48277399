import SignIn.Codec.Percent
import SignIn.Datum.Display

/-!
# Forms and query strings

A form is a list of fields, written `name=value` with an ampersand between neighbours. In a form
body a space is written as a plus sign; in a query string it is percent encoded like every other
reserved character.
-/

namespace SignIn

/-- The fields of a form, in order. -/
abbrev Fields := List (Text × Text)

namespace Form

/-- An octet of a form body: a space becomes a plus sign. -/
def octet (b : UInt8) : Text :=
  if b = 0x20 then [CodePoint.ofChar '+'] else Percent.octet CodePoint.isUnreserved b

def encodeText? (t : Text) : Option Text := (Utf8.encode? t).map fun o => o.flatMap octet

def field? (encode? : Text → Option Text) (f : Text × Text) : Option Text := do
  let name ← encode? f.1
  let value ← encode? f.2
  return name ++ CodePoint.ofChar '=' :: value

/-- The fields with their parts encoded, joined by ampersands. -/
def join? (encode? : Text → Option Text) (fields : Fields) : Option Text :=
  (fields.mapM (field? encode?)).map (Text.joinWith "&")

def encode? (fields : Fields) : Option Text := join? encodeText? fields

def query? (fields : Fields) : Option Text := join? Percent.encode? fields

/-- The fields of a text of pieces with an equals sign, whose parts are decoded. -/
def split? (decode? : Text → Option Text) (t : Text) : Option Fields :=
  if t = [] then some []
  else (Text.pieces (CodePoint.ofChar '&') t).mapM fun piece => do
    let (name, value) ← Text.cutAt? (CodePoint.ofChar '=') piece
    let name ← decode? name
    let value ← decode? value
    return (name, value)

def plusToSpace (t : Text) : Text :=
  t.map fun c : CodePoint => if c = '+' then CodePoint.ofChar ' ' else c

def decode? (t : Text) : Option Fields := split? (fun part => Percent.decode? (plusToSpace part)) t

def decodeQuery? (t : Text) : Option Fields := split? Percent.decode? t

/-- The text of a value that stands alone in a form. -/
def scalar : Datum → Text
  | .null => []
  | .bool true => "true"
  | .bool false => "false"
  | d => d.display

/-- The fields of a record: a list gives one field for each of its items. -/
def ofRecord (fields : Record) : Fields :=
  fields.flatMap fun f =>
    match f.2 with
    | .list items => items.map fun item => (f.1, scalar item)
    | value => [(f.1, scalar value)]

end Form

end SignIn
