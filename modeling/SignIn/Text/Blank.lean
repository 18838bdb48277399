import SignIn.Text.Basic

/-!
# Blank text

White space is the Unicode property `White_Space` together with the four information separators
U+001C to U+001F. A text is blank when it holds nothing else; a blank parameter counts as absent
throughout the library.
-/

namespace SignIn

/-- White space: the Unicode property and the information separators. -/
def CodePoint.isSpace (c : CodePoint) : Bool :=
  (0x09 ≤ c.val && c.val ≤ 0x0D) || (0x1C ≤ c.val && c.val ≤ 0x20) || c.val = 0x85 ||
    c.val = 0xA0 || c.val = 0x1680 || (0x2000 ≤ c.val && c.val ≤ 0x200A) || c.val = 0x2028 ||
    c.val = 0x2029 || c.val = 0x202F || c.val = 0x205F || c.val = 0x3000

namespace Text

/-- A text of white space only, the empty text included. -/
def isBlank (t : Text) : Bool := t.all CodePoint.isSpace

def trim (t : Text) : Text := trimWhere CodePoint.isSpace t

/-- Splits off the first maximal run of code points that are not white space. -/
def wordsFrom (word : Text) : Text → List Text
  | [] => if word.isEmpty then [] else [word.reverse]
  | c :: t =>
    if c.isSpace then
      if word.isEmpty then wordsFrom [] t else word.reverse :: wordsFrom [] t
    else wordsFrom (c :: word) t

/-- The maximal runs of code points that are not white space. -/
def words (t : Text) : List Text := wordsFrom [] t

def present? : Option Text → Option Text
  | none => none
  | some t => if t.isBlank then none else some t

def isPresent (t : Option Text) : Bool := (present? t).isSome

end Text

end SignIn
