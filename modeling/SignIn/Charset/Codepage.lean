import SignIn.Charset.CharRuns

/-!
# Code pages

A code page gives a character to every octet, or none. It is held as what it has in other places
than Latin-1.
-/

namespace SignIn

/-- A character set of one octet a character. -/
structure Codepage where
  /-- The characters of the octets that do not stand for the code point of their own number. -/
  departures : CharRuns

namespace Codepage

/-- The page in which every octet stands for the code point of its number. -/
def latin1 : Codepage := ⟨[]⟩

def char? (page : Codepage) (b : UInt8) : Option CodePoint :=
  match page.departures.held? b.toNat with
  | some c => if c = CodePoint.replacement then none else some c
  | none => some (CodePoint.ofByte b)

/-- A page with its name and with further names under which it is known. -/
structure Named where
  name : String
  aliases : List String
  page : Codepage

end Codepage

end SignIn
