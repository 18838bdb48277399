import SignIn.Text.Printable

/-!
# Quoted text

Messages and the text of nested values show texts in quotes: single quotes, or double quotes for a
text that holds a single quote and no double one. The quote and the backslash are escaped by a
backslash, the usual controls by a letter, and other code points that are not printable by their
number in hexadecimal.
-/

namespace SignIn

/-- A number in lower-case hexadecimal with at least a given count of digits. -/
def Text.hexadecimal (width n : Nat) : Text :=
  let digits := (Nat.toDigits 16 n).map CodePoint.ofChar
  List.replicate (width - digits.length) (CodePoint.ofChar '0') ++ digits

namespace Quoted

def single : CodePoint := ⟨39, by decide⟩

def double : CodePoint := ⟨34, by decide⟩

def backslash : CodePoint := ⟨92, by decide⟩

/-- A backslash and the letter of an escape. -/
def letter (c : Char) : Text := [backslash, ↑c]

/-- The quote for a text: the double one only if that saves an escape. -/
def mark (t : Text) : CodePoint :=
  if t.contains single && !t.contains double then double else single

def point (quote c : CodePoint) : Text :=
  if c = quote ∨ c = backslash then [backslash, c]
  else if c.val = 9 then letter 't'
  else if c.val = 10 then letter 'n'
  else if c.val = 13 then letter 'r'
  else if 0x20 ≤ c.val ∧ c.val < 0x7F ∨ c.isPrintable then [c]
  else if c.val < 0x100 then letter 'x' ++ Text.hexadecimal 2 c.val
  else if c.val < 0x10000 then letter 'u' ++ Text.hexadecimal 4 c.val
  else letter 'U' ++ Text.hexadecimal 8 c.val

def text (t : Text) : Text :=
  let quote := mark t
  quote :: t.flatMap (point quote) ++ [quote]

def octet (quote : CodePoint) (b : UInt8) : Text :=
  if 0x20 ≤ b ∧ b < 0x7F ∨ b = 9 ∨ b = 10 ∨ b = 13 then point quote (CodePoint.ofByte b)
  else letter 'x' ++ Text.hexadecimal 2 b.toNat

/-- Octets in quotes behind the letter b. -/
def octets (bytes : Octets) : Text :=
  let quote := mark (bytes.map CodePoint.ofByte)
  CodePoint.ofChar 'b' :: quote :: bytes.flatMap (octet quote) ++ [quote]

end Quoted

end SignIn
