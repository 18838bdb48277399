import SignIn.Text.Utf8

/-!
# Percent encoding

A text is encoded through its UTF-8 octets: the unreserved characters of RFC 3986 stand for
themselves and every other octet is written as a percent sign and two hexadecimal digits. A text
that has no UTF-8 form has no encoding.
-/

namespace SignIn

/-- The unreserved characters: letters, digits, hyphen, full stop, underscore and tilde. -/
def CodePoint.isUnreserved (c : CodePoint) : Bool :=
  c.isAsciiAlphanumeric || c.val = 0x2D || c.val = 0x2E || c.val = 0x5F || c.val = 0x7E

namespace Percent

/-- The number of an upper-case hexadecimal digit. -/
def hexDigitNumber (n : Nat) : Nat := if n < 10 then 0x30 + n else 0x41 + (n - 10)

/-- An upper-case hexadecimal digit, by the last four bits of a number. -/
def hexDigit (n : Nat) : CodePoint :=
  ⟨hexDigitNumber (n % 16), by
    have h : n % 16 < 16 := Nat.mod_lt _ (by decide)
    unfold hexDigitNumber
    split <;> omega⟩

def sign : CodePoint := CodePoint.ofChar '%'

def escape (b : UInt8) : Text := [sign, hexDigit (b.toNat / 16), hexDigit b.toNat]

/-- An octet by itself if it is safe and escaped otherwise. -/
def octet (safe : CodePoint → Bool) (b : UInt8) : Text :=
  let c := CodePoint.ofByte b
  if c.isAscii && safe c then [c] else escape b

/-- Octets with every octet escaped that is not safe. -/
def encodeOctets (safe : CodePoint → Bool) (octets : Octets) : Text := octets.flatMap (octet safe)

/-- The encoding of a text, if it has a UTF-8 form. -/
def encode? (t : Text) : Option Text :=
  (Utf8.encode? t).map (encodeOctets CodePoint.isUnreserved)

/-- The octets that an encoded text stands for: escapes, and ASCII characters for themselves. An
incomplete escape and a character outside ASCII are refused. -/
def decodeOctets? : Text → Option Octets
  | [] => some []
  | c :: t =>
    if c = sign then
      match t with
      | a :: b :: t =>
        match a.hexValue?, b.hexValue? with
        | some x, some y => (decodeOctets? t).map (UInt8.ofNat (16 * x + y) :: ·)
        | _, _ => none
      | _ => none
    else if c.isAscii then (decodeOctets? t).map (UInt8.ofNat c.val :: ·)
    else none

def decode? (t : Text) : Option Text := (decodeOctets? t).bind Utf8.decode?

/-- The octets of a text of ASCII characters, with incomplete escapes left as they are. -/
def decodeOctetsLenient : Text → Octets
  | [] => []
  | c :: t =>
    let plain := UInt8.ofNat c.val :: decodeOctetsLenient t
    if c = sign then
      match t with
      | a :: b :: u =>
        match a.hexValue?, b.hexValue? with
        | some x, some y => UInt8.ofNat (16 * x + y) :: decodeOctetsLenient u
        | _, _ => plain
      | _ => plain
    else plain

/-- The text that a text stands for, with incomplete escapes left as they are and U+FFFD for
malformed octets. Every run of ASCII characters is decoded by itself; other characters stay. -/
def decodeLenient (t : Text) : Text :=
  let flush (run : Text) : Text := Utf8.decodeLenient (decodeOctetsLenient run.reverse)
  let step (state : Text × Text) (c : CodePoint) : Text × Text :=
    if c.isAscii then (state.1, c :: state.2) else (state.1 ++ flush state.2 ++ [c], [])
  let last := t.foldl step ([], [])
  last.1 ++ flush last.2

end Percent

end SignIn
