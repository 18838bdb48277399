import SignIn.Charset.Iso2022
import SignIn.Error
import SignIn.Text.Wide
import SignIn.Url.Punycode

/-!
# Reading a character set

A character set reads octets as text. Most read unit by unit, and U+FFFD stands for every unit
without a meaning. A byte order mark decides for the wide forms that do not name their order; the
spelling of host names is read as far as it goes; some conversions are no character sets for octets
at all and fail. Strict reading refuses every malformed unit.
-/

namespace SignIn

inductive Charset where
  /-- Unit by unit, the same whatever the octets begin with. -/
  | units (read : Octets → List DecodedUnit)
  /-- In sets of characters that escape sequences choose. -/
  | sequences (form : Iso2022.Form)
  /-- UTF-8 whose byte order mark, if any, is dropped. -/
  | signedUtf8
  /-- UTF-16 whose byte order mark tells its order. -/
  | markedUtf16
  /-- UTF-32 whose byte order mark tells its order. -/
  | markedUtf32
  /-- The spelling of host names. -/
  | punycode
  /-- A conversion that cannot be applied, with the failure of an attempt. -/
  | unusable (failure : Fault)

namespace Charset

/-! ## Byte order marks -/

def utf8Mark : Octets := [0xEF, 0xBB, 0xBF]

def withoutMark (octets : Octets) : Octets :=
  if octets.take 3 = utf8Mark then octets.drop 3 else octets

/-- The byte order marks of a form of so many octets a unit. -/
def marks (width : Nat) : List (ByteOrder × Octets) :=
  [(.littleEndian, [0xFF, 0xFE] ++ List.replicate (width - 2) 0),
   (.bigEndian, List.replicate (width - 2) 0 ++ [0xFE, 0xFF])]

/-- The order that the octets of a form tell by a mark, and the octets behind it. -/
def marked? (width : Nat) (octets : Octets) : Option (ByteOrder × Octets) :=
  (marks width).find? (fun mark => octets.take width = mark.2)
    |>.map fun mark => (mark.1, octets.drop width)

/-- The units of octets behind a mark. -/
def markedUnits? (width : Nat) (units : ByteOrder → Octets → List DecodedUnit) (octets : Octets) :
    Option (List DecodedUnit) :=
  (marked? width octets).map fun found => units found.1 found.2

/-- UTF-16 in which a surrogate has no meaning of its own. -/
def utf16 (order : ByteOrder) : Octets → List DecodedUnit := Wide.units16 order false

/-- UTF-32 in which a surrogate has no meaning of its own. -/
def utf32 (order : ByteOrder) : Octets → List DecodedUnit := Wide.units32 order false

/-- The text of a form that needs a mark. Octets that make no unit need none. -/
def markedText (width : Nat) (units : ByteOrder → Octets → List DecodedUnit) (octets : Octets) :
    Except Fault Text :=
  match markedUnits? width units octets with
  | some found => .ok (DecodedUnit.lenient found)
  | none =>
    if octets.length < width then .ok (DecodedUnit.lenient (units .littleEndian octets))
    else .error .unreadable

/-! ## Host names -/

def ascii : Octets → List DecodedUnit := scanPage asciiSingle?

/-- The octets in front of the last hyphen and those behind it. -/
def hyphenated (octets : Octets) : Octets × Octets :=
  let behind := octets.reverse.takeWhile (· ≠ 0x2D)
  if behind.length = octets.length then ([], octets)
  else ((octets.reverse.drop (behind.length + 1)).reverse, behind.reverse)

/-- The text of a spelling, read as far as it goes. The differences must be ASCII. -/
def punycodeText (octets : Octets) : Except Fault Text :=
  let (basic, differences) := hyphenated octets
  match DecodedUnit.strict? (ascii differences) with
  | some differences => .ok (Punycode.decodeLenient (DecodedUnit.lenient (ascii basic)) differences)
  | none => .error .undecodable

/-! ## Reading -/

/-- How many octets may be left where the octets end in the middle of an escape sequence. -/
def maxLeftover : Nat := 8

/-- The text of octets, with U+FFFD for what means nothing. -/
def text (charset : Charset) (octets : Octets) : Except Fault Text :=
  match charset with
  | units read => .ok (DecodedUnit.lenient (read octets))
  | sequences form =>
    if maxLeftover < (Iso2022.leftover form octets).length then .error .unreadable
    else .ok (DecodedUnit.lenient (Iso2022.units form octets))
  | signedUtf8 =>
    .ok (if octets.length < 3 ∧ octets = utf8Mark.take octets.length then []
      else Utf8.decodeLenient (withoutMark octets))
  | markedUtf16 => markedText 2 utf16 octets
  | markedUtf32 => markedText 4 utf32 octets
  | punycode => punycodeText octets
  | unusable failure => .error failure

/-- The text of octets that all have a meaning. Without a mark the order is little endian. -/
def strictText? (charset : Charset) (octets : Octets) : Option Text :=
  match charset with
  | units read => DecodedUnit.strict? (read octets)
  | sequences form => DecodedUnit.strict? (Iso2022.units form octets)
  | signedUtf8 => Utf8.decode? (withoutMark octets)
  | markedUtf16 =>
    DecodedUnit.strict? ((markedUnits? 2 utf16 octets).getD (utf16 .littleEndian octets))
  | markedUtf32 =>
    DecodedUnit.strict? ((markedUnits? 4 utf32 octets).getD (utf32 .littleEndian octets))
  | punycode => (DecodedUnit.strict? (ascii octets)).bind Punycode.decode?
  | unusable _ => none

end Charset

end SignIn
