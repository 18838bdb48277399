import SignIn.Text.Utf8
import SignIn.Text.Wide
import SignIn.Codec.Base64

/-!
# UTF-7

Characters outside ASCII are written in base 64 behind a plus sign, as UTF-16 without padding; the
first character that is no digit of base 64 ends the section, and a hyphen that ends one is dropped.
Each section that ends in the middle of a character is malformed.
-/

namespace SignIn

namespace Utf7

/-- A section in base 64 that is being read: the bits left over, how many they are, and the first
half of a surrogate pair. -/
structure Section where
  bits : Nat
  count : Nat
  high : Option Nat

def Section.start : Section := ⟨0, 0, none⟩

def Section.take (s : Section) (unit : Nat) : List DecodedUnit × Section :=
  let (written, alone) : List DecodedUnit × Bool :=
    match s.high with
    | some high =>
      if Wide.isLow unit then
        ([.ofNat (0x10000 + (high - 0xD800) * 0x400 + (unit - 0xDC00))], false)
      else ([.ofNat high], true)
    | none => ([], true)
  if alone && Wide.isHigh unit then (written, { s with high := some unit })
  else if alone then (written ++ [.ofNat unit], { s with high := none })
  else (written, { s with high := none })

def Section.push (s : Section) (digit : Nat) : List DecodedUnit × Section :=
  let bits := s.bits * 64 + digit
  let count := s.count + 6
  if 16 ≤ count then
    let left := count - 16
    Section.take ⟨bits % (1 <<< left), left, s.high⟩ (bits >>> left)
  else ([], ⟨bits, count, s.high⟩)

/-- Whether a section ends in the middle of a character. -/
def Section.isBroken (s : Section) : Bool := 6 ≤ s.count || 0 < s.count && s.bits ≠ 0

def digit? (a : UInt8) : Option Nat := Base64.value? .standard (CodePoint.ofByte a)

/-- What a section that ends at a direct character leaves to be written. -/
def Section.pending (s : Section) : List DecodedUnit := (s.high.map DecodedUnit.ofNat).toList

/-- The units of octets, in a section or outside one. -/
def unitsFrom : Option Section → Octets → List DecodedUnit
  | none, [] => []
  | some s, [] => if s.high.isSome || s.isBroken then [.malformed] else []
  | some s, a :: rest =>
    match digit? a with
    | some digit =>
      let (units, s) := s.push digit
      units ++ unitsFrom (some s) rest
    | none =>
      if s.isBroken then .malformed :: unitsFrom none rest
      else if a = 0x2D then s.pending ++ unitsFrom none rest
      else if a < 0x80 then s.pending ++ .point (.ofByte a) :: unitsFrom none rest
      else .malformed :: unitsFrom none rest
  | none, a :: rest =>
    if a = 0x2B then
      match rest with
      | [] => []
      | b :: after =>
        if b = 0x2D then .point (.ofByte 0x2B) :: unitsFrom none after
        else if (digit? b).isSome then unitsFrom (some .start) (b :: after)
        else .malformed :: unitsFrom none after
    else if a < 0x80 then .point (.ofByte a) :: unitsFrom none rest
    else .malformed :: unitsFrom none rest
termination_by _ octets => octets.length
decreasing_by all_goals (simp only [List.length_cons]; omega)

def units (octets : Octets) : List DecodedUnit := unitsFrom none octets

end Utf7

end SignIn
