import SignIn.Text.Utf8

/-!
# UTF-16 and UTF-32

The wide encoding forms of either byte order, cut into the same units as UTF-8. A surrogate that has
no partner is malformed unless surrogates are admitted; octets that are missing at the end make one
malformed unit.
-/

namespace SignIn

inductive ByteOrder where
  | bigEndian
  | littleEndian
deriving DecidableEq

namespace Wide

def unit16 (order : ByteOrder) (a b : UInt8) : Nat :=
  match order with
  | .bigEndian => a.toNat * 0x100 + b.toNat
  | .littleEndian => b.toNat * 0x100 + a.toNat

def unit32 (order : ByteOrder) (a b c d : UInt8) : Nat :=
  match order with
  | .bigEndian => unit16 .bigEndian a b * 0x10000 + unit16 .bigEndian c d
  | .littleEndian => unit16 .littleEndian c d * 0x10000 + unit16 .littleEndian a b

/-- Whether a unit is the first half of a surrogate pair. -/
def isHigh (n : Nat) : Bool := 0xD800 ≤ n && n < 0xDC00

/-- Whether a unit is the second half of a surrogate pair. -/
def isLow (n : Nat) : Bool := 0xDC00 ≤ n && n < 0xE000

/-- A number that stands alone, which a surrogate may do only on demand. -/
def single (surrogates : Bool) (n : Nat) : DecodedUnit :=
  if (isHigh n || isLow n) && !surrogates then .malformed else DecodedUnit.ofNat n

def units16 (order : ByteOrder) (surrogates : Bool) : Octets → List DecodedUnit
  | [] => []
  | [_] => [.malformed]
  | [a, b] => [single surrogates (unit16 order a b)]
  | [a, b, c] =>
    let n := unit16 order a b
    if isHigh n && !surrogates then [.malformed]
    else single surrogates n :: units16 order surrogates [c]
  | a :: b :: c :: d :: rest =>
    let high := unit16 order a b
    let low := unit16 order c d
    if isHigh high && isLow low then
      .ofNat (0x10000 + (high - 0xD800) * 0x400 + (low - 0xDC00)) :: units16 order surrogates rest
    else single surrogates high :: units16 order surrogates (c :: d :: rest)

def units32 (order : ByteOrder) (surrogates : Bool) : Octets → List DecodedUnit
  | [] => []
  | a :: b :: c :: d :: rest =>
    single surrogates (unit32 order a b c d) :: units32 order surrogates rest
  | _ :: _ => [.malformed]

end Wide

end SignIn
