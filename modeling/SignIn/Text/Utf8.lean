import SignIn.Text.Basic

/-!
# UTF-8

A text has a UTF-8 form exactly when it holds no surrogate. Decoding works on units: one unit is
either a code point or a malformed run of octets, as long as it could still have begun a code point.
Strict decoding refuses malformed runs, lenient decoding writes U+FFFD for each.
-/

namespace SignIn

def CodePoint.utf8 (c : CodePoint) : Octets :=
  let n := c.val
  if n < 0x80 then [UInt8.ofNat n]
  else if n < 0x800 then [UInt8.ofNat (0xC0 + n / 0x40), UInt8.ofNat (0x80 + n % 0x40)]
  else if n < 0x10000 then
    [UInt8.ofNat (0xE0 + n / 0x1000), UInt8.ofNat (0x80 + n / 0x40 % 0x40),
      UInt8.ofNat (0x80 + n % 0x40)]
  else
    [UInt8.ofNat (0xF0 + n / 0x40000), UInt8.ofNat (0x80 + n / 0x1000 % 0x40),
      UInt8.ofNat (0x80 + n / 0x40 % 0x40), UInt8.ofNat (0x80 + n % 0x40)]

/-- What the octets of an encoded text begin with. -/
inductive DecodedUnit where
  | point (c : CodePoint)
  | malformed
deriving DecidableEq

namespace DecodedUnit

/-- The code points of units without a malformed one. -/
def strict? : List DecodedUnit → Option Text
  | [] => some []
  | .point c :: us => (strict? us).map (c :: ·)
  | .malformed :: _ => none

/-- The code points of units, with U+FFFD for each malformed one. -/
def lenient (us : List DecodedUnit) : Text :=
  us.map fun
    | .point c => c
    | .malformed => CodePoint.replacement

/-- The unit of a number, which is malformed when it numbers no code point. -/
def ofNat (n : Nat) : DecodedUnit :=
  match CodePoint.ofNat? n with
  | some c => .point c
  | none => .malformed

end DecodedUnit

namespace Utf8

def encodable (t : Text) : Bool := t.all fun c => !c.isSurrogate

def encode? (t : Text) : Option Octets :=
  if encodable t then some (t.flatMap CodePoint.utf8) else none

/-- Whether an octet continues a sequence that a lead octet began. -/
def isContinuation (b : UInt8) : Bool := 0x80 ≤ b && b ≤ 0xBF

/-- Whether an octet may come second after a lead octet. A well-formed sequence has no shorter form
and stays below U+110000; surrogates are admitted only on demand. -/
def maySecond (surrogates : Bool) (lead second : UInt8) : Bool :=
  isContinuation second &&
    !(lead = 0xE0 && second < 0xA0) && !(lead = 0xED && 0x9F < second && !surrogates) &&
    !(lead = 0xF0 && second < 0x90) && !(lead = 0xF4 && 0x8F < second)

/-- The number that a two-octet sequence stands for. -/
def pair (a b : UInt8) : Nat := (a.toNat - 0xC0) * 0x40 + (b.toNat - 0x80)

/-- The number that a three-octet sequence stands for. -/
def triple (a b c : UInt8) : Nat :=
  (a.toNat - 0xE0) * 0x1000 + (b.toNat - 0x80) * 0x40 + (c.toNat - 0x80)

/-- The number that a four-octet sequence stands for. -/
def quadruple (a b c d : UInt8) : Nat :=
  (a.toNat - 0xF0) * 0x40000 + (b.toNat - 0x80) * 0x1000 + (c.toNat - 0x80) * 0x40 +
    (d.toNat - 0x80)

/-- The first unit of some octets and how many octets it takes after the first. -/
def firstUnit (surrogates : Bool) (a : UInt8) (rest : Octets) : DecodedUnit × Nat :=
  if a < 0x80 then (.ofNat a.toNat, 0)
  else if a < 0xC2 then (.malformed, 0)
  else if a < 0xE0 then
    match rest with
    | b :: _ => if isContinuation b then (.ofNat (pair a b), 1) else (.malformed, 0)
    | [] => (.malformed, 0)
  else if a < 0xF0 then
    match rest with
    | b :: c :: _ =>
      if !maySecond surrogates a b then (.malformed, 0)
      else if isContinuation c then (.ofNat (triple a b c), 2)
      else (.malformed, 1)
    | [b] => (.malformed, if maySecond surrogates a b then 1 else 0)
    | [] => (.malformed, 0)
  else if a < 0xF5 then
    match rest with
    | b :: c :: d :: _ =>
      if !maySecond surrogates a b then (.malformed, 0)
      else if !isContinuation c then (.malformed, 1)
      else if isContinuation d then (.ofNat (quadruple a b c d), 3)
      else (.malformed, 2)
    | [b, c] =>
      (.malformed, if !maySecond surrogates a b then 0 else if isContinuation c then 2 else 1)
    | [b] => (.malformed, if maySecond surrogates a b then 1 else 0)
    | [] => (.malformed, 0)
  else (.malformed, 0)

def units (surrogates : Bool) : Octets → List DecodedUnit
  | [] => []
  | a :: rest =>
    let first := firstUnit surrogates a rest
    first.1 :: units surrogates (rest.drop first.2)
termination_by octets => octets.length
decreasing_by simp only [List.length_drop, List.length_cons]; omega

/-- Strict decoding, which fails on malformed octets. -/
def decode? (octets : Octets) : Option Text := DecodedUnit.strict? (units false octets)

/-- Strict decoding that lets encoded surrogates pass. -/
def decodeSurrogates? (octets : Octets) : Option Text := DecodedUnit.strict? (units true octets)

/-- Lenient decoding: U+FFFD stands for each malformed run. -/
def decodeLenient (octets : Octets) : Text := DecodedUnit.lenient (units false octets)

end Utf8

end SignIn
