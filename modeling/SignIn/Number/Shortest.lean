import SignIn.Number.Binary64
import SignIn.Text.Basic

/-!
# Shortest decimal text

A finite number is written with the fewest digits that read back as the same number, and of the
candidates with that many digits by the nearest. The search walks the decimal grids from one digit
to seventeen and tests the two grid points about the number in exact arithmetic. The layout is
positional for decimal exponents from -4 to 15 and exponential beyond.
-/

namespace SignIn

namespace Shortest

/-- A decimal fraction: `digits * 10 ^ exponent`. -/
structure Decimal where
  digits : Nat
  exponent : Int
deriving DecidableEq

/-- Four times the counts of units between which every number is rounded to the given count, and
whether the ends belong to it. The lower half gap is narrower at a power of two. -/
def interval (units : Nat) : Nat × Nat × Bool :=
  let gap := Binary64.spacing units
  let narrow := 1 < gap && units = gap * (1 <<< 52)
  (4 * units - (if narrow then gap else 2 * gap), 4 * units + 2 * gap, units / gap % 2 = 0)

/-- A fraction of natural numbers equal to four times the units of `d * 10 ^ exponent`. -/
def scaled (d : Nat) (exponent : Int) : Nat × Nat :=
  if 0 ≤ exponent then (4 * d * Nat.pow 10 exponent.toNat * Binary64.one, 1)
  else (4 * d * Binary64.one, Nat.pow 10 (-exponent).toNat)

/-- Whether a decimal fraction reads back as the given count of units. -/
def readsBack (units : Nat) (d : Decimal) : Bool :=
  let (low, high, closed) := interval units
  let (numerator, denominator) := scaled d.digits d.exponent
  if closed then low * denominator ≤ numerator && numerator ≤ high * denominator
  else low * denominator < numerator && numerator < high * denominator

/-- The digits of the grid point just below the given count of units. -/
def floorDigits (units : Nat) (exponent : Int) : Nat :=
  if 0 ≤ exponent then units / (Binary64.one * Nat.pow 10 exponent.toNat)
  else units * Nat.pow 10 (-exponent).toNat / Binary64.one

/-- The exponent of the leading decimal digit. -/
def magnitude (units : Nat) : Int :=
  let guess := (((units.log2 : Int) - 1074) * 30103).fdiv 100000
  if floorDigits units (guess + 1) = 0 then guess else guess + 1

/-- The nearer of two neighbouring grid points, the even one if both are as near. -/
def nearer (units : Nat) (lower upper : Decimal) : Decimal :=
  let (a, denominator) := scaled lower.digits lower.exponent
  let (b, _) := scaled upper.digits upper.exponent
  let target := 4 * units * denominator
  if target - a < b - target then lower
  else if b - target < target - a then upper
  else if lower.digits % 2 = 0 then lower else upper

/-- The best decimal fraction on the grid of a given exponent that reads back, if there is one. -/
def onGrid (units : Nat) (exponent : Int) : Option Decimal :=
  let digits := floorDigits units exponent
  let lower : Decimal := ⟨digits, exponent⟩
  let upper : Decimal := ⟨digits + 1, exponent⟩
  match readsBack units lower, readsBack units upper with
  | true, true => some (nearer units lower upper)
  | true, false => some lower
  | false, true => some upper
  | false, false => none

/-- Drops the zeros at the end of the digits. -/
def normalize (d : Decimal) : Nat → Decimal
  | 0 => d
  | bound + 1 =>
    if d.digits % 10 = 0 then normalize ⟨d.digits / 10, d.exponent + 1⟩ bound else d

/-- The shortest decimal fraction that reads back as a positive count of units. -/
def decimal (units : Nat) : Decimal :=
  let leading := magnitude units
  let found := (List.range 17).findSome? fun n : Nat => onGrid units (leading - n)
  normalize (found.getD ⟨floorDigits units (leading - 16), leading - 16⟩) 20

def layout (d : Decimal) : Text :=
  let digits := Text.ofNat d.digits
  let point : Int := digits.length + d.exponent
  let zeros (n : Int) : Text := List.replicate n.toNat (CodePoint.ofChar '0')
  if -4 < point ∧ point ≤ 16 then
    if point ≤ 0 then ("0." : Text) ++ zeros (-point) ++ digits
    else if digits.length ≤ point then digits ++ zeros (point - digits.length) ++ (".0" : Text)
    else digits.take point.toNat ++ ("." : Text) ++ digits.drop point.toNat
  else
    let exponent := point - 1
    let size := Text.ofNat exponent.natAbs
    let fraction : Text := if digits.length = 1 then [] else ("." : Text) ++ digits.drop 1
    digits.take 1 ++ fraction ++ (if exponent < 0 then ("e-" : Text) else ("e+" : Text)) ++
      zeros (2 - size.length) ++ size

end Shortest

def Binary64.toText : Binary64 → Text
  | .nan => "nan"
  | .infinite negative => if negative then "-inf" else "inf"
  | .finite negative units =>
    let sign : Text := if negative then "-" else []
    if units = 0 then sign ++ ("0.0" : Text) else sign ++ Shortest.layout (Shortest.decimal units)

example : (Binary64.ofDecimal false 5 (-324)).toText = ("5e-324" : Text) := by decide +kernel

example : (Binary64.ofDecimal true 1 (-1)).toText = ("-0.1" : Text) := by decide +kernel

example : (Binary64.ofDecimal false 1 16).toText = ("1e+16" : Text) := by decide +kernel

example : (Binary64.ofDecimal false 1234 (-2)).toText = ("12.34" : Text) := by decide +kernel

end SignIn
