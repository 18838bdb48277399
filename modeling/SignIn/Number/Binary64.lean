/-!
# Binary floating point

Numbers of the IEEE 754 format `binary64`, held exactly: a finite number is a whole count of the
smallest positive number 2 ^ -1074, with a sign that zero carries too. Decimal numbers and
integers are rounded to the nearest representable number, and a half goes to the even neighbour.
-/

namespace SignIn

/-- A floating-point number. A finite one is a signed count of units of 2 ^ -1074. -/
inductive Binary64 where
  | finite (negative : Bool) (units : Nat)
  | infinite (negative : Bool)
  | nan
deriving DecidableEq

namespace Binary64

def one : Nat := 1 <<< 1074

/-- The least count of units that is too large for a finite number. -/
def limit : Nat := 1 <<< 2098

/-- The distance between the representable counts of units about a given count. -/
def spacing (units : Nat) : Nat := 1 <<< (units.log2 - 52)

/-- The representable count of units nearest to a fraction; a half goes to the even neighbour. -/
def roundUnits (numerator denominator : Nat) : Nat :=
  let gap := spacing (numerator / denominator)
  let below := numerator / (denominator * gap)
  let twice := 2 * (numerator - below * (denominator * gap))
  if twice < denominator * gap then below * gap
  else if denominator * gap < twice then (below + 1) * gap
  else if below % 2 = 0 then below * gap
  else (below + 1) * gap

/-- The representable whole number nearest to a whole number. -/
def roundWhole (n : Nat) : Nat := roundUnits (n * one) 1 / one

/-- The number of a sign and a fraction of units. -/
def ofFraction (negative : Bool) (numerator denominator : Nat) : Binary64 :=
  let units := roundUnits numerator denominator
  if units < limit then .finite negative units else .infinite negative

/-- The number nearest to `digits * 10 ^ exponent`. Decimal exponents far outside the range of the
format are answered without computing the power. -/
def ofDecimal (negative : Bool) (digits : Nat) (exponent : Int) : Binary64 :=
  let magnitude : Int := (Nat.toDigits 10 digits).length + exponent
  if digits = 0 then .finite negative 0
  else if 310 < magnitude then .infinite negative
  else if magnitude < -330 then .finite negative 0
  else if 0 ≤ exponent then ofFraction negative (digits * Nat.pow 10 exponent.toNat * one) 1
  else ofFraction negative (digits * one) (Nat.pow 10 (-exponent).toNat)

def ofInt (n : Int) : Binary64 := ofFraction (n < 0) (n.natAbs * one) 1

/-- The signed count of units of a finite number. -/
def toUnits? : Binary64 → Option Int
  | .finite true units => some (-units)
  | .finite false units => some units
  | _ => none

/-- The integer part of a finite number: the fraction is dropped, toward zero. -/
def truncate? (x : Binary64) : Option Int := x.toUnits?.map fun units => units.tdiv one

def isWhole : Binary64 → Bool
  | .finite _ units => units % one = 0
  | _ => false

/-- Whether a number is a zero of either sign. -/
def isZero : Binary64 → Bool
  | .finite _ units => units = 0
  | _ => false

/-- The sum of two finite counts of units, rounded; missing when the sum is too large. -/
def addUnits? (a b : Int) : Option Int :=
  match ofFraction (a + b < 0) (a + b).natAbs 1 with
  | .finite negative units => some (if negative then -units else units)
  | _ => none

example : ofDecimal false 1 0 = .finite false one := by decide +kernel

example : ofDecimal true 25 (-1) = ofFraction true (5 * one) 2 := by decide +kernel

example : ofDecimal false 17 307 = .finite false (roundUnits (17 * 10 ^ 307 * one) 1) := by
  decide +kernel

example : ofDecimal false 18 307 = .infinite false := by decide +kernel

example : ofDecimal false 5 (-324) = .finite false 1 := by decide +kernel

end Binary64

end SignIn
