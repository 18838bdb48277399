/-!
# Binary digits of π

The fractional part of π serves as a source of constants without structure. It is computed by
Machin's formula, π = 16 arctan (1 / 5) - 4 arctan (1 / 239), in integers scaled by a power of two.
-/

namespace SignIn

namespace Pi

/-- The terms of the arctangent series from a given odd divisor on, alternating in sign; the fuel
bounds their count. -/
def series (square : Nat) : Nat → Nat → Int → Nat → Int
  | 0, _, _, _ => 0
  | fuel + 1, power, signum, odd =>
    if power = 0 then 0
    else signum * (power / odd : Nat) + series square fuel (power / square) (-signum) (odd + 2)

/-- The arctangent of `1 / x`, scaled by a power of two; each term adds at least two bits. -/
def arctanInverse (x bits : Nat) : Int := series (x * x) (bits + 1) ((1 <<< bits) / x) 1 1

/-- Bits that are computed beyond those that are used. -/
def guardBits : Nat := 64

def fractionBits (bits : Nat) : Nat :=
  let scaled := 16 * arctanInverse 5 (bits + guardBits) - 4 * arctanInverse 239 (bits + guardBits)
  (scaled.toNat >>> guardBits) % (1 <<< bits)

/-- The first 32-bit words of the fractional part of π. -/
def words (count : Nat) : Array UInt32 :=
  let digits := fractionBits (32 * count)
  Array.ofFn fun i : Fin count => UInt32.ofNat (digits >>> (32 * (count - 1 - i)))

end Pi

end SignIn
