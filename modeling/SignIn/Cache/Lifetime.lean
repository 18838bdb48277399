import SignIn.Datum.Display
import SignIn.Error

/-!
# Time and lifetimes

The clock shows floating-point seconds. A moment is held as a signed count of units of 2 ^ -1074
seconds, so moments are compared as integers. A lifetime is a number of seconds, whole or not; when
it is zero or missing, what it belongs to never expires. Another value in its place never limits
anything if it counts as false, and has no number of seconds if it counts as true.
-/

namespace SignIn

/-- A moment: a signed count of units of 2 ^ -1074 seconds. -/
abbrev Instant := Int

/-- The number that another one was rounded to, unless that was too large and became infinite. -/
def Binary64.unlessOverflow : Binary64 → Except Fault Binary64
  | .infinite _ => .error .overflow
  | x => .ok x

/-- A number of seconds, or what stands in its place. -/
inductive Lifetime where
  | whole (seconds : Int)
  | real (seconds : Binary64)
  | other (value : Datum)

namespace Lifetime

/-- The lifetime that a value gives; none if it is null. -/
def ofDatum? : Datum → Option Lifetime
  | .null => none
  | .int n => some (.whole n)
  | .real x => some (.real x)
  | d => some (.other d)

def toDatum : Lifetime → Datum
  | .whole n => .int n
  | .real x => .real x
  | .other d => d

def limits : Lifetime → Bool
  | .whole n => n ≠ 0
  | .real x => !x.isZero
  | .other d => d.truthy

def display : Lifetime → Text
  | .whole n => Text.ofInt n
  | .real x => x.toText
  | .other d => d.display

/-- The floating-point number of a lifetime, whose seconds may be too many for one. A truth value
counts as one second or none. -/
def toBinary64 : Lifetime → Except Fault Binary64
  | .whole n => (Binary64.ofInt n).unlessOverflow
  | .real x => .ok x
  | .other (.bool b) => .ok (Binary64.ofInt (if b then 1 else 0))
  | .other _ => .error .wrongType

end Lifetime

/-- A moment of the clock that a floating-point number shows. -/
def Instant.ofBinary64? (x : Binary64) : Option Instant := x.toUnits?

/-- The moment after some seconds; none where it lies beyond every moment of the clock. -/
def Instant.after (now : Instant) (seconds : Binary64) : Option Instant :=
  match seconds with
  | .infinite true => some (-Binary64.limit)
  | x => x.toUnits?.bind fun units => Binary64.addUnits? now units

/-- When something with a lifetime expires; none for never. -/
def expiry (now : Instant) : Option Lifetime → Except Fault (Option Instant)
  | none => .ok none
  | some lifetime =>
    if lifetime.limits then lifetime.toBinary64.map (Instant.after now) else .ok none

end SignIn
