import SignIn.Text.Blank
import SignIn.Text.Digit

/-!
# Numbers in text

A number is written as digits with an optional sign; a single underscore may stand between two
digits. At most 4300 digits are read. The decimal digits of every script are admitted where the
reader says so.
-/

namespace SignIn

namespace Numeral

/-- The greatest count of digits that is read. -/
def maxDigits : Nat := 4300

/-- The values of digits with single underscores between them. -/
def digitRun? (value? : CodePoint → Option Nat) : Text → Option (List Nat)
  | [] => none
  | [c] => (value? c).map ([·])
  | c :: d :: t =>
    match value? c with
    | none => none
    | some n =>
      if d = '_' then (digitRun? value? t).map (n :: ·)
      else (digitRun? value? (d :: t)).map (n :: ·)

/-- The number that digits stand for, the leading one first. -/
def ofDigits (digits : List Nat) : Nat := digits.foldl (fun n d => 10 * n + d) 0

def sign : Text → Bool × Text
  | [] => (false, [])
  | c :: t =>
    if c = '-' then (true, t)
    else if c = '+' then (false, t)
    else (false, c :: t)

def signed (negative : Bool) (n : Nat) : Int := if negative then -n else n

/-- White space that may surround a number: all but the information separators. -/
def isOuter (c : CodePoint) : Bool := c.isSpace && !(0x1C ≤ c.val && c.val ≤ 0x1F)

/-- The integer of a text with white space around it. Digits of every script count. -/
def integer? (t : Text) : Option Int :=
  let (negative, digits) := sign (Text.trimWhere isOuter t)
  match digitRun? CodePoint.decimalValue? digits with
  | none => none
  | some digits =>
    if digits.length ≤ maxDigits then some (signed negative (ofDigits digits)) else none

def isRun (t : Text) : Bool := (digitRun? CodePoint.decimalValue? t).isSome

/-- The words for the numbers that have no digits. -/
def realWords : List String := ["inf", "infinity", "nan"]

def isReal (t : Text) : Bool :=
  let body := (sign (Text.trimWhere isOuter t)).2.toAsciiLower
  let (mantissa, powerFits) : Text × Bool :=
    match Text.cutAt? 'e' body with
    | some (mantissa, power) => (mantissa, isRun (sign power).2)
    | none => (body, true)
  let mantissaFits :=
    match Text.cutAt? '.' mantissa with
    | some (whole, []) => isRun whole
    | some ([], places) => isRun places
    | some (whole, places) => isRun whole && isRun places
    | none => isRun mantissa
  realWords.any (fun word => Text.ofString word == body) || mantissaFits && powerFits

end Numeral

end SignIn
