import SignIn.Number.Binary64
import SignIn.Number.Numeral

/-!
# Durations in text

A duration is written by ISO 8601, as in `P1DT2H`, or as days and a time of day, as in `1 day,
02:00:00`, or as a time whose hours may go beyond a day. A sign may stand in front. Durations are
counted in microseconds.
-/

namespace SignIn

namespace Duration

def microsPerSecond : Nat := 1000000

def secondsPerDay : Nat := 86400

def maxDays : Nat := 999999999

/-- The least number that is too large for one part of a duration. -/
def partLimit : Nat := 0x100000000

/-- The number of a run of digits in front of a text, and the rest. -/
def number? (t : Text) : Option (Nat × Text) :=
  let digits := t.takeWhile CodePoint.isAsciiDigit
  let n := Numeral.ofDigits (digits.map fun c => c.val - 0x30)
  if digits = [] ∨ partLimit ≤ n then none else some (n, t.drop digits.length)

/-- Exactly two digits in front of a text, and the rest. -/
def twoDigits? : Text → Option (Nat × Text)
  | a :: b :: t =>
    if a.isAsciiDigit && b.isAsciiDigit then some (10 * (a.val - 0x30) + (b.val - 0x30), t)
    else none
  | _ => none

/-- Whether a code point begins a fraction. -/
def isPoint (c : CodePoint) : Bool := c = '.' || c = ','

/-- What follows a given code point in front of a text. -/
def after? (c : CodePoint) : Text → Option Text
  | [] => none
  | d :: t => if d = c then some t else none

/-- The fraction that decimal places stand for, in units of binary floating point: the number of the
places and its scale are rounded digit by digit, and a scale beyond the format leaves nothing. -/
def fractionUnits (places : Text) : Nat :=
  let step := fun (state : Nat × Nat) (c : CodePoint) =>
    (Binary64.roundWhole (Binary64.roundWhole (10 * state.1) + (c.val - 0x30)),
      Binary64.roundWhole (10 * state.2))
  let (n, scale) := places.foldl step (0, 1)
  if Binary64.limit ≤ scale * Binary64.one then 0
  else Binary64.roundUnits (n * Binary64.one) scale

/-- Whole and part of a multiple of a count of units, rounded. -/
def splitMultiple (units factor : Nat) : Nat × Nat :=
  let product := Binary64.roundUnits (units * factor) 1
  (product / Binary64.one, product % Binary64.one)

/-- The microseconds of a part of a second, rounded to the nearest. -/
def microsOf (units : Nat) : Nat :=
  let (whole, part) := splitMultiple units microsPerSecond
  if Binary64.one ≤ 2 * part then whole + 1 else whole

/-- The counts of which a duration is made up. -/
structure Parts where
  days : Nat
  seconds : Nat
  micros : Nat

namespace Parts

def zero : Parts := ⟨0, 0, 0⟩

def add (a b : Parts) : Parts := ⟨a.days + b.days, a.seconds + b.seconds, a.micros + b.micros⟩

/-- The microseconds of a duration, whose seconds must not be too many for one part and whose days
must stay within the greatest count. -/
def total? (p : Parts) : Option Nat :=
  let seconds := p.seconds + p.micros / microsPerSecond
  if partLimit ≤ seconds ∨ maxDays < p.days + seconds / secondsPerDay then none
  else some ((p.days * secondsPerDay + p.seconds) * microsPerSecond + p.micros)

end Parts

inductive IsoUnit where
  | ofDays (count : Nat)
  | ofSeconds (count : Nat)

namespace IsoUnit

/-- The unit of a letter; the letters mean other units behind the `T`. -/
def ofLetter? (inTime : Bool) (c : CodePoint) : Option IsoUnit :=
  if inTime then
    if c = 'H' then some (.ofSeconds 3600) else if c = 'M' then some (.ofSeconds 60)
    else if c = 'S' then some (.ofSeconds 1) else none
  else
    if c = 'Y' then some (.ofDays 365) else if c = 'M' then some (.ofDays 30)
    else if c = 'W' then some (.ofDays 7) else if c = 'D' then some (.ofDays 1) else none

def parts : IsoUnit → Nat → Nat → Parts
  | .ofDays count, n, fraction =>
    let (days, part) := splitMultiple fraction count
    let (seconds, part) := splitMultiple part secondsPerDay
    ⟨n * count + days, seconds, microsOf part⟩
  | .ofSeconds count, n, fraction =>
    let (seconds, part) := splitMultiple fraction count
    ⟨0, n * count + seconds, microsOf part⟩

end IsoUnit

/-- The parts of ISO 8601 behind the `P`. Only the last number may have a fraction. The fuel bounds
the count of parts. -/
def isoParts (inTime ended : Bool) : Nat → Text → Option Parts
  | _, [] => some .zero
  | 0, _ :: _ => none
  | fuel + 1, c :: t =>
    if c = 'T' then if inTime then none else isoParts true ended fuel t
    else do
      let (n, rest) ← number? (c :: t)
      if ended then none
      let (places, rest) : Option Text × Text := match rest with
        | d :: u =>
          if isPoint d then
            (some (u.takeWhile CodePoint.isAsciiDigit), u.dropWhile CodePoint.isAsciiDigit)
          else (none, rest)
        | [] => (none, [])
      match rest with
      | [] => none
      | d :: rest =>
        let unit ← IsoUnit.ofLetter? inTime d
        let more ← isoParts inTime places.isSome fuel rest
        return (unit.parts n (fractionUnits (places.getD []))).add more

/-- The microseconds of the places behind a second. Those beyond the sixth are dropped. -/
def placesMicros (places : Text) : Nat :=
  let kept := places.take 6
  Numeral.ofDigits (kept.map fun c => c.val - 0x30) * Nat.pow 10 (6 - kept.length)

/-- Minutes, and seconds with a fraction if they follow. -/
def minutes? (t : Text) : Option Parts := do
  let (minute, rest) ← twoDigits? t
  if 60 ≤ minute then none
  match rest with
  | [] => return ⟨0, minute * 60, 0⟩
  | _ =>
    let (second, rest) ← twoDigits? (← after? ':' rest)
    if 60 ≤ second then none
    match rest with
    | [] => return ⟨0, minute * 60 + second, 0⟩
    | c :: places =>
      if isPoint c && places ≠ [] && places.all CodePoint.isAsciiDigit then
        return ⟨0, minute * 60 + second, placesMicros places⟩
      else none

/-- The greatest length of minutes and seconds; more places are cut off. -/
def maxMinutesLength : Nat := 12

def maxHours : Nat := 24 * 100000000

/-- A time, in which any count of hours may stand. -/
def time? (t : Text) : Option Parts := do
  let (hours, rest) ← Text.cutAt? ':' t
  let value := Numeral.ofDigits (hours.map fun c => c.val - 0x30)
  if t.length < 5 ∨ 10 < hours.length ∨ !hours.all CodePoint.isAsciiDigit then none
  if maxHours < value then none
  return Parts.add ⟨value / 24, value % 24 * 3600, 0⟩ (← minutes? (rest.take maxMinutesLength))

/-- A time of day, whose hours have two digits. -/
def timeOfDay? (t : Text) : Option Parts := do
  let (hour, rest) ← twoDigits? t
  if 24 ≤ hour then none
  return Parts.add ⟨0, hour * 3600, 0⟩ (← minutes? (← after? ':' rest))

/-- Drops the word for days, of which only the first letter must stand. -/
def dropDays? (t : Text) : Option Text :=
  match t with
  | [] => none
  | c :: t =>
    if c ≠ 'd' ∧ c ≠ 'D' then none
    else match t with
      | a :: u =>
        if a ≠ 'a' ∧ a ≠ 'A' then some t
        else match u with
          | y :: v =>
            if y ≠ 'y' ∧ y ≠ 'Y' then none
            else match v with
              | s :: w => if s = 's' ∨ s = 'S' then some w else some v
              | [] => some []
          | [] => none
      | [] => some []

/-- What stands behind an optional code point. -/
def dropOne (c : CodePoint) (t : Text) : Text := (after? c t).getD t

/-- Days, and a time of day if it follows, behind an optional comma and an optional blank. -/
def days? (t : Text) : Option Parts := do
  let (days, rest) ← number? t
  let rest ← dropDays? (dropOne ' ' rest)
  match dropOne ' ' (dropOne ',' rest) with
  | [] => return ⟨days, 0, 0⟩
  | rest => return Parts.add ⟨days, 0, 0⟩ (← timeOfDay? rest)

def namesDays (t : Text) : Bool := t.any fun c => c = 'd' || c = 'D'

/-- The microseconds of a duration in text. ISO 8601 needs one part at least. -/
def read? (t : Text) : Option Int := do
  let (negative, body) := Numeral.sign t
  let parts ← match after? 'P' body with
    | some parts =>
      if parts.length < 2 then none else isoParts false false (parts.length + 1) parts
    | none => if namesDays t ∨ t.length < 5 then days? body else time? body
  return Numeral.signed negative (← parts.total?)

end Duration

end SignIn
