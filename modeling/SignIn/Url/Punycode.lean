import SignIn.Text.Basic

/-!
# Punycode

A text is spelled in ASCII by its ASCII code points followed by the differences that insert the
others in ascending order. A difference is a number in base 36 whose places have thresholds: a digit
below the threshold of its place ends the number, so numbers need no separator. The thresholds adapt
to the size of the differences seen so far.
-/

namespace SignIn

namespace Punycode

/-- The hyphen, which stands between the ASCII code points and the differences. -/
def delimiter : CodePoint := .ofChar '-'

/-- The first code point that has to be inserted. -/
def firstPoint : Nat := 0x80

/-- The bias before the first difference. -/
def firstBias : Nat := 72

def digit (d : Nat) : CodePoint :=
  CodePoint.ofByte (if d < 26 then 0x61 + d.toUInt8 else 0x16 + d.toUInt8)

def digitValue? (c : CodePoint) : Option Nat :=
  if c.isAsciiLower then some (c.val - 0x61)
  else if c.isAsciiUpper then some (c.val - 0x41)
  else if c.isAsciiDigit then some (c.val - 0x30 + 26)
  else none

/-- The threshold of a place, from 1 to 26. Places are counted in steps of 36. -/
def threshold (place bias : Nat) : Nat := max 1 (min 26 (place - bias))

theorem threshold_pos (place bias : Nat) : 1 ≤ threshold place bias := Nat.le_max_left _ _

/-- The bias for a difference that has been scaled down. -/
def biasOf (scaled place : Nat) : Nat :=
  if 455 < scaled then biasOf (scaled / 35) (place + 36) else place + 36 * scaled / (scaled + 38)
termination_by scaled
decreasing_by exact Nat.div_lt_self (by omega) (by omega)

/-- The bias after a difference, when so many code points stand; the first one counts less. -/
def adapt (difference points : Nat) (isFirst : Bool) : Nat :=
  let scaled := if isFirst then difference / 700 else difference / 2
  biasOf (scaled + scaled / points) 0

/-! ## Writing -/

/-- A number in digits from a place on. -/
def digits (bias place n : Nat) : Text :=
  let t := threshold place bias
  if n < t then [digit n]
  else digit (t + (n - t) % (36 - t)) :: digits bias (place + 36) ((n - t) / (36 - t))
termination_by n
decreasing_by
  have hpos := threshold_pos place bias
  have hle := Nat.div_le_self (n - threshold place bias) (36 - threshold place bias)
  omega

/-- What has been written: the digits, the running difference, the bias, and the number of code
points that stand already. -/
structure Writing where
  digits : Text
  difference : Nat
  bias : Nat
  points : Nat

/-- Passes one code point of the text while the code points numbered `n` are inserted. -/
def Writing.pass (basic n : Nat) (w : Writing) (c : CodePoint) : Writing :=
  if c.val < n then { w with difference := w.difference + 1 }
  else if c.val = n then
    ⟨w.digits ++ Punycode.digits w.bias 36 w.difference, 0,
      adapt w.difference (w.points + 1) (w.points = basic), w.points + 1⟩
  else w

/-- Inserts the code points of a text in ascending order, from a number on. -/
def insertAll (t : Text) (basic : Nat) : Nat → List Nat → Writing → Writing
  | _, [], w => w
  | least, n :: rest, w =>
    let w := { w with difference := w.difference + (n - least) * (w.points + 1) }
    let w := t.foldl (Writing.pass basic n) w
    insertAll t basic (n + 1) rest { w with difference := w.difference + 1 }

def encode (t : Text) : Text :=
  let basic := t.filter CodePoint.isAscii
  let others := ((t.filter fun c => !c.isAscii).map CodePoint.val).eraseDups.mergeSort
  let start : Writing := ⟨[], 0, firstBias, basic.length⟩
  (if basic = [] then [] else basic ++ [delimiter]) ++
    (insertAll t basic.length firstPoint others start).digits

/-! ## Reading -/

/-- What has been read: the text so far, the index and the number of the next insertion, the bias,
and of the number being read its value, and the weight and the position of its next place. -/
structure Reading where
  text : Text
  index : Nat
  point : Nat
  bias : Nat
  number : Nat
  weight : Nat
  place : Nat
  isFirst : Bool

/-- Reads one digit, and inserts a code point when it ends a number. Where the code point would be
too large, another may stand in its place. -/
def Reading.step (substitute : Option CodePoint) (r : Reading) (c : CodePoint) :
    Option Reading := do
  let d ← digitValue? c
  let t := threshold r.place r.bias
  let number := r.number + d * r.weight
  if d < t then
    let size := r.text.length + 1
    let index := r.index + number
    let point ← (CodePoint.ofNat? (r.point + index / size)).or substitute
    let place := index % size
    return ⟨r.text.take place ++ point :: r.text.drop place, place + 1, point.val,
      adapt number size r.isFirst, 0, 1, 36, false⟩
  else
    return { r with number := number, weight := r.weight * (36 - t), place := r.place + 36 }

/-- What has been read when only the ASCII code points stand. -/
def Reading.start (basic : Text) : Reading := ⟨basic, 0, firstPoint, firstBias, 0, 1, 36, true⟩

/-- The text that a spelling stands for, if its last number is complete. -/
def decode? (t : Text) : Option Text := do
  let (tail, basic) := match Text.cutAt? delimiter t.reverse with
    | some (tail, basic) => (tail.reverse, basic.reverse)
    | none => (t, [])
  let r ← tail.foldlM (Reading.step none) (Reading.start basic)
  if r.place = 36 then some r.text else none

/-- Reads digits up to the first that is none. A question mark stands for what is too large. -/
def Reading.run (r : Reading) : Text → Reading
  | [] => r
  | c :: t =>
    match r.step (some (CodePoint.ofChar '?')) c with
    | some r => r.run t
    | none => r

/-- The text that the ASCII code points and the differences stand for, as far as they can be
read. -/
def decodeLenient (basic differences : Text) : Text := ((Reading.start basic).run differences).text

end Punycode

end SignIn
