import SignIn.Charset.Jis0208
import SignIn.Charset.Jis0212
import SignIn.Charset.Jis0213
import SignIn.Charset.Scan
import SignIn.Charset.Windows932

/-!
# Japanese character sets

The planes of the Japanese standards are sent in two ways: with the high bit set, or shifted so that
they leave room for the half-width katakana. The page of Windows is a shifted one with signs of its
own; the second standard comes in two editions.
-/

namespace SignIn

namespace Japanese

def halfwidth? (n : Nat) : Option CodePoint :=
  if 0xA1 ≤ n ∧ n ≤ 0xDF then CodePoint.ofNat? (0xFEC0 + n) else none

/-- The Roman letter of an octet in the Japanese form of ASCII, which has a yen sign and an
overline.
-/
def roman? (n : Nat) : Option CodePoint :=
  if n = 0x5C then CodePoint.ofNat? 0xA5
  else if n = 0x7E then CodePoint.ofNat? 0x203E
  else if n < 0x80 then CodePoint.ofNat? n
  else none

/-- The row and the place of two octets in shifted form. Rows are counted on behind the last one of
a plane. -/
def unshift? (lead trail : Nat) : Option (Nat × Nat) :=
  let row? : Option Nat :=
    if 0x81 ≤ lead ∧ lead ≤ 0x9F then some (lead - 0x81)
    else if 0xE0 ≤ lead ∧ lead ≤ 0xFC then some (lead - 0xC1)
    else none
  let place? : Option Nat :=
    if 0x40 ≤ trail ∧ trail ≤ 0x7E then some (trail - 0x40)
    else if 0x80 ≤ trail ∧ trail ≤ 0xFC then some (trail - 0x41)
    else none
  match row?, place? with
  | some row, some place =>
    some (if place < 94 then (2 * row + 0x21, place + 0x21)
      else (2 * row + 0x22, place - 94 + 0x21))
  | _, _ => none

def alone (c : Option CodePoint) : Option Text := c.map fun c => [c]

/-- The step of so many octets that stand for a text, or of which the first means nothing. -/
def charStep (length : Nat) (t : Option Text) : ScanStep Unit :=
  match t with
  | some t => .text t length ()
  | none => .malformed 1

/-! ## The first standard -/

def shiftJisPair? (lead trail : Nat) : Option Text :=
  (unshift? lead trail).bind fun (row, place) => alone (Plane.jis0208.char? row place)

def shiftJis : Octets → List DecodedUnit :=
  scanPairs (fun b => (asciiSingle? b).or (halfwidth? b.toNat)) shiftJisPair?

/-- The planes in which the page of Windows departs from Shift JIS. -/
def windowsPlanes : List Plane :=
  [.windows932Signs, .windows932Marks, .windows932Selected, .windows932Ideographs]

/-- The code point for private use of two octets in the page of Windows. -/
def windowsPrivate? (lead trail : Nat) : Option CodePoint :=
  if 0xF0 ≤ lead ∧ lead ≤ 0xF9 then
    (unshift? 0x81 trail).bind fun (row, place) =>
      CodePoint.ofNat? (0xE000 + 188 * (lead - 0xF0) + 94 * (row - 0x21) + (place - 0x21))
  else none

/-- A pair of octets in the page of Windows. -/
def windowsPair? (lead trail : Nat) : Option Text :=
  (alone ((Plane.findChar? windowsPlanes lead trail).or (windowsPrivate? lead trail))).or
    (if lead ≤ 0xEA then shiftJisPair? lead trail else none)

/-- An octet that stands alone in the page of Windows. -/
def windowsSingle? (b : UInt8) : Option CodePoint :=
  if b ≤ 0x80 then some (.ofByte b)
  else if b = 0xA0 then CodePoint.ofNat? 0xF8F0
  else if 0xFD ≤ b then CodePoint.ofNat? (0xF8F1 + (b.toNat - 0xFD))
  else halfwidth? b.toNat

def windows : Octets → List DecodedUnit := scanPairs windowsSingle? windowsPair?

/-- The step of a form with the high bit set: ASCII, half-width katakana behind 0x8E, a further
plane behind 0x8F, and a plane. -/
def highStep (plane further : Nat → Nat → ScanStep Unit) (_ : Unit) (a : UInt8) (rest : Octets) :
    ScanStep Unit :=
  if a < 0x80 then .text [.ofByte a] 1 ()
  else if a = 0x8F then
    match rest with
    | b :: c :: _ => further (b ^^^ 0x80).toNat (c ^^^ 0x80).toNat
    | _ => .cutOff
  else
    match rest with
    | [] => .cutOff
    | b :: _ =>
      if a = 0x8E then charStep 2 (alone (halfwidth? b.toNat))
      else plane (a ^^^ 0x80).toNat (b ^^^ 0x80).toNat

def eucJp : Octets → List DecodedUnit :=
  scan (highStep (fun row place => charStep 2 (alone (Plane.jis0208.char? row place)))
    (fun row place => charStep 3 (alone (Plane.jis0212.char? row place)))) ()

/-! ## The second standard -/

inductive Edition where
  | first
  | second
deriving DecidableEq

/-- The places of the first plane that the first edition leaves empty. -/
def addedPlaces : List (Nat × Nat) :=
  [(0x2E, 0x21), (0x2F, 0x7E), (0x4F, 0x54), (0x4F, 0x7E), (0x74, 0x27), (0x7E, 0x7A),
   (0x7E, 0x7B), (0x7E, 0x7C), (0x7E, 0x7D), (0x7E, 0x7E)]

/-- The characters that are written as two code points. -/
def composite? (row place : Nat) : Option Text :=
  (jis0213Pairs.find? fun p => p.1 = row && p.2.1 = place).map fun p =>
    [p.2.2.1, p.2.2.2].filterMap CodePoint.ofNat?

/-- Whether a place of the first plane is empty in an edition and not in the other. -/
def isLeftEmpty (edition : Edition) (row place : Nat) : Bool :=
  edition = .first && addedPlaces.contains (row, place)

/-- A character of the first plane, which holds the plane of the first standard. -/
def firstPlane? (edition : Edition) (row place : Nat) : Option Text :=
  if isLeftEmpty edition row place then none
  else
    (alone ((Plane.jis0208.char? row place).or (Plane.jis0213First.char? row place))).or
      (composite? row place)

/-- A character of the second plane. One of them differs in the first edition. -/
def secondPlane? (edition : Edition) (row place : Nat) : Option Text :=
  if edition = .first && row = 0x7D && place = 0x3B then alone (CodePoint.ofNat? 0x9B1D)
  else alone (Plane.jis0213Second.char? row place)

/-- The row of the second plane for a row in shifted form. -/
def secondRow (row : Nat) : Nat :=
  if 0x88 ≤ row then row - 0x1A
  else if 0x84 ≤ row ∨ row = 0x80 then row - 0x58
  else row - 0x5E

/-- A pair of octets in the shifted form of the second standard. -/
def shiftedPair? (edition : Edition) (lead trail : Nat) : Option Text :=
  (unshift? lead trail).bind fun (row, place) =>
    if row = 0x21 ∧ place = 0x40 then some [CodePoint.ofByte 0x5C]
    else if row ≤ 0x7E then firstPlane? edition row place
    else secondPlane? edition (secondRow row) place

/-- The step of the shifted form of the second standard. A place that was left empty makes one
unit. -/
def shiftedStep (edition : Edition) (s : Unit) (a : UInt8) (rest : Octets) : ScanStep Unit :=
  let found? := rest.head?.bind fun b => unshift? a.toNat b.toNat
  if found?.any fun (row, place) => isLeftEmpty edition row place then .malformed 2
  else
    pairStep (fun b => (roman? b.toNat).or (halfwidth? b.toNat)) (shiftedPair? edition) s a rest

/-- The units of octets in the shifted form of the second standard. -/
def shifted (edition : Edition) : Octets → List DecodedUnit := scan (shiftedStep edition) ()

/-- The step of a place of the first plane with the high bit set. One of the signs is full-width. -/
def firstPlaneStep (edition : Edition) (row place : Nat) : ScanStep Unit :=
  if isLeftEmpty edition row place then .malformed 2
  else
    charStep 2 <|
      if row = 0x22 ∧ place = 0x32 then alone (CodePoint.ofNat? 0xFF5E)
      else firstPlane? edition row place

/-- The units of octets in the form of the second standard with the high bit set. -/
def euc (edition : Edition) : Octets → List DecodedUnit :=
  scan (highStep (firstPlaneStep edition) fun row place =>
    charStep 3 ((secondPlane? edition row place).or (alone (Plane.jis0212.char? row place)))) ()

end Japanese

end SignIn
