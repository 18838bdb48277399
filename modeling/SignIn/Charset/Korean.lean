import SignIn.Charset.Ksx1001
import SignIn.Charset.Scan
import SignIn.Text.Composition

/-!
# Korean character sets

The plane of the Korean standard holds the syllables in use. The rest are spelled out by their
letters, or follow in the order of Unicode in the page of Windows, or all syllables are put together
from numbered letters.
-/

namespace SignIn

namespace Korean

/-- The letters that a syllable may begin with, in the order of Unicode. -/
def leads : String := "ㄱㄲㄴㄷㄸㄹㅁㅂㅃㅅㅆㅇㅈㅉㅊㅋㅌㅍㅎ"

/-- The letters that a syllable may end in, in the order of Unicode. -/
def tails : String := "ㄱㄲㄳㄴㄵㄶㄷㄹㄺㄻㄼㄽㄾㄿㅀㅁㅂㅄㅅㅆㅇㅈㅊㅋㅌㅍㅎ"

def firstVowel : Nat := 0x314F

/-- The syllable of numbered letters; the number of the last one is 0 if there is none. -/
def syllable? (lead vowel tail : Nat) : Option CodePoint :=
  CodePoint.ofNat? (Composition.syllableNumber lead vowel tail)

def isSyllable (n : Nat) : Bool :=
  Composition.syllableBase ≤ n && n < Composition.syllableBase + Composition.syllableCount

/-! ## The standard -/

/-- The place of the sign for no letter among the letters. -/
def filler : UInt8 := 0xD4

def letterRow : UInt8 := 0xA4

/-- The number of a letter among others, by the octet of its place. -/
def letterNumber? (letters : String) (b : UInt8) : Option Nat :=
  if 0xA1 ≤ b ∧ b ≤ 0xBE then
    letters.toList.findIdx? fun c => c.toNat = 0x3131 + (b.toNat - 0xA1)
  else none

/-- The syllable that three letters spell, by the octets of their places. -/
def spelled? (lead vowel tail : UInt8) : Option CodePoint := do
  let lead ← letterNumber? leads lead
  let vowel ← if 0xBF ≤ vowel ∧ vowel ≤ 0xD3 then some (vowel.toNat - 0xBF) else none
  let tail ← if tail = filler then some 0 else (letterNumber? tails tail).map (· + 1)
  syllable? lead vowel tail

/-- The step of the standard: ASCII, a spelled syllable behind a filler, or a place of the plane. -/
def standardStep (_ : Unit) (a : UInt8) (rest : Octets) : ScanStep Unit :=
  if a < 0x80 then .text [.ofByte a] 1 ()
  else
    match rest with
    | [] => .cutOff
    | b :: rest =>
      if a = letterRow ∧ b = filler then
        match rest with
        | r1 :: lead :: r2 :: vowel :: r3 :: tail :: _ =>
          if r1 = letterRow ∧ r2 = letterRow ∧ r3 = letterRow then
            match spelled? lead vowel tail with
            | some c => .text [c] 8 ()
            | none => .malformed 1
          else .malformed 1
        | _ => .cutOff
      else
        match Plane.ksx1001.char? (a ^^^ 0x80).toNat (b ^^^ 0x80).toNat with
        | some c => .text [c] 2 ()
        | none => .malformed 1

def eucKr : Octets → List DecodedUnit := scan standardStep ()

/-! ## The page of Windows -/

/-- What is left of the numbers from one on when the members of an ascending list are left out. The
first argument counts the numbers. -/
def leavingOut : Nat → Nat → List Nat → List Nat
  | 0, _, _ => []
  | count + 1, n, [] => n :: leavingOut count (n + 1) []
  | count + 1, n, m :: rest =>
    if n = m then leavingOut count (n + 1) rest else n :: leavingOut count (n + 1) (m :: rest)

/-- The syllables that the plane lacks, in the order of Unicode. -/
def lackingSyllables : Array Nat :=
  let held := (Plane.ksx1001.chars.flatMap fun run => run.2.toList.map Char.toNat).filter isSyllable
  (leavingOut Composition.syllableCount Composition.syllableBase held).toArray

/-- The place of a second octet in front of the plane, where letters of ASCII leave gaps. -/
def lowPlace? (trail : Nat) : Option Nat :=
  if 0x41 ≤ trail ∧ trail ≤ 0x5A then some (trail - 0x41)
  else if 0x61 ≤ trail ∧ trail ≤ 0x7A then some (trail - 0x61 + 26)
  else if 0x81 ≤ trail ∧ trail ≤ 0xFE then some (trail - 0x81 + 52)
  else none

/-- A syllable that the page of Windows adds to the plane. Rows in front of the plane are wider. -/
def added? (lead trail : Nat) : Option CodePoint := do
  let place ← lowPlace? trail
  let index ←
    if 0x81 ≤ lead ∧ lead ≤ 0xA0 then some ((lead - 0x81) * 178 + place)
    else if 0xA1 ≤ lead ∧ trail ≤ 0xA0 then some (32 * 178 + (lead - 0xA1) * 84 + place)
    else none
  CodePoint.ofNat? (← lackingSyllables[index]?)

/-- A pair of octets in the page of Windows. -/
def windowsPair? (lead trail : Nat) : Option Text :=
  let inPlane := if 0x80 ≤ lead ∧ 0x80 ≤ trail then
    Plane.ksx1001.char? (lead - 0x80) (trail - 0x80) else none
  (inPlane.or (added? lead trail)).map fun c => [c]

def windows : Octets → List DecodedUnit := scanPairs asciiSingle? windowsPair?

/-! ## Numbered letters -/

/-- What a numbered letter is: none that may stand there, the sign for none, or one by its place. -/
inductive Letter where
  | invalid
  | absent
  | present (index : Nat)
deriving DecidableEq

/-- The first letter of a syllable by its number. -/
def leadOf (n : Nat) : Letter :=
  if n = 1 then .absent else if 2 ≤ n ∧ n ≤ 20 then .present (n - 2) else .invalid

def vowelOf (n : Nat) : Letter :=
  if n = 2 then .absent
  else if 3 ≤ n ∧ n ≤ 7 then .present (n - 3)
  else if 10 ≤ n ∧ n ≤ 15 then .present (n - 5)
  else if 18 ≤ n ∧ n ≤ 23 then .present (n - 7)
  else if 26 ≤ n ∧ n ≤ 29 then .present (n - 9)
  else .invalid

/-- The last letter of a syllable by its number. -/
def tailOf (n : Nat) : Letter :=
  if n = 1 then .absent
  else if 2 ≤ n ∧ n ≤ 17 then .present (n - 2)
  else if 19 ≤ n ∧ n ≤ 29 then .present (n - 3)
  else .invalid

/-- The character of three letters, of which some may be absent. -/
def combined? : Letter → Letter → Letter → Option CodePoint
  | .present lead, .present vowel, .present tail => syllable? lead vowel (tail + 1)
  | .present lead, .present vowel, .absent => syllable? lead vowel 0
  | .present lead, .absent, .absent => leads.toList[lead]?.map CodePoint.ofChar
  | .absent, .present vowel, .absent => CodePoint.ofNat? (firstVowel + vowel)
  | .absent, .absent, .present tail => tails.toList[tail]?.map CodePoint.ofChar
  | .absent, .absent, .absent => CodePoint.ofNat? 0x3000
  | _, _, _ => none

/-- The row and the place in the plane of a character that is no syllable. -/
def planePlace? (lead trail : Nat) : Option (Nat × Nat) :=
  if lead = 0xDF ∨ lead < 0xD9 ∨ 0xF9 < lead ∨ trail < 0x31 ∨ (0x7F ≤ trail ∧ trail < 0x91) ∨
      trail = 0xFF ∨ (lead = 0xDA ∧ 0xA1 ≤ trail ∧ trail ≤ 0xD3) then none
  else
    let row := if lead < 0xE0 then 2 * (lead - 0xD9) else 2 * lead - 0x197
    let place := if trail < 0x91 then trail - 0x31 else trail - 0x43
    some (if place < 94 then (row + 0x21, place + 0x21) else (row + 0x22, place - 94 + 0x21))

/-- A pair of octets with numbered letters. -/
def johabPair? (lead trail : Nat) : Option Text :=
  let c? :=
    if lead < 0xD8 then
      combined? (leadOf (lead / 4 % 32)) (vowelOf ((lead * 8 + trail / 32) % 32))
          (tailOf (trail % 32))
    else (planePlace? lead trail).bind fun (row, place) => Plane.ksx1001.char? row place
  c?.map fun c => [c]

/-- The units of octets with numbered letters. -/
def johab : Octets → List DecodedUnit := scanPairs asciiSingle? johabPair?

end Korean

end SignIn
