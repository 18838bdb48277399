import SignIn.Text.Basic
import SignIn.Text.CombiningTable
import SignIn.Text.CompositionTable
import SignIn.Text.Runs

/-!
# Composed texts

Letters with marks can be written as one code point or as several. A text is composed when every
letter is written as one code point wherever there is one, and its marks stand in the order of their
classes. To tell, a text is taken apart, put in order and composed anew.
-/

namespace SignIn

namespace CodePoint

/-- The combining class of a code point, which is 0 unless it combines with what precedes it. -/
def combiningClass (c : CodePoint) : Nat :=
  match combiningRuns.find? fun run => run.1 ≤ c.val && c.val ≤ run.2.1 with
  | some run => run.2.2
  | none => 0

end CodePoint

namespace Composition

def syllableBase : Nat := 0xAC00

def leadBase : Nat := 0x1100

def vowelBase : Nat := 0x1161

/-- The number in front of the first trailing consonant of a Hangul syllable. -/
def tailBase : Nat := 0x11A7

def leadCount : Nat := 19

def vowelCount : Nat := 21

/-- How many endings a Hangul syllable may have, none at all included. -/
def tailCount : Nat := 28

def syllableCount : Nat := leadCount * vowelCount * tailCount

/-- The number of the Hangul syllable whose letters are numbered; the last number is 0 if it ends in
its vowel. -/
def syllableNumber (lead vowel tail : Nat) : Nat :=
  syllableBase + (lead * vowelCount + vowel) * tailCount + tail

def syllable? (first second : Nat) : Option Nat :=
  if leadBase ≤ first ∧ first < leadBase + leadCount ∧
      vowelBase ≤ second ∧ second < vowelBase + vowelCount then
    some (syllableNumber (first - leadBase) (second - vowelBase) 0)
  else if syllableBase ≤ first ∧ first < syllableBase + syllableCount ∧
      (first - syllableBase) % tailCount = 0 ∧
      tailBase < second ∧ second < tailBase + tailCount then
    some (first + (second - tailBase))
  else none

def syllableParts? (n : Nat) : Option (Nat × Nat) :=
  if syllableBase ≤ n ∧ n < syllableBase + syllableCount then
    let index := n - syllableBase
    let tail := index % tailCount
    if tail = 0 then
      some (leadBase + index / tailCount / vowelCount, vowelBase + index / tailCount % vowelCount)
    else some (n - tail, tailBase + tail)
  else none

def pair? (first second : CodePoint) : Option CodePoint :=
  match syllable? first.val second.val with
  | some n => CodePoint.ofNat? n
  | none =>
    (compositions.find? fun c => c.1 = first.val && c.2.1 = second.val).bind fun c =>
      CodePoint.ofNat? c.2.2

def parts? (c : CodePoint) : Option (CodePoint × CodePoint) := do
  let (first, second) ← (syllableParts? c.val).or
    ((compositions.find? fun entry => entry.2.2 = c.val).map fun entry => (entry.1, entry.2.1))
  return (← CodePoint.ofNat? first, ← CodePoint.ofNat? second)

/-- How many marks at most are composed with a letter. -/
def maxMarks : Nat := 4

/-- A code point taken apart, as far as the count of steps allows. -/
def takeApart : Nat → CodePoint → Text
  | 0, c => [c]
  | steps + 1, c =>
    match parts? c with
    | some (first, second) => takeApart steps first ++ [second]
    | none => [c]

/-- Puts a code point in front of an ordered text, behind the marks of lower class if it is a mark
itself. -/
def settle (c : CodePoint) : Text → Text
  | [] => [c]
  | d :: t =>
    if 0 < d.combiningClass ∧ d.combiningClass < c.combiningClass then d :: settle c t
    else c :: d :: t

/-- A text with neighbouring marks in the order of their classes. -/
def order (t : Text) : Text := t.foldr settle []

/-- A text that is being composed: what is finished, the last letter, and the marks behind it that
have not been composed with it. The first and the last part are held in reverse. -/
structure State where
  finished : Text
  letter : Option CodePoint
  marks : Text

/-- Whether no mark stands between a letter and a mark of a given class. -/
def State.reaches (s : State) (combiningClass : Nat) : Bool :=
  s.marks.head?.all fun d => d.combiningClass < combiningClass

def State.push (s : State) (c : CodePoint) : State :=
  match s.letter with
  | none =>
    if c.combiningClass = 0 then ⟨s.finished, some c, []⟩ else ⟨c :: s.finished, none, []⟩
  | some letter =>
    match if s.reaches c.combiningClass then pair? letter c else none with
    | some composed => ⟨s.finished, some composed, s.marks⟩
    | none =>
      if c.combiningClass = 0 then ⟨s.marks ++ letter :: s.finished, some c, []⟩
      else ⟨s.finished, some letter, c :: s.marks⟩

def State.text (s : State) : Text := (s.marks ++ s.letter.toList ++ s.finished).reverse

def compose (t : Text) : Text := (t.foldl State.push ⟨[], none, []⟩).text

end Composition

def Text.isComposed (t : Text) : Bool :=
  !(t.any fun c => inRuns uncomposedRuns c.val) &&
    Composition.compose (Composition.order (t.flatMap (Composition.takeApart Composition.maxMarks)))
      = t

end SignIn
