import SignIn.Charset.Chinese
import SignIn.Charset.IsoPages
import SignIn.Charset.Japanese
import SignIn.Charset.Korean

/-!
# ISO 2022

Escape sequences choose among several sets of characters, all of which are sent as octets of ASCII.
A form of the standard admits some sets; it may also admit shifting between two of them, and a third
one for single characters.
-/

namespace SignIn

namespace Iso2022

/-- A set of characters that an escape sequence may choose. -/
inductive CharSet where
  | ascii
  | latin1
  | greek
  | roman
  | katakana
  | jis0208
  | jis0208Old
  | jis0212
  | jis0213First (edition : Japanese.Edition)
  | jis0213Second
  | gb2312
  | ksx1001
deriving DecidableEq

namespace CharSet

/-- The last octet of the escape sequences that choose a set, and whether it takes two octets a
character. -/
def mark : CharSet → UInt8 × Bool
  | latin1 => (0x41, false)
  | ascii => (0x42, false)
  | greek => (0x46, false)
  | katakana => (0x49, false)
  | roman => (0x4A, false)
  | jis0208Old => (0x40, true)
  | gb2312 => (0x41, true)
  | jis0208 => (0x42, true)
  | ksx1001 => (0x43, true)
  | jis0212 => (0x44, true)
  | jis0213First .first => (0x4F, true)
  | jis0213Second => (0x50, true)
  | jis0213First .second => (0x51, true)

/-- Whether a set takes two octets a character. -/
def isWide (set : CharSet) : Bool := set.mark.2

def narrow? (set : CharSet) (n : Nat) : Option CodePoint :=
  match set with
  | ascii => if n < 0x80 then CodePoint.ofNat? n else none
  | roman => Japanese.roman? n
  | katakana => Japanese.halfwidth? (n + 0x80)
  | _ => none

def wide? (set : CharSet) (row place : Nat) : Option Text :=
  let alone (plane : Plane) : Option Text := (plane.char? row place).map fun c => [c]
  match set with
  | jis0208 => alone .jis0208
  | jis0208Old => alone .jis0208
  | jis0212 => alone .jis0212
  | gb2312 => alone .gb2312
  | ksx1001 => alone .ksx1001
  | jis0213First edition => Japanese.firstPlane? edition row place
  | jis0213Second => Japanese.secondPlane? .second row place
  | _ => none

end CharSet

structure Form where
  /-- The sets that may be chosen besides ASCII. -/
  sets : List CharSet
  /-- Whether controls shift between two chosen sets. -/
  shifts : Bool
  /-- Whether a third set can be chosen, for single characters. -/
  hasThird : Bool
  /-- Whether the announcement of a revised set is admitted. -/
  announces : Bool

/-- What has been chosen. -/
structure State where
  first : CharSet
  second : CharSet
  third : CharSet
  shifted : Bool
  /-- Whether an escape sequence of another kind is being passed through. -/
  passing : Bool

def State.start : State := ⟨.ascii, .ascii, .ascii, false, false⟩

/-- The octet that begins an escape sequence. -/
def escape : UInt8 := 0x1B

def endsSequence (b : UInt8) : Bool := 0x41 ≤ b && b ≤ 0x5A || b = 0x40

def beginsChoice (b : UInt8) : Bool := [0x28, 0x29, 0x24, 0x2E, 0x26].contains b

def maxSequence : Nat := 16

/-- The length of the escape sequence in front of octets: none where they end in the middle of it,
and 0 where it does not end in time. The announcement of a revised set does not end it. -/
def sequenceLength? (form : Form) (octets : Octets) : Option Nat :=
  go maxSequence 1 octets.tail
where
  /-- Looks for the end from a position on. -/
  go : Nat → Nat → Octets → Option Nat
    | 0, _, _ => some 0
    | fuel + 1, position, rest =>
      if maxSequence ≤ position then some 0
      else
        match rest with
        | [] => none
        | b :: rest =>
          if endsSequence b then some (position + 1)
          else if form.announces && b = 0x26 && rest.head? = some 0x40 then
            go fuel (position + 3) (rest.drop 2)
          else go fuel (position + 1) rest

/-- Which of the sets an escape sequence chooses. -/
inductive Target where
  | first
  | second
  | third
deriving DecidableEq

/-- What an escape sequence chooses: the last octet, the count of octets of a character, and for
which place. -/
def chosen? (form : Form) (sequence : Octets) : Option (UInt8 × Bool × Target) :=
  match sequence with
  | [_, 0x24, mark] => some (mark, true, .first)
  | [_, 0x28, mark] => some (mark, false, .first)
  | [_, 0x29, mark] => some (mark, false, .second)
  | [_, 0x2E, mark] => if form.hasThird then some (mark, false, .third) else none
  | [_, 0x24, 0x28, mark] => some (mark, true, .first)
  | [_, 0x24, 0x29, mark] => some (mark, true, .second)
  | [_, _, _, 0x1B, 0x24, 0x42] => if form.announces then some (0x42, true, .first) else none
  | _ => none

/-- The set of a mark, if a form admits it. -/
def Form.set? (form : Form) (mark : UInt8 × Bool) : Option CharSet :=
  (.ascii :: form.sets).find? fun set => set.mark = mark

def State.choose (s : State) (set : CharSet) : Target → State
  | .first => { s with first := set }
  | .second => { s with second := set }
  | .third => { s with third := set }

def choiceStep (form : Form) (s : State) (octets : Octets) : ScanStep State :=
  match sequenceLength? form octets with
  | none => .cutOff
  | some 0 => .malformed 1
  | some length =>
    match (chosen? form (octets.take length)).bind fun (mark, isWide, target) =>
        (form.set? (mark, isWide)).map fun set => s.choose set target with
    | some next => .text [] length next
    | none => .malformed length

/-- The places of the page for Greek that were empty when this standard was made. -/
def greekAdditions : List UInt8 := [0xA4, 0xA5, 0xAA]

/-- A single character of the third set. -/
def thirdChar? (set : CharSet) (b : UInt8) : Option CodePoint :=
  match set with
  | .ascii => if b < 0x80 then some (.ofByte b) else none
  | .latin1 => if b < 0x80 then CodePoint.ofNat? (b.toNat + 0x80) else none
  | .greek =>
    if greekAdditions.contains (b ^^^ 0x80) then none
    else
      (Codepage.iso.find? fun page => page.name = "iso8859_7").bind fun page =>
        page.page.char? (b ^^^ 0x80)
  | _ => none

def escapeStep (form : Form) (s : State) (rest : Octets) : ScanStep State :=
  match rest with
  | [] => .cutOff
  | b :: tail =>
    if beginsChoice b then choiceStep form s (escape :: rest)
    else if form.hasThird && b = 0x4E then
      match tail with
      | [] => .cutOff
      | c :: _ =>
        match thirdChar? s.third c with
        | some c => .text [c] 3 s
        | none => .malformed 3
    else .text [.ofByte escape] 1 { s with passing := true }

/-- The step of a character of the set that is in force. -/
def charStep (s : State) (a : UInt8) (rest : Octets) : ScanStep State :=
  let set := if s.shifted then s.second else s.first
  if set.isWide then
    match rest with
    | [] => .cutOff
    | b :: _ =>
      match set.wide? a.toNat b.toNat with
      | some t => .text t 2 s
      | none => .malformed 2
  else
    match set.narrow? a.toNat with
    | some c => .text [c] 1 s
    | none => .malformed 1

def step (form : Form) (s : State) (a : UInt8) (rest : Octets) : ScanStep State :=
  if s.passing then .text [.ofByte a] 1 { s with passing := !endsSequence a }
  else if a = escape then escapeStep form s rest
  else if a = 0x0F && form.shifts then .text [] 1 { s with shifted := false }
  else if a = 0x0E && form.shifts then .text [] 1 { s with shifted := true }
  else if a = 0x0A then .text [.ofByte a] 1 { s with shifted := false }
  else if a < 0x20 then .text [.ofByte a] 1 s
  else if 0x80 ≤ a then .malformed 1
  else charStep s a rest

def units (form : Form) : Octets → List DecodedUnit := scan (step form) .start

/-- The octets that are left where they end in the middle of something. -/
def leftover (form : Form) : Octets → Octets := SignIn.leftover (step form) .start

def korean : Form := ⟨[.ksx1001], true, false, false⟩

def japanese (sets : List CharSet) : Form := ⟨sets, false, false, true⟩

def japaneseBase : Form := japanese [.jis0208, .roman, .jis0208Old]

/-- The Japanese form with supplementary characters. -/
def japaneseOne : Form := japanese [.jis0208, .jis0212, .roman, .jis0208Old]

/-- The Japanese form with characters of other languages. -/
def japaneseTwo : Form :=
  ⟨[.jis0208, .jis0212, .ksx1001, .gb2312, .roman, .jis0208Old, .latin1, .greek], false, true, true⟩

/-- The Japanese form with half-width katakana. -/
def japaneseExtended : Form := japanese [.jis0208, .jis0212, .roman, .katakana, .jis0208Old]

/-- The Japanese form with the second standard, by its edition. -/
def japaneseThree (edition : Japanese.Edition) : Form :=
  japanese [.jis0208, .jis0213First edition, .jis0213Second]

end Iso2022

end SignIn
