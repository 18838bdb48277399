import SignIn.Text.Composition
import SignIn.Text.Lower
import SignIn.Url.Direction
import SignIn.Url.JoiningTable
import SignIn.Url.LabelTable
import SignIn.Url.Punycode

/-!
# International host names

A host name beyond ASCII is sent in ASCII: every label that needs it is spelled in Punycode behind
the mark `xn--`. A name is refused when a label is empty or too long, is not composed, holds a code
point that is no letter, digit or mark in lower case, has a hyphen or a mark where none may stand,
or mixes directions of writing.
-/

namespace SignIn

namespace International

/-- What a spelled label begins with. -/
def mark : Text := "xn--"

def separators : List Nat := [0x2E, 0x3002, 0xFF0E, 0xFF61]

def maxLabel : Nat := 63

/-- The greatest length of a name, a dot at its end apart. -/
def maxName : Nat := 253

/-- Whether a label has no hyphen at its ends, nor two in third and fourth place. -/
def hyphensFit (t : Text) : Bool :=
  t.head? ≠ some Punycode.delimiter && t.getLast? ≠ some Punycode.delimiter &&
    (t.drop 2).take 2 ≠ [Punycode.delimiter, Punycode.delimiter]

def startsWithMark (t : Text) : Bool := t.head?.any fun c => inRuns markRuns c.val

def greekRuns : List (Nat × Nat) :=
  [(0x371, 0x3E1), (0x3F3, 0x3FC), (0x1D26, 0x1D2A), (0x1F00, 0x1FF6), (0xAB65, 0xAB65)]

def hebrewRuns : List (Nat × Nat) := [(0x591, 0x5F4), (0xFB1E, 0xFB1E)]

/-- The runs of the kana and of the Chinese characters of labels. -/
def kanaAndHanRuns : List (Nat × Nat) :=
  [(0x3005, 0x3005), (0x3007, 0x3007), (0x3041, 0x3096), (0x309D, 0x309E), (0x30A1, 0x30FA),
   (0x30FD, 0x30FE), (0x31F0, 0x31FF), (0x3400, 0x9FFF), (0xFA0E, 0xFA29), (0x16FE3, 0x16FE3),
   (0x16FF0, 0x16FF1), (0x1AFF0, 0x1B122), (0x1B150, 0x1B152), (0x1B164, 0x1B167),
   (0x20000, 0x3134A)]

/-- Whether the first code point that joining does not pass over lies in one of some runs. -/
def joins (runs : List (Nat × Nat)) (t : Text) : Bool :=
  (t.find? fun c => !inRuns transparentRuns c.val).any fun c => inRuns runs c.val

/-- Whether letters join across the place between two texts, the first in reverse. -/
def joinsAcross (before after : Text) : Bool :=
  joins (leftJoiningRuns ++ dualJoiningRuns) before &&
    joins (rightJoiningRuns ++ dualJoiningRuns) after

/-- The class of the marks that silence a vowel. -/
def viramaClass : Nat := 9

/-- Whether a code point may stand between what precedes it, nearest first, and what follows. -/
def fits (before : Text) (c : CodePoint) (after : Text) : Bool :=
  let previous (p : Nat → Bool) := before.head?.any fun d => p d.val
  let next (p : Nat → Bool) := after.head?.any fun d => p d.val
  let others (p : Nat → Bool) := (before ++ after).any fun d => p d.val
  let afterVirama := before.head?.any fun d => d.combiningClass = viramaClass
  if c.isAscii then c.isAsciiDigit || c.isAsciiLower || c = Punycode.delimiter
  else if c.val = 0x200C then afterVirama || joinsAcross before after
  else if c.val = 0x200D then afterVirama
  else if c.val = 0xB7 then previous (· = 0x6C) && next (· = 0x6C)
  else if c.val = 0x375 then next (inRuns greekRuns)
  else if c.val = 0x5F3 || c.val = 0x5F4 then previous (inRuns hebrewRuns)
  else if c.val = 0x30FB then others (inRuns kanaAndHanRuns)
  else if 0x660 ≤ c.val && c.val ≤ 0x669 then !others fun n => 0x6F0 ≤ n && n ≤ 0x6F9
  else if 0x6F0 ≤ c.val && c.val ≤ 0x6F9 then !others fun n => 0x660 ≤ n && n ≤ 0x669
  else inRuns labelRuns c.val

/-- Whether every code point of a label may stand where it does. -/
def allFit (before : Text) : Text → Bool
  | [] => true
  | c :: after => fits before c after && allFit (c :: before) after

/-- Whether a text is a label in its own spelling. -/
def isLabel (t : Text) : Bool :=
  t ≠ [] && hyphensFit t && !startsWithMark t && allFit [] t && t.isComposed &&
    Direction.fit (t.map directionOf)

/-- Whether a text is the spelling of a label, which has something to spell. -/
def isSpelling (t : Text) : Bool :=
  t.getLast? ≠ some Punycode.delimiter &&
    (Punycode.decode? t).any fun label => isLabel label && Punycode.encode label = t

/-- The ASCII form of a label. One that is ASCII already stays, and must itself spell a label when
it bears the mark. Every code point takes a place at least, so a long label is refused unspelled. -/
def label? (t : Text) : Option Text :=
  if maxLabel < t.length then none
  else if t.all CodePoint.isAscii then
    match Text.stripStart? mark t with
    | some spelling => if isSpelling spelling then some t else none
    | none => if isLabel t then some t else none
  else if isLabel t then
    let spelled := mark ++ Punycode.encode t
    if spelled.length ≤ maxLabel then some spelled else none
  else none

def labels (t : Text) : List Text :=
  Text.pieces (CodePoint.ofChar '.') <|
    t.map fun c => if separators.contains c.val then CodePoint.ofChar '.' else c

/-- The ASCII form of a host name, which may end in a dot. -/
def toAscii? (host : Text) : Option Text := do
  let parts := labels host.toLower
  let rooted := parts.getLast? = some []
  let parts ← (if rooted then parts.dropLast else parts).mapM label?
  let name := Text.joinWith "." parts
  if name.length ≤ maxName then return if rooted then name ++ ("." : Text) else name
  else none

end International

end SignIn
