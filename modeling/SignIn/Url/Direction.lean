import SignIn.Text.Runs
import SignIn.Text.Basic
import SignIn.Url.DirectionTable

/-!
# Directions in labels

A label with letters or digits of a script that runs from right to left must be readable as one: it
begins with a letter that fixes its direction, holds nothing that runs the other way, ends in a
letter or a digit of that direction but for marks, and does not mix digits of two kinds.
-/

namespace SignIn

namespace International

inductive Direction where
  | leftToRight
  | rightToLeft
  | arabic
  | arabicNumber
  | europeanNumber
  | nonspacing
  | neutral
deriving DecidableEq

def directionOf (c : CodePoint) : Direction :=
  if c.isAscii then
    if c.isAsciiDigit then .europeanNumber
    else if c.isAsciiAlphanumeric then .leftToRight
    else .neutral
  else if inRuns rightToLeftRuns c.val then .rightToLeft
  else if inRuns arabicRuns c.val then .arabic
  else if inRuns arabicNumberRuns c.val then .arabicNumber
  else if inRuns europeanNumberRuns c.val then .europeanNumber
  else if inRuns nonspacingRuns c.val then .nonspacing
  else if inRuns neutralRuns c.val then .neutral
  else .leftToRight

namespace Direction

def isBackward (d : Direction) : Bool := d = rightToLeft || d = arabic || d = arabicNumber

/-- Whether the last direction but for marks satisfies a test. -/
def endsIn (p : Direction → Bool) (ds : List Direction) : Bool :=
  (ds.reverse.find? fun d => d ≠ nonspacing).any p

def fitBackward (ds : List Direction) : Bool :=
  ds.all (· ≠ leftToRight) && !(ds.contains arabicNumber && ds.contains europeanNumber) &&
    endsIn (fun d => isBackward d || d = europeanNumber) ds

def fitForward (ds : List Direction) : Bool :=
  ds.all (fun d => !isBackward d) && endsIn (fun d => d = leftToRight || d = europeanNumber) ds

def fit (ds : List Direction) : Bool :=
  if ds.any isBackward then
    match ds.head? with
    | some .rightToLeft => fitBackward ds
    | some .arabic => fitBackward ds
    | some .leftToRight => fitForward ds
    | _ => false
  else true

end Direction

end International

end SignIn
