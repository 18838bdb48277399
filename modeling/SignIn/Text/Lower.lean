import SignIn.Text.Basic
import SignIn.Text.CaseContextTable
import SignIn.Text.LowerTable
import SignIn.Text.Runs

/-!
# Lower case

Host names are compared in lower case. Of all code points only the dotted capital I becomes two, and
only the Greek capital sigma has two forms: the one for the end of a word stands behind a letter
with a case when no such letter follows.
-/

namespace SignIn

namespace CodePoint

def capitalSigma : CodePoint := ⟨0x3A3, by decide⟩

/-- The Greek small letter sigma at the end of a word. -/
def finalSigma : CodePoint := ⟨0x3C2, by decide⟩

def isCased (c : CodePoint) : Bool := inRuns casedRuns c.val

/-- Whether a search for a letter with a case passes over a code point. -/
def isCaseIgnorable (c : CodePoint) : Bool := inRuns caseIgnorableRuns c.val

/-- The lower case of a code point by itself. -/
def toLower (c : CodePoint) : Text :=
  if c.isAscii then [c.toAsciiLower]
  else if c.val = 0x130 then [0x69, 0x307].filterMap CodePoint.ofNat?
  else
    match CaseRun.distance? lowerRuns c.val with
    | some distance => [(CodePoint.ofNat? ((c.val : Int) + distance).toNat).getD c]
    | none => [c]

end CodePoint

namespace Text

/-- Whether the first code point that a search for a case does not pass over has a case. -/
def meetsCased (t : Text) : Bool :=
  (t.find? fun c => !c.isCaseIgnorable).any CodePoint.isCased

/-- The lower case of a text behind the code points in front of it, nearest first. -/
def toLowerAfter (before : Text) : Text → Text
  | [] => []
  | c :: t =>
    let lower := if c = CodePoint.capitalSigma && meetsCased before && !meetsCased t then
      [CodePoint.finalSigma] else c.toLower
    lower ++ toLowerAfter (c :: before) t

def toLower (t : Text) : Text := toLowerAfter [] t

end Text

end SignIn
