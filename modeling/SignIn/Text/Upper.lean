import SignIn.Text.Basic
import SignIn.Text.UpperTable

/-!
# Upper case

Names of password schemes and of log levels are compared in upper case, by the full mapping, under
which a ligature becomes several letters and the long s becomes S.
-/

namespace SignIn

def CodePoint.toUpper (c : CodePoint) : Text :=
  if c.isAscii then [c.toAsciiUpper]
  else match upperExpansions.lookup c.val with
    | some points => points.filterMap CodePoint.ofNat?
    | none =>
      match CaseRun.distance? upperRuns c.val with
      | some distance => [(CodePoint.ofNat? ((c.val : Int) + distance).toNat).getD c]
      | none => [c]

def Text.toUpper (t : Text) : Text := t.flatMap CodePoint.toUpper

theorem CodePoint.toUpper_of_isAscii {c : CodePoint} (h : c.isAscii) :
    c.toUpper = [c.toAsciiUpper] := by
  simp [CodePoint.toUpper, h]

end SignIn
