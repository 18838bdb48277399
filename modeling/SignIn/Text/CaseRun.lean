/-!
# Runs of a case mapping

Most code points that change with case lie in runs: neighbours, or every second code point, that are
all as far from their counterparts. A table of such runs holds a whole mapping.
-/

namespace SignIn

/-- A run of code points, each as far from its counterpart as the others. -/
structure CaseRun where
  first : Nat
  last : Nat
  stride : Nat
  distance : Int

namespace CaseRun

def covers (run : CaseRun) (n : Nat) : Bool :=
  run.first ≤ n && n ≤ run.last && (n - run.first) % run.stride = 0

/-- The distance from a code point to its counterpart, if a table has one. -/
def distance? (table : List CaseRun) (n : Nat) : Option Int :=
  (table.find? fun run => run.covers n).map CaseRun.distance

end CaseRun

end SignIn
