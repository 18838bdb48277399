/-!
# Runs of code points

A set of code points is held as the first and the last number of each of its runs.
-/

namespace SignIn

def inRuns (runs : List (Nat × Nat)) (n : Nat) : Bool :=
  runs.any fun run => run.1 ≤ n && n ≤ run.2

end SignIn
