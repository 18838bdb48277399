import SignIn.Text.Basic

/-!
# Numbered characters

A character set numbers its characters. A table holds them as runs, each with the number of its
first character, in ascending order; U+FFFD stands in a run where a number has no character.
-/

namespace SignIn

/-- Runs of characters, each with the number of its first. -/
abbrev CharRuns := List (Nat × String)

namespace CharRuns

/-- The last run that begins at a number or in front of it. -/
def runAt? (n : Nat) : CharRuns → Option (Nat × String)
  | [] => none
  | run :: rest => if n < run.1 then none else (runAt? n rest).or (some run)

/-- What stands at a number: a character, or U+FFFD inside a run. -/
def held? (runs : CharRuns) (n : Nat) : Option CodePoint :=
  (runAt? n runs).bind fun run => run.2.toList[n - run.1]?.map CodePoint.ofChar

def char? (runs : CharRuns) (n : Nat) : Option CodePoint :=
  (held? runs n).filter fun c => c ≠ CodePoint.replacement

end CharRuns

end SignIn
