import SignIn.Text.Basic

/-!
# Runs of character names

The names of neighbouring code points have most of their words in common. A run writes them one
behind the other, and a small letter in front of each name counts the words that it takes over from
the name before it: `a` none, `b` the first one, `c` the first two, and so on. Names themselves are
made of capital letters, digits, hyphens and the blanks between their words.
-/

namespace SignIn

namespace CharacterName

abbrev Words := List Text

def wordsOf (t : Text) : Words := Text.pieces (CodePoint.ofChar ' ') t

/-- The names of neighbouring code points, in a text that may be cut anywhere. -/
structure NameRun where
  first : Nat
  text : List String

/-- Cuts a text into names, each with the count of the words that it takes over. -/
def marked : Text → List (Nat × Text)
  | [] => []
  | c :: rest =>
    if c.isAsciiLower then
      (c.val - 0x61, rest.takeWhile fun d => !d.isAsciiLower) :: marked rest
    else marked rest

/-- The whole names, behind a name. -/
def expand (before : Words) : List (Nat × Text) → List Words
  | [] => []
  | (shared, own) :: more =>
    let name := before.take shared ++ wordsOf own
    name :: expand name more

def NameRun.names (run : NameRun) : List Words :=
  expand [] (marked (run.text.flatMap Text.ofString))

def NameRun.codePoint? (run : NameRun) (name : Words) : Option CodePoint :=
  (run.names.findIdx? (· == name)).bind fun i => CodePoint.ofNat? (run.first + i)

end CharacterName

end SignIn
