import SignIn.Charset.CharRuns

/-!
# Planes

A plane gives characters to pairs of octets. They are numbered row by row: the first octet chooses
the row, the second the place in it.
-/

namespace SignIn

/-- A table of characters by two octets. -/
structure Plane where
  /-- The first octet of the first row. -/
  firstLead : Nat
  /-- The second octet of the first place of every row. -/
  firstTrail : Nat
  /-- How many places a row has. -/
  width : Nat
  chars : CharRuns

namespace Plane

def char? (plane : Plane) (lead trail : Nat) : Option CodePoint :=
  if plane.firstLead ≤ lead ∧ plane.firstTrail ≤ trail ∧ trail < plane.firstTrail + plane.width then
    plane.chars.char? ((lead - plane.firstLead) * plane.width + (trail - plane.firstTrail))
  else none

/-- The character of two octets in the first of some planes that has one. -/
def findChar? (planes : List Plane) (lead trail : Nat) : Option CodePoint :=
  planes.findSome? fun plane => plane.char? lead trail

end Plane

end SignIn
