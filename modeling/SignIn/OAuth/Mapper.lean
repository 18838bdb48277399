import SignIn.OAuth.Engine

/-!
# Mapping claims to users

Simple mappers: one takes the external id of a user from a claim and keeps all claims, the others
find no user or refuse.
-/

namespace SignIn

namespace OAuth

namespace Mapper

/-- The user whose external id is a given claim, which must be there and be a text. -/
def byClaim (claim : Text) : Mapper := fun platform claims token =>
  match claims.get? claim with
  | none => .error (.fault .missingField)
  | some (.text id) => .ok (some ⟨platform, id, claims, some token⟩)
  | some _ => .error (.fault (.invalid [⟨["external_id"], .stringType⟩]))

/-- The user whose external id is the claim that a value names. What is no text names none, and a
list or a record is no name. -/
def byValue (claim : Datum) : Mapper :=
  match claim with
  | .text claim => byClaim claim
  | .list _ => fun _ _ _ => .error (.fault .wrongType)
  | .record _ => fun _ _ _ => .error (.fault .wrongType)
  | _ => fun _ _ _ => .error (.fault .missingField)

def nobody : Mapper := fun _ _ _ => .ok none

def refusing (reason : Text) : Mapper := fun _ _ _ =>
  .error (.auth (.userMapping (.refused reason)))

/-- Fails on its own account. -/
def failing : Mapper := fun _ _ _ => .error (.fault .collaborator)

end Mapper

end OAuth

end SignIn
