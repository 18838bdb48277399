import SignIn.Digest.Sha256
import SignIn.Error
import SignIn.Random
import SignIn.Text.Utf8

/-!
# PKCE

A verifier is a random text that stays with the client; the challenge made from it goes out with the
authorization request (RFC 7636). Under `S256` the challenge is the digest of the verifier in the
URL-safe alphabet, under `plain` it is the verifier.
-/

namespace SignIn

structure PkceChallenge where
  verifier : Text
  challenge : Text
  method : ChallengeMethod
deriving DecidableEq

namespace Pkce

/-- The least length of a verifier by RFC 7636. -/
def minLength : Nat := 43

/-- The greatest length of a verifier by RFC 7636. -/
def maxLength : Nat := 128

/-- How many random octets a verifier is made from. Its 86 symbols lie within the bounds, so that
the first draw always serves. -/
def verifierOctets : Nat := 64

/-- The challenge of a verifier. Only a verifier of ASCII characters has one under `S256`. -/
def challenge? (method : ChallengeMethod) (verifier : Text) : Option Text :=
  match method with
  | .plain => some verifier
  | .s256 =>
    if verifier.all CodePoint.isAscii then
      some (Base64.encodeUrl (Sha256.digest (verifier.map fun c => UInt8.ofNat c.val)))
    else none

/-- The challenge of a verifier, with a fault where there is none. -/
def challenge (method : ChallengeMethod) (verifier : Text) : Except Fault Text :=
  match challenge? method verifier with
  | some c => .ok c
  | none => .error .unencodable

/-- The text of every draw has a length within the bounds. -/
theorem length_draw_within (random : RandomStream) :
    minLength ≤ (Base64.encodeUrl (random.draw verifierOctets).1).length ∧
      (Base64.encodeUrl (random.draw verifierOctets).1).length ≤ maxLength := by
  rw [Base64.length_encodeUrl, RandomStream.length_draw]
  decide

/-- Draws verifiers until one has a length within the bounds. As every draw has, there is no second
one, and the loop ends. -/
@[semireducible]
def drawVerifier (random : RandomStream) : Text × RandomStream :=
  let drawn := random.draw verifierOctets
  let verifier := Base64.encodeUrl drawn.1
  if _ : minLength ≤ verifier.length ∧ verifier.length ≤ maxLength then (verifier, drawn.2)
  else drawVerifier drawn.2
termination_by 0
decreasing_by exact absurd (length_draw_within random) ‹_›

/-- The first draw is the verifier. -/
theorem drawVerifier_eq (random : RandomStream) :
    drawVerifier random =
      (Base64.encodeUrl (random.draw verifierOctets).1, (random.draw verifierOctets).2) := by
  rw [drawVerifier]
  exact dif_pos (length_draw_within random)

/-- Draws a verifier and makes its challenge. -/
def generate (method : ChallengeMethod) (random : RandomStream) :
    Except Fault PkceChallenge × RandomStream :=
  let (verifier, random) := drawVerifier random
  ((challenge method verifier).map fun c => ⟨verifier, c, method⟩, random)

/-- Whether a challenge was made from a verifier. Nothing is made from or into an empty text. Texts
are compared in their UTF-8 form, which both must have once there is something to compare. -/
def verify (verifier challenge : Text) (method : ChallengeMethod) : Except Fault Bool :=
  if verifier = [] ∨ challenge = [] then .ok false
  else
    match challenge? method verifier with
    | none => .ok false
    | some expected =>
      match Utf8.encode? expected, Utf8.encode? challenge with
      | some a, some b => .ok (decide (a = b))
      | _, _ => .error .unencodable

/-- The method of a value, which must be the name of one. -/
def methodOf : Datum → Except Fault ChallengeMethod
  | .text name =>
    match ChallengeMethod.ofName? name with
    | some m => .ok m
    | none => .error .badValue
  | _ => .error .badValue

/-- The challenge of a value by a method that is still a value. -/
def challengeBy (method verifier : Datum) : Except Fault Datum := do
  match ← methodOf method with
  | .plain => return verifier
  | .s256 =>
    match verifier.text? with
    | some v => return .text (← challenge .s256 v)
    | none => throw .notText

/-- Verification of values. With nothing to compare the method does not matter, and without a
challenge of the verifier nothing is compared. -/
def verifyBy (method verifier challenge : Datum) : Except Fault Bool := do
  if !verifier.truthy || !challenge.truthy then return false
  let method ← methodOf method
  match verifier.text?, challenge.text? with
  | some v, some c => verify v c method
  | some v, none =>
    match challenge? method v with
    | some expected => throw (if Utf8.encodable expected then .notText else .unencodable)
    | none => return false
  | none, _ => throw .notText

end Pkce

end SignIn
