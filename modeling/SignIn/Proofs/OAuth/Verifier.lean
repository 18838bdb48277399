import SignIn.OAuth.Pkce
import SignIn.Proofs.Codec.Base64

/-!
# Verifiers and their challenges

A verifier made from octets lies within the bounds of RFC 7636, and it verifies against the challenge
that is made from it, by either method.
-/

namespace SignIn

namespace Pkce

/-- A verifier with a length and an alphabet that RFC 7636 admits; none of the four signs is used
but hyphen and underscore. -/
structure IsVerifier (verifier : Text) : Prop where
  minLength_le : minLength ≤ verifier.length
  length_le_maxLength : verifier.length ≤ maxLength
  isUrlSafe : ∀ c ∈ verifier, c.isUrlSafe = true

variable {octets : Octets}

theorem isVerifier_encodeUrl (h : octets.length = verifierOctets) :
    IsVerifier (Base64.encodeUrl octets) := by
  have hlength : (Base64.encodeUrl octets).length = 86 := by
    rw [Base64.length_encodeUrl, h]
    rfl
  constructor
  · rw [hlength]
    decide
  · rw [hlength]
    decide
  · exact fun c hc => Base64.isUrlSafe_of_mem hc

theorem ne_nil_of_length (h : octets.length = verifierOctets) : octets ≠ [] := by
  rintro rfl
  cases h

theorem encodeUrl_ne_nil (h : octets ≠ []) : Base64.encodeUrl octets ≠ [] := by
  intro hnil
  have hblank := Base64.isBlank_encodeUrl h
  rw [hnil] at hblank
  cases hblank

/-- A verifier that is made from octets has a challenge. -/
theorem exists_challenge? (method : ChallengeMethod) (octets : Octets) :
    ∃ challenge, challenge? method (Base64.encodeUrl octets) = some challenge := by
  cases method with
  | plain => exact ⟨_, rfl⟩
  | s256 =>
    rw [challenge?, Base64.isAscii_encodeUrl]
    exact ⟨_, rfl⟩

/-- The challenge of a verifier that is made from octets is made from octets itself. -/
theorem exists_octets_of_challenge? {method : ChallengeMethod} {challenge : Text}
    (hoctets : octets ≠ []) (h : challenge? method (Base64.encodeUrl octets) = some challenge) :
    ∃ source : Octets, source ≠ [] ∧ challenge = Base64.encodeUrl source := by
  cases method with
  | plain => exact ⟨octets, hoctets, (Option.some.inj h).symm⟩
  | s256 =>
    simp only [challenge?, Base64.isAscii_encodeUrl, if_true, Option.some.injEq] at h
    refine ⟨_, ?_, h.symm⟩
    intro hnil
    have hlength := congrArg List.length hnil
    rw [Sha256.length_digest] at hlength
    cases hlength

/-- A verifier that is made from octets verifies against its challenge. -/
theorem verify_of_challenge? {method : ChallengeMethod} {challenge : Text} (hoctets : octets ≠ [])
    (h : challenge? method (Base64.encodeUrl octets) = some challenge) :
    verify (Base64.encodeUrl octets) challenge method = .ok true := by
  obtain ⟨source, hsource, rfl⟩ := exists_octets_of_challenge? hoctets h
  have hpresent : ¬ (Base64.encodeUrl octets = [] ∨ Base64.encodeUrl source = []) :=
    not_or.2 ⟨encodeUrl_ne_nil hoctets, encodeUrl_ne_nil hsource⟩
  have hwritten := Utf8.encode?_of_encodable (Base64.encodable_encodeUrl source)
  simp only [verify, if_neg hpresent, h, hwritten, decide_true]

end Pkce

end SignIn
