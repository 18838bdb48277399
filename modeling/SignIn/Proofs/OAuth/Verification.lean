import SignIn.Proofs.Codec.Symbols
import SignIn.Proofs.OAuth.Verifier

/-!
# Making and verifying challenges

Verification answers whether a challenge was made from a verifier, and nothing else passes. To do so
it compares two texts in their UTF-8 form, so that it fails where one of the two has none. A generated
verifier is made from the first draw. RFC 7636 admits it, it is another one for every draw, and it
verifies against its challenge.
-/

namespace SignIn

namespace Pkce

variable {method : ChallengeMethod} {verifier challenge : Text}

/-! ## Derived challenges -/

/-- The challenge that RFC 7636 derives from a verifier. The plain one is the verifier itself; the
other one is the digest of the octets of an ASCII verifier, written without padding. -/
inductive Derives : ChallengeMethod → Text → Text → Prop
  | plain (verifier : Text) : Derives .plain verifier verifier
  | s256 {octets : Octets} (ascii : ∀ b ∈ octets, b < 0x80) :
    Derives .s256 (octets.map CodePoint.ofByte) (Base64.encodeUrl (Sha256.digest octets))

theorem isAscii_ofByte_iff {b : UInt8} : (CodePoint.ofByte b).isAscii = true ↔ b < 0x80 := by
  rw [UInt8.lt_iff_toNat_lt]
  exact decide_eq_true_iff

theorem ofByte_of_isAscii {c : CodePoint} (h : c.isAscii = true) :
    CodePoint.ofByte (UInt8.ofNat c.val) = c := by
  have hlow : c.val < 0x80 := of_decide_eq_true h
  have hval : (UInt8.ofNat c.val).toNat = c.val :=
    UInt8.toNat_ofNat_of_lt' (Nat.lt_trans hlow (by decide))
  cases c
  simpa [CodePoint.ofByte] using hval

/-- A text of ASCII characters consists of octets. -/
theorem exists_octets_of_isAscii (h : verifier.all CodePoint.isAscii = true) :
    ∃ octets : Octets, (∀ b ∈ octets, b < 0x80) ∧ verifier = octets.map CodePoint.ofByte := by
  rw [List.all_eq_true] at h
  refine ⟨verifier.map fun c => UInt8.ofNat c.val, ?_, ?_⟩
  · intro b hb
    obtain ⟨c, hc, rfl⟩ := List.mem_map.1 hb
    rw [← isAscii_ofByte_iff, ofByte_of_isAscii (h c hc)]
    exact h c hc
  · rw [List.map_map]
    calc
      verifier = verifier.map id := (List.map_id verifier).symm
      _ = verifier.map (CodePoint.ofByte ∘ fun c => UInt8.ofNat c.val) :=
        List.map_congr_left fun c hc => (ofByte_of_isAscii (h c hc)).symm

theorem isAscii_map_ofByte_iff {octets : Octets} :
    (octets.map CodePoint.ofByte).all CodePoint.isAscii = true ↔ ∀ b ∈ octets, b < 0x80 := by
  simp only [List.all_map, List.all_eq_true, Function.comp_apply, isAscii_ofByte_iff]

/-- The challenge of the octets of an ASCII verifier. -/
theorem challenge?_map_ofByte {octets : Octets} (h : ∀ b ∈ octets, b < 0x80) :
    challenge? .s256 (octets.map CodePoint.ofByte) =
      some (Base64.encodeUrl (Sha256.digest octets)) := by
  have hoctets : (octets.map CodePoint.ofByte).map (fun c => UInt8.ofNat c.val) = octets := by
    rw [List.map_map]
    calc
      _ = octets.map id := List.map_congr_left fun b _ => UInt8.ofNat_toNat
      _ = octets := List.map_id octets
  rw [challenge?, if_pos (isAscii_map_ofByte_iff.2 h), hoctets]

theorem challenge?_eq_some_iff :
    challenge? method verifier = some challenge ↔ Derives method verifier challenge := by
  constructor
  · intro h
    cases method with
    | plain =>
      obtain rfl : verifier = challenge := Option.some.inj h
      exact .plain verifier
    | s256 =>
      by_cases hascii : verifier.all CodePoint.isAscii = true
      · obtain ⟨octets, hlow, rfl⟩ := exists_octets_of_isAscii hascii
        rw [challenge?_map_ofByte hlow] at h
        obtain rfl := Option.some.inj h
        exact .s256 hlow
      · rw [challenge?, if_neg hascii] at h
        cases h
  · intro h
    cases h with
    | plain => rfl
    | s256 hlow => exact challenge?_map_ofByte hlow

-- The verifier and the challenge of RFC 7636, appendix B.
example : challenge? .s256 "dBjftJeZ4CVP-mB92K27uhbUJU1p1r_wW1gFWFOEjXk" =
    some (Text.ofString "E9Melhoa2OwvFrEMTJguCHaoeK1t8URWbuGJSstw-cM") := by decide +kernel

/-! ## Verification -/

/-- Verification is exact: it answers, and the answer is true if and only if neither text is empty
and the challenge is the one that is derived from the verifier. -/
def VerifiesExactly (method : ChallengeMethod) (verifier challenge : Text) : Prop :=
  ∃ answer, verify verifier challenge method = .ok answer ∧
    (answer = true ↔ verifier ≠ [] ∧ challenge ≠ [] ∧ Derives method verifier challenge)

/-- There are two texts to compare, but one of them has no UTF-8 form: a verifier that is its own
challenge, or the challenge that was sent. -/
inductive Unwritable (method : ChallengeMethod) (verifier challenge : Text) : Prop
  | verifier (plain : method = .plain) (present : challenge ≠ [])
    (unwritable : Utf8.encodable verifier = false) : Unwritable method verifier challenge
  | challenge (present : verifier ≠ [])
    (compared : method = .s256 → ∀ c ∈ verifier, c.isAscii = true)
    (unwritable : Utf8.encodable challenge = false) : Unwritable method verifier challenge

/-- Nothing is compared with an empty text. -/
theorem verify_of_empty (h : verifier = [] ∨ challenge = []) (method : ChallengeMethod) :
    verify verifier challenge method = .ok false := if_pos h

/-- What is compared is the challenge of the verifier. -/
theorem verify_of_present (h : ¬ (verifier = [] ∨ challenge = [])) (method : ChallengeMethod) :
    verify verifier challenge method =
      match challenge? method verifier with
      | none => .ok false
      | some expected =>
        if Utf8.encodable expected && Utf8.encodable challenge then
          .ok (decide (expected = challenge))
        else .error .unencodable := by
  rw [verify, if_neg h]
  cases challenge? method verifier with
  | none => rfl
  | some expected => exact Utf8.compare_encode? expected challenge Fault.unencodable

/-- A text without a UTF-8 form is not empty. -/
theorem ne_nil_of_not_encodable {t : Text} (h : Utf8.encodable t = false) : t ≠ [] := by
  rintro rfl
  cases h

theorem unwritable_iff :
    Unwritable method verifier challenge ↔ ¬ (verifier = [] ∨ challenge = []) ∧
      ∃ expected, challenge? method verifier = some expected ∧
        (Utf8.encodable expected && Utf8.encodable challenge) = false := by
  rw [not_or]
  constructor
  · intro h
    cases h with
    | verifier hplain hpresent hunwritable =>
      subst hplain
      refine ⟨⟨ne_nil_of_not_encodable hunwritable, hpresent⟩, verifier, rfl, ?_⟩
      rw [hunwritable, Bool.false_and]
    | challenge hpresent hcompared hunwritable =>
      obtain ⟨expected, hexpected⟩ : ∃ expected, challenge? method verifier = some expected := by
        cases method with
        | plain => exact ⟨verifier, rfl⟩
        | s256 =>
          obtain ⟨octets, hlow, rfl⟩ :=
            exists_octets_of_isAscii (List.all_eq_true.2 (hcompared rfl))
          exact ⟨_, challenge?_map_ofByte hlow⟩
      refine ⟨⟨hpresent, ne_nil_of_not_encodable hunwritable⟩, expected, hexpected, ?_⟩
      rw [hunwritable, Bool.and_false]
  · rintro ⟨⟨hverifier, hchallenge⟩, expected, hexpected, hunwritable⟩
    cases challenge?_eq_some_iff.1 hexpected with
    | plain =>
      rcases Bool.and_eq_false_iff.1 hunwritable with hfirst | hsecond
      · exact .verifier rfl hchallenge hfirst
      · exact .challenge hverifier nofun hsecond
    | s256 hlow =>
      rw [Base64.encodable_encodeUrl, Bool.true_and] at hunwritable
      have hascii := List.all_eq_true.1 (isAscii_map_ofByte_iff.2 hlow)
      exact .challenge hverifier (fun _ => hascii) hunwritable

/-- Verification that cannot write a text fails. -/
theorem verify_of_unwritable (h : Unwritable method verifier challenge) :
    verify verifier challenge method = .error .unencodable := by
  obtain ⟨hpresent, expected, hexpected, hunwritable⟩ := unwritable_iff.1 h
  simp only [verify_of_present hpresent, hexpected, hunwritable, Bool.false_eq_true, if_false]

/-- Verification that can write its texts is exact. -/
theorem verifiesExactly_of_writable (h : ¬ Unwritable method verifier challenge) :
    VerifiesExactly method verifier challenge := by
  by_cases hempty : verifier = [] ∨ challenge = []
  · refine ⟨false, verify_of_empty hempty method, nofun, ?_⟩
    rintro ⟨hverifier, hchallenge, -⟩
    exact absurd hempty (not_or.2 ⟨hverifier, hchallenge⟩)
  have hverify := verify_of_present hempty method
  obtain ⟨hverifier, hchallenge⟩ := not_or.1 hempty
  cases hexpected : challenge? method verifier with
  | none =>
    rw [hexpected] at hverify
    refine ⟨false, hverify, nofun, ?_⟩
    rintro ⟨-, -, hderives⟩
    rw [challenge?_eq_some_iff.2 hderives] at hexpected
    cases hexpected
  | some expected =>
    have hwritable : (Utf8.encodable expected && Utf8.encodable challenge) = true := by
      rw [← Bool.not_eq_false]
      intro hunwritable
      exact h (unwritable_iff.2 ⟨hempty, expected, hexpected, hunwritable⟩)
    simp only [hexpected, hwritable, if_true] at hverify
    refine ⟨_, hverify, ?_⟩
    rw [decide_eq_true_iff, ← challenge?_eq_some_iff, hexpected, Option.some_inj]
    exact ⟨fun hsame => ⟨hverifier, hchallenge, hsame⟩, fun hall => hall.2.2⟩

/-- What the text of a digest looks like: 43 characters of the URL-safe alphabet, without padding. -/
structure IsDigestText (t : Text) : Prop where
  length_eq : t.length = 43
  isUrlSafe : ∀ c ∈ t, c.isUrlSafe = true
  pad_notMem : Base64.pad ∉ t

theorem isDigestText_of_derives (h : Derives .s256 verifier challenge) :
    IsDigestText challenge := by
  cases h
  constructor
  · rw [Base64.length_encodeUrl, Sha256.length_digest]
  · exact fun c hc => Base64.isUrlSafe_of_mem hc
  · intro hpad
    exact absurd (Base64.isUrlSafe_of_mem hpad) (by decide)

/-- Verification is exact for all verifiers and challenges, unless one of the two texts to compare
cannot be written; then it fails. A padded challenge is answered with false. -/
theorem verify_exact_iff (method : ChallengeMethod) (verifier challenge : Text) :
    (VerifiesExactly method verifier challenge ↔ ¬ Unwritable method verifier challenge) ∧
      (Unwritable method verifier challenge →
        verify verifier challenge method = .error .unencodable) ∧
      (method = .s256 → Base64.pad ∈ challenge → Utf8.encodable challenge = true →
        verify verifier challenge method = .ok false) := by
  refine ⟨⟨?_, verifiesExactly_of_writable⟩, verify_of_unwritable, ?_⟩
  · rintro ⟨answer, hanswer, -⟩ hunwritable
    rw [verify_of_unwritable hunwritable] at hanswer
    cases hanswer
  · rintro rfl hpad hencodable
    have hwritable : ¬ Unwritable .s256 verifier challenge := by
      intro h
      cases h with
      | verifier hplain => cases hplain
      | challenge _ _ hunwritable =>
        rw [hencodable] at hunwritable
        cases hunwritable
    obtain ⟨answer, hanswer, htrue⟩ := verifiesExactly_of_writable hwritable
    cases answer with
    | false => exact hanswer
    | true => exact absurd hpad (isDigestText_of_derives (htrue.1 rfl).2.2).pad_notMem

def surrogateChallenge : Text := [⟨0xDC00, by decide⟩]

/-- A challenge that is a lone surrogate is not refused: verification fails. -/
theorem surrogateChallenge_not_verified :
    ¬ ∀ method verifier challenge, VerifiesExactly method verifier challenge := by
  intro h
  obtain ⟨answer, hanswer, -⟩ := h .s256 "a" surrogateChallenge
  have hunwritable : Unwritable .s256 "a" surrogateChallenge :=
    .challenge (by decide) (fun _ => by decide) rfl
  rw [verify_of_unwritable hunwritable] at hanswer
  cases hanswer

/-! ## Generation -/

/-- A generated challenge conforms to RFC 7636: its verifier is admitted, and the challenge is derived
from it and verifies. -/
structure Conforms (method : ChallengeMethod) (made : PkceChallenge) : Prop where
  method_eq : made.method = method
  isVerifier : IsVerifier made.verifier
  derives : Derives method made.verifier made.challenge
  isDigestText : method = .s256 → IsDigestText made.challenge
  verifies : verify made.verifier made.challenge method = .ok true

/-- What is generated has the first draw as its verifier. -/
theorem generate_eq {random : RandomStream}
    (h : challenge? method (Base64.encodeUrl (random.draw verifierOctets).1) = some challenge) :
    generate method random =
      (.ok ⟨Base64.encodeUrl (random.draw verifierOctets).1, challenge, method⟩,
        (random.draw verifierOctets).2) := by
  rw [generate, drawVerifier_eq]
  simp only [Pkce.challenge, h]
  rfl

theorem conforms_of_challenge? {octets : Octets} (hsize : octets.length = verifierOctets)
    (h : challenge? method (Base64.encodeUrl octets) = some challenge) :
    Conforms method ⟨Base64.encodeUrl octets, challenge, method⟩ := by
  have hoctets : octets ≠ [] := by
    rintro rfl
    cases hsize
  have hderives := challenge?_eq_some_iff.1 h
  refine ⟨rfl, isVerifier_encodeUrl hsize, hderives, ?_, verify_of_challenge? hoctets h⟩
  rintro rfl
  exact isDigestText_of_derives hderives

/-- Generation ends on the first draw, which takes 64 octets. What it makes conforms to RFC 7636, and
every other draw makes another verifier. -/
theorem generation_conforms (method : ChallengeMethod) (random : RandomStream) :
    ∃ made, made.verifier = Base64.encodeUrl (random.draw 64).1 ∧
      drawVerifier random = (made.verifier, ⟨random.octet, random.drawn + 64⟩) ∧
      generate method random = (.ok made, ⟨random.octet, random.drawn + 64⟩) ∧
      Conforms method made ∧
      ∀ other, (drawVerifier other).1 = made.verifier ↔
        (other.draw 64).1 = (random.draw 64).1 := by
  obtain ⟨challenge, hchallenge⟩ :=
    exists_challenge? method (random.draw verifierOctets).1
  refine ⟨_, rfl, drawVerifier_eq random, generate_eq hchallenge,
    conforms_of_challenge? (random.length_draw verifierOctets) hchallenge, ?_⟩
  intro other
  rw [drawVerifier_eq]
  constructor
  · exact Base64.encodeUrl_injective
  · exact congrArg Base64.encodeUrl

end Pkce

end SignIn
