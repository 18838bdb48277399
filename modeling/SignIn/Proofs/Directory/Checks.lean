import SignIn.Proofs.Directory.Schemes

/-!
# Checks without an answer

Passwords and payloads are compared by their UTF-8 form, and so a check has no answer where one of
them has none. The schemes differ in what they compare: a bcrypt check answers always, a check of a
salted digest whenever the password has a UTF-8 form, and the others need one of the payload as well.
-/

namespace SignIn

namespace Directory

namespace Matcher

/-- A check of a password against a payload has no answer. -/
def CannotCompare (m : Matcher) (password payload : Text) : Prop :=
  match m with
  | .clear => ¬ (Utf8.encodable password = true ∧ Utf8.encodable payload = true)
  | .digest _ _ => ¬ (Utf8.encodable password = true ∧ Utf8.encodable payload = true)
  | .salted _ algorithm _ =>
    Utf8.encodable password = false ∧
      ∃ raw, Base64.decode? payload = some raw ∧ algorithm.size < raw.length
  | .bcrypt => False

/-- A stored text has the tag, and behind it a payload whose check has no answer. -/
def Stumbles (m : Matcher) (password stored : Text) : Prop :=
  stored.isBlank = false ∧
    ∃ payload, m.payloadOf? stored = some payload ∧ m.CannotCompare password payload

end Matcher

section texts

variable {a b : Text}

theorem sameOctets_of_encodable (ha : Utf8.encodable a = true) (hb : Utf8.encodable b = true) :
    ∃ answer, Matcher.sameOctets a b = .ok answer := by
  rw [Matcher.sameOctets, Utf8.encode?_of_encodable ha, Utf8.encode?_of_encodable hb]
  exact ⟨_, rfl⟩

theorem sameOctets_of_not_encodable
    (h : ¬ (Utf8.encodable a = true ∧ Utf8.encodable b = true)) :
    Matcher.sameOctets a b = .error .unencodable := by
  unfold Matcher.sameOctets
  cases ha : Utf8.encodable a with
  | false => rw [Utf8.encode?_of_not_encodable ha]
  | true =>
    have hb : Utf8.encodable b = false := by simpa [ha] using h
    rw [Utf8.encode?_of_encodable ha, Utf8.encode?_of_not_encodable hb]

end texts

section payloads

variable {m : Matcher} {password payload : Text} {written : Octets}

theorem octetsOf_of_not_encodable (h : Utf8.encodable password = false) :
    Matcher.octetsOf password = .error .unencodable := by
  rw [Matcher.octetsOf, Utf8.encode?_of_not_encodable h]

/-- The check of a matcher that can write a password fails if there is nothing to compare. -/
theorem matchesPayload_of_cannotCompare (husable : m.Usable written)
    (h : m.CannotCompare password payload) :
    m.matchesPayload password payload = .error .unencodable := by
  cases m with
  | clear => exact sameOctets_of_not_encodable h
  | digest scheme algorithm =>
    obtain ⟨known, halgorithm⟩ := husable
    rw [Matcher.matchesPayload]
    cases hpassword : Utf8.encodable password with
    | false =>
      rw [Matcher.digestPayload, octetsOf_of_not_encodable hpassword]
      rfl
    | true =>
      -- The digest of a password is written in ASCII, so only the payload is left to fail.
      have hpayload : Utf8.encodable payload = false := by
        simpa [Matcher.CannotCompare, hpassword] using h
      rw [digestPayload_eq halgorithm (Utf8.encode?_of_encodable hpassword)]
      exact sameOctets_of_not_encodable (by simp [hpayload])
  | salted scheme algorithm saltLength =>
    obtain ⟨hpassword, raw, hdecode, hlong⟩ := h
    have hshort : ¬ raw.length ≤ algorithm.size := by omega
    rw [Matcher.matchesPayload, hdecode]
    simp only [if_neg hshort, Matcher.saltedPayload, octetsOf_of_not_encodable hpassword]
    rfl
  | bcrypt => exact h.elim

/-- The check of a matcher that can write a password answers if there is something to compare. -/
theorem exists_matchesPayload (husable : m.Usable written)
    (h : ¬ m.CannotCompare password payload) :
    ∃ answer, m.matchesPayload password payload = .ok answer := by
  cases m with
  | clear =>
    obtain ⟨hpassword, hpayload⟩ := not_not.1 h
    exact sameOctets_of_encodable hpassword hpayload
  | digest scheme algorithm =>
    obtain ⟨known, halgorithm⟩ := husable
    obtain ⟨hpassword, hpayload⟩ := not_not.1 h
    rw [Matcher.matchesPayload, digestPayload_eq halgorithm (Utf8.encode?_of_encodable hpassword)]
    exact sameOctets_of_encodable (Base64.encodable_encode _) hpayload
  | salted scheme algorithm saltLength =>
    rw [Matcher.matchesPayload]
    cases hdecode : Base64.decode? payload with
    | none => exact ⟨false, rfl⟩
    | some raw =>
      by_cases hshort : raw.length ≤ algorithm.size
      · exact ⟨false, if_pos hshort⟩
      · cases hpassword : Utf8.encodable password with
        | false => exact absurd ⟨hpassword, raw, hdecode, by omega⟩ h
        | true =>
          simp only [if_neg hshort, saltedPayload_eq (Utf8.encode?_of_encodable hpassword)]
          exact ⟨_, rfl⟩
  | bcrypt =>
    rw [Matcher.matchesPayload]
    cases Utf8.encode? password with
    | none => exact ⟨false, rfl⟩
    | some octets => exact ⟨_, rfl⟩

end payloads

/-- No password belongs to an entry without a stored one. -/
theorem accepts_null (m : Matcher) (password : Text) :
    m.accepts (.text password) .null = .ok false := by
  have hnonBlank : Matcher.nonBlank? (.text password) =
      .ok (if password.isBlank then none else some password) := rfl
  rw [Matcher.accepts, hnonBlank]
  cases password.isBlank <;> rfl

namespace Scheme

variable {password stored : Text}

/-- The matchers of the table can write some password. -/
theorem usable_nil (s : Scheme) : s.matcher.Usable [] := usable_matcher s fun _ => Nat.zero_le _

/-- A check of the table that has no answer fails. -/
theorem accepts_of_stumbles {s : Scheme} (hpassword : password.isBlank = false)
    (h : s.matcher.Stumbles password stored) :
    s.matcher.accepts (.text password) (.text stored) = .error .unencodable := by
  obtain ⟨hstored, payload, hpayload, hcompare⟩ := h
  rw [accepts_of_payloadOf? hpassword hstored hpayload]
  exact matchesPayload_of_cannotCompare s.usable_nil hcompare

/-- All other checks of the table have an answer. -/
theorem exists_accepts {s : Scheme} (h : ¬ s.matcher.Stumbles password stored) :
    ∃ answer, s.matcher.accepts (.text password) (.text stored) = .ok answer := by
  rw [accepts_text, Matcher.matchesText]
  cases hpassword : password.isBlank with
  | true => exact ⟨false, rfl⟩
  | false =>
    cases hstored : stored.isBlank with
    | true => exact ⟨false, rfl⟩
    | false =>
      cases hpayload : s.matcher.payloadOf? stored with
      | none => exact ⟨false, rfl⟩
      | some payload =>
        refine exists_matchesPayload s.usable_nil ?_
        exact fun hcompare => h ⟨hstored, payload, hpayload, hcompare⟩

end Scheme

end Directory

end SignIn
