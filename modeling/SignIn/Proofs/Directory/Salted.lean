import SignIn.Directory.Matcher
import SignIn.Proofs.Codec.Symbols

/-!
# Salted digests

A salted payload is the canonical text of a digest followed by the salt that went into it. The check
reads the salt off the payload, wherever the digest ends, and writes the payload again: so it accepts
exactly the payloads that some salt leads to, however long that salt is, and refuses all others
without a failure.
-/

namespace SignIn

namespace Directory

/-! ## Stored texts -/

section stored

variable {m : Matcher} {password stored payload : Text}

/-- Blank texts belong to nothing, so texts are checked as they are. -/
theorem accepts_text (m : Matcher) (password stored : Text) :
    m.accepts (.text password) (.text stored) = m.matchesText password stored := by
  have hnonBlank (t : Text) : Matcher.nonBlank? (.text t) =
      .ok (if t.isBlank then none else some t) := rfl
  simp only [Matcher.accepts, hnonBlank]
  cases hpassword : password.isBlank with
  | true => rw [Matcher.matchesText, hpassword]; rfl
  | false =>
    cases hstored : stored.isBlank with
    | true => rw [Matcher.matchesText, hstored, Bool.or_true]; rfl
    | false => rfl

/-- A stored text that has the tag is checked by its payload. -/
theorem accepts_of_payloadOf? (hpassword : password.isBlank = false)
    (hstored : stored.isBlank = false) (hpayload : m.payloadOf? stored = some payload) :
    m.accepts (.text password) (.text stored) = m.matchesPayload password payload := by
  rw [accepts_text, Matcher.matchesText, hpassword, hstored, hpayload]
  rfl

/-- A stored text without the tag is refused. -/
theorem accepts_of_payloadOf?_none (password : Text) (h : m.payloadOf? stored = none) :
    m.accepts (.text password) (.text stored) = .ok false := by
  rw [accepts_text, Matcher.matchesText, h]
  split <;> rfl

theorem payloadOf?_eq_some_iff :
    m.payloadOf? stored = some payload ↔
      Text.toUpper (stored.take m.tag.length) = m.tag.toUpper ∧
        stored.drop m.tag.length = payload := by
  unfold Matcher.payloadOf?
  by_cases h : Text.toUpper (stored.take m.tag.length) = m.tag.toUpper <;> simp [h]

end stored

/-! ## Payloads -/

/-- The payload of the UTF-8 form of a password with a salt. -/
def saltedText (algorithm : DigestAlgorithm) (octets salt : Octets) : Text :=
  Base64.encode (algorithm.digest (octets ++ salt) ++ salt)

section payload

variable {algorithm : DigestAlgorithm} {octets : Octets} {password : Text}

theorem saltedPayload_eq (hencode : Utf8.encode? password = some octets) (salt : Octets) :
    Matcher.saltedPayload algorithm salt password = .ok (saltedText algorithm octets salt) := by
  rw [Matcher.saltedPayload, Matcher.octetsOf, hencode]
  rfl

/-- What is read from a salted payload: the digest and the salt. -/
theorem decode?_saltedText (algorithm : DigestAlgorithm) (octets salt : Octets) :
    Base64.decode? (saltedText algorithm octets salt) =
      some (algorithm.digest (octets ++ salt) ++ salt) :=
  Base64.decode?_encode _

/-- The payload of a password with a salt that is not empty is checked right. -/
theorem matchesPayload_saltedText (scheme : Text) (saltLength : Option Int)
    (hencode : Utf8.encode? password = some octets) {salt : Octets} (hsalt : salt ≠ []) :
    (Matcher.salted scheme algorithm saltLength).matchesPayload password
      (saltedText algorithm octets salt) = .ok true := by
  have hpositive := List.length_pos_iff.2 hsalt
  have hlong : ¬ (algorithm.digest (octets ++ salt) ++ salt).length ≤ algorithm.size := by
    rw [List.length_append, DigestAlgorithm.length_digest]
    omega
  have hdrop : (algorithm.digest (octets ++ salt) ++ salt).drop algorithm.size = salt :=
    List.drop_left' (DigestAlgorithm.length_digest algorithm _)
  unfold Matcher.matchesPayload
  simp only [decode?_saltedText, if_neg hlong, hdrop, saltedPayload_eq hencode]
  exact congrArg Except.ok (decide_eq_true rfl)

/-- A payload that is checked right is that of a salt which is not empty, and no payload makes the
check fail. -/
theorem matchesPayload_salted (scheme : Text) (saltLength : Option Int)
    (hencode : Utf8.encode? password = some octets) (payload : Text) :
    (Matcher.salted scheme algorithm saltLength).matchesPayload password payload = .ok false ∨
      ∃ salt, salt ≠ [] ∧ payload = saltedText algorithm octets salt := by
  unfold Matcher.matchesPayload
  cases hdecode : Base64.decode? payload with
  | none => exact .inl rfl
  | some raw =>
    by_cases hshort : raw.length ≤ algorithm.size
    · left
      simp only [if_pos hshort]
    · have hsalt : raw.drop algorithm.size ≠ [] := by
        rw [ne_eq, List.drop_eq_nil_iff]
        exact hshort
      simp only [if_neg hshort, saltedPayload_eq hencode]
      by_cases hsame : saltedText algorithm octets (raw.drop algorithm.size) = payload
      · exact .inr ⟨_, hsalt, hsame.symm⟩
      · exact .inl (congrArg Except.ok (decide_eq_false hsame))

end payload

/-! ## The check -/

/-- A stored text has the tag in some case, and behind it a payload of a password in UTF-8 form with
a salt of at least one octet. -/
def IsSaltedForm (m : Matcher) (algorithm : DigestAlgorithm) (octets : Octets) (stored : Text) :
    Prop :=
  Text.toUpper (stored.take m.tag.length) = m.tag.toUpper ∧
    ∃ salt, salt ≠ [] ∧ stored.drop m.tag.length = saltedText algorithm octets salt

theorem isBlank_saltedText (algorithm : DigestAlgorithm) (octets salt : Octets) :
    (saltedText algorithm octets salt).isBlank = false := by
  apply Base64.isBlank_encode
  intro hnil
  have hlength := congrArg List.length (List.append_eq_nil_iff.1 hnil).1
  rw [DigestAlgorithm.length_digest, List.length_nil] at hlength
  cases algorithm <;> cases hlength

/-- What is stored in the form is not blank, since its payload is not. -/
theorem isBlank_of_isSaltedForm {m : Matcher} {algorithm : DigestAlgorithm} {octets : Octets}
    {stored : Text} (h : IsSaltedForm m algorithm octets stored) : stored.isBlank = false := by
  obtain ⟨-, salt, -, hpayload⟩ := h
  by_contra hblank
  rw [Bool.not_eq_false, Text.isBlank, List.all_eq_true] at hblank
  have hdropped : (saltedText algorithm octets salt).isBlank = true := by
    rw [← hpayload, Text.isBlank, List.all_eq_true]
    exact fun c hc => hblank c (List.mem_of_mem_drop hc)
  rw [isBlank_saltedText] at hdropped
  cases hdropped

section salted

variable {scheme password stored : Text} {algorithm : DigestAlgorithm} {saltLength : Option Int}
  {octets : Octets}

variable (saltLength) in
/-- A stored text in the form is accepted. -/
theorem accepts_of_isSaltedForm (hblank : password.isBlank = false)
    (hencode : Utf8.encode? password = some octets)
    (h : IsSaltedForm (.salted scheme algorithm saltLength) algorithm octets stored) :
    (Matcher.salted scheme algorithm saltLength).accepts (.text password) (.text stored) =
      .ok true := by
  have hstored := isBlank_of_isSaltedForm h
  obtain ⟨htag, salt, hsalt, hdrop⟩ := h
  have hpayload : (Matcher.salted scheme algorithm saltLength).payloadOf? stored =
      some (saltedText algorithm octets salt) := payloadOf?_eq_some_iff.2 ⟨htag, hdrop⟩
  rw [accepts_of_payloadOf? hblank hstored hpayload]
  exact matchesPayload_saltedText scheme saltLength hencode hsalt

variable (scheme algorithm saltLength stored) in
/-- A stored text is refused or has the form. -/
theorem refused_or_isSaltedForm (hencode : Utf8.encode? password = some octets) :
    (Matcher.salted scheme algorithm saltLength).accepts (.text password) (.text stored) =
        .ok false ∨
      IsSaltedForm (.salted scheme algorithm saltLength) algorithm octets stored := by
  rw [accepts_text, Matcher.matchesText]
  split
  · exact .inl rfl
  · cases hpayload : (Matcher.salted scheme algorithm saltLength).payloadOf? stored with
    | none => exact .inl rfl
    | some payload =>
      obtain ⟨htag, hdrop⟩ := payloadOf?_eq_some_iff.1 hpayload
      rcases matchesPayload_salted scheme saltLength hencode payload with
        hrefused | ⟨salt, hsalt, hform⟩
      · exact .inl hrefused
      · exact .inr ⟨htag, salt, hsalt, hdrop.trans hform⟩

end salted

/-- The check of salted digests is sound and complete, and it never fails: it says yes to the stored
texts that have the form, and no to all others. -/
theorem salted_accepts_iff (scheme : Text) (algorithm : DigestAlgorithm) (saltLength : Option Int)
    {password : Text} {octets : Octets} (hblank : password.isBlank = false)
    (hencode : Utf8.encode? password = some octets) (stored : Text) :
    ((Matcher.salted scheme algorithm saltLength).accepts (.text password) (.text stored) =
        .ok true ↔
      IsSaltedForm (.salted scheme algorithm saltLength) algorithm octets stored) ∧
    ((Matcher.salted scheme algorithm saltLength).accepts (.text password) (.text stored) =
        .ok false ↔
      ¬ IsSaltedForm (.salted scheme algorithm saltLength) algorithm octets stored) := by
  have hcases := refused_or_isSaltedForm scheme stored algorithm saltLength hencode
  by_cases hform : IsSaltedForm (.salted scheme algorithm saltLength) algorithm octets stored
  · rw [accepts_of_isSaltedForm saltLength hblank hencode hform]
    exact ⟨iff_of_true rfl hform, iff_of_false (by decide) (not_not_intro hform)⟩
  · rw [hcases.resolve_right hform]
    exact ⟨iff_of_false (by decide) hform, iff_of_true rfl hform⟩

/-- A matcher that draws salts of eight octets accepts a tag in both cases with a salt of three, and
refuses a tag without a payload. -/
theorem salted_accepts_other_salt :
    (Matcher.salted "SSHA" .sha1 (some 8)).accepts (.text "secret")
        (.text (Text.ofString "\x7bSsHa\x7d" ++
          saltedText .sha1 [115, 101, 99, 114, 101, 116] [1, 2, 3])) = .ok true ∧
      (Matcher.salted "SSHA" .sha1 (some 8)).accepts (.text "secret")
        (.text (Text.ofString "\x7bSSHA\x7d")) = .ok false := by
  have hencode : Utf8.encode? "secret" = some [115, 101, 99, 114, 101, 116] := by decide
  refine ⟨(salted_accepts_iff "SSHA" .sha1 (some 8) (by decide) hencode _).1.2
      ⟨by decide, [1, 2, 3], by decide, rfl⟩,
    (salted_accepts_iff "SSHA" .sha1 (some 8) (by decide) hencode _).2.2 ?_⟩
  rintro ⟨-, salt, -, hpayload⟩
  have hblank := isBlank_saltedText .sha1 [115, 101, 99, 114, 101, 116] salt
  rw [← hpayload] at hblank
  exact absurd hblank (by decide)

end Directory

end SignIn
