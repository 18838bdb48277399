import SignIn.Local.Account
import SignIn.Proofs.Bcrypt.HashText

/-!
# Hashed passwords

A password belongs to the hash that is made of it, under every salt text that is accepted. The hash
names the setting in one spelling of its own, so the setting that is read back from it is the one
that made it, however the salt text spells it. Passwords that are too long or have no UTF-8 form have
no hash and belong to none, and a check always has an answer.
-/

namespace SignIn

namespace Local

section password

variable {password : Text} {octets : Octets}

theorem hashPassword_eq (hencode : Utf8.encode? password = some octets) (salt : Text) :
    hashPassword salt (.text password) =
      match Bcrypt.hashWith? octets salt with
      | some t => .ok t
      | none => .error .badValue := by
  cases hhash : Bcrypt.hashWith? octets salt with
  | none => simp only [hashPassword, hencode, hhash]
  | some hash => simp only [hashPassword, hencode, hhash]

theorem verifyText_eq (hencode : Utf8.encode? password = some octets) (hash : Text) :
    verifyText password hash = (Bcrypt.check? octets hash).getD false := by
  rw [verifyText, hencode]

/-- A password without a UTF-8 form belongs to no hash. -/
theorem verifyText_of_unencodable (h : Utf8.encode? password = none) (hash : Text) :
    verifyText password hash = false := by
  rw [verifyText, h]

/-- The check of a text against a text has an answer. -/
theorem verifyPassword_text (password hash : Text) :
    verifyPassword (.text password) (.text hash) = .ok (verifyText password hash) := by
  simp only [verifyPassword]
  cases hencodable : Utf8.encodable password with
  | true => rfl
  | false =>
    rw [verifyText_of_unencodable (Utf8.encode?_of_not_encodable hencodable)]
    rfl

/-- A password that is too long belongs to no text. -/
theorem verifyText_of_long (hencode : Utf8.encode? password = some octets)
    (hlong : Bcrypt.maxPassword < octets.length) (hash : Text) :
    verifyText password hash = false := by
  rw [verifyText_eq hencode, Bcrypt.check?, Bcrypt.hashWith?_of_long hash hlong]
  rfl

end password

/-- Hashing and checking agree, whatever the salt text: a password of at most 72 octets has a hash,
which names the setting of the salt text, and belongs to it. A longer one has no hash and belongs to
no text, and neither does one without a UTF-8 form. Every check of a text has an answer. -/
theorem hash_verifies {salt : Text} {setting : Bcrypt.Setting}
    (hsalt : Bcrypt.Setting.parse? salt = some setting) (password : Text) :
    (∀ octets, Utf8.encode? password = some octets → octets.length ≤ 72 →
      ∃ hash, hashPassword salt (.text password) = .ok hash ∧
        Bcrypt.Setting.parse? hash = some setting ∧
        verifyPassword (.text password) (.text hash) = .ok true) ∧
    (∀ octets, Utf8.encode? password = some octets → 72 < octets.length →
      hashPassword salt (.text password) = .error .badValue ∧
        ∀ hash, verifyPassword (.text password) (.text hash) = .ok false) ∧
    (Utf8.encode? password = none →
      hashPassword salt (.text password) = .error .unencodable ∧
        ∀ hash, verifyPassword (.text password) (.text hash) = .ok false) ∧
    ∀ hash, ∃ answer, verifyPassword (.text password) (.text hash) = .ok answer := by
  have hproper := Bcrypt.isProper_of_parse? hsalt
  refine ⟨?_, ?_, ?_, ?_⟩
  · intro octets hencode hlength
    refine ⟨Bcrypt.hashText setting octets, ?_, Bcrypt.parse?_hashText hproper octets, ?_⟩
    · rw [hashPassword_eq hencode, Bcrypt.hashWith?_eq hsalt hlength]
    · rw [verifyPassword_text, verifyText_eq hencode, Bcrypt.check?_hashText hproper hlength]
      rfl
  · intro octets hencode hlong
    refine ⟨?_, fun hash => ?_⟩
    · rw [hashPassword_eq hencode, Bcrypt.hashWith?_of_long salt hlong]
    · rw [verifyPassword_text, verifyText_of_long hencode hlong]
  · intro hnone
    refine ⟨?_, fun hash => ?_⟩
    · simp only [hashPassword, hnone]
    · rw [verifyPassword_text, verifyText_of_unencodable hnone]
  · exact fun hash => ⟨_, verifyPassword_text password hash⟩

/-- A salt text may spell its cost with a sign and go on behind the salt. Under it the longest
password has a hash and belongs to it, and a password of one octet more has none. -/
theorem hash_verifies_other_spelling :
    Bcrypt.Setting.parse? "2b$+4$$......................rest" =
        some ⟨.v2b, 4, List.replicate 16 0⟩ ∧
      (∃ hash, hashPassword "2b$+4$$......................rest"
          (.text (List.replicate 36 ⟨0xE9, by decide⟩)) = .ok hash ∧
        verifyPassword (.text (List.replicate 36 ⟨0xE9, by decide⟩)) (.text hash) = .ok true) ∧
      hashPassword "2b$+4$$......................rest" (.text (List.replicate 73 ⟨0x61, by decide⟩)) =
        .error .badValue := by
  have hsalt : Bcrypt.Setting.parse? "2b$+4$$......................rest" =
      some ⟨.v2b, 4, List.replicate 16 0⟩ := by decide +kernel
  have hlongest : Utf8.encode? (List.replicate 36 ⟨0xE9, by decide⟩) =
      some ((List.replicate 36 [0xC3, 0xA9]).flatten) := by decide +kernel
  have hlonger : Utf8.encode? (List.replicate 73 ⟨0x61, by decide⟩) =
      some (List.replicate 73 0x61) := by decide +kernel
  obtain ⟨hash, hhash, -, hverify⟩ := (hash_verifies hsalt _).1 _ hlongest (by decide)
  exact ⟨hsalt, ⟨hash, hhash, hverify⟩, ((hash_verifies hsalt _).2.1 _ hlonger (by decide)).1⟩

end Local

end SignIn
