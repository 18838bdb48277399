import Mathlib.Tactic.ByContra
import SignIn.Proofs.Directory.Course

/-!
# What decides a login against a directory

A login signs in exactly those whose password is accepted against the stored one, and refuses all
others in the same words. This holds for every directory whose values can be told, except that
schemes without a salt compare the stored payload by its UTF-8 form, which a text may lack.
-/

namespace SignIn

namespace Directory

/-- A login gets as far as an entry, and its password is accepted. -/
def Grants (find : Lookup) (config : DirectoryConfig) (request : Request) (s : Scheme)
    (username : Text) (fields : Record) : Prop :=
  ∃ password, Reaches find config request s username password fields ∧
    Accepts s config password fields

/-- A login is decided by the stored password: it signs in the user of the entry or is refused, in
words that do not tell why once a user name and a password are submitted. Only then one user is
asked for. -/
structure Decided (find : Lookup) (config : DirectoryConfig) (request : Request) (s : Scheme)
    (w : LoginWorld) : Prop where
  granted_iff : (∃ u, resultOf find config request w = .ok (.user u)) ↔
    ∃ username fields, Grants find config request s username fields
  user_eq : ∀ username fields, Grants find config request s username fields →
    resultOf find config request w = .ok (.user (identity config username fields))
  refused : (¬ ∃ username fields, Grants find config request s username fields) →
    ∃ problem, resultOf find config request w = .error (.auth (.invalidCredentials problem))
  alike : ∀ username password, Submits config request username password →
    (¬ ∃ username fields, Grants find config request s username fields) →
    resultOf find config request w = .error (.auth (.invalidCredentials .mismatch))
  asked_once : ∀ username password, Submits config request username password →
    lookupsOf find config request w = w.lookups ++ [username]
  not_asked : (∀ username password, ¬ Submits config request username password) →
    lookupsOf find config request w = w.lookups

/-- The schemes whose check compares the whole payload, which no salt has to be read from. -/
def Scheme.unsalted : List Scheme := [.k5key, .md5, .sha, .sha256, .sha512]

/-- A login gets as far as a stored password that has the tag of a scheme without a salt, and behind
it a payload without a UTF-8 form. -/
structure Unwritable (find : Lookup) (config : DirectoryConfig) (request : Request) (s : Scheme) :
    Prop where
  unsalted : s ∈ Scheme.unsalted
  stored : ∃ username password fields stored payload,
    Reaches find config request s username password fields ∧
      storedPassword? config fields = some stored ∧ s.matcher.payloadOf? stored = some payload ∧
      Utf8.encodable payload = false

section schemes

variable {s : Scheme} {password payload stored : Text}

/-- Of a password with a UTF-8 form, only schemes without a salt cannot compare every payload. -/
theorem cannotCompare_iff (hpassword : Utf8.encodable password = true) :
    s.matcher.CannotCompare password payload ↔
      s ∈ Scheme.unsalted ∧ Utf8.encodable payload = false := by
  cases s <;> simp [Scheme.matcher, Matcher.CannotCompare, Scheme.unsalted, hpassword]

theorem encodable_of_isBlank {t : Text} (h : t.isBlank = true) : Utf8.encodable t = true := by
  rw [Text.isBlank, List.all_eq_true] at h
  rw [Utf8.encodable, List.all_eq_true]
  intro c hc
  have hspace := h c hc
  simp only [CodePoint.isSpace, CodePoint.isSurrogate, Bool.or_eq_true, Bool.and_eq_true,
    Bool.not_eq_true', Bool.and_eq_false_iff, decide_eq_true_eq, decide_eq_false_iff_not]
    at hspace ⊢
  omega

theorem encodable_payload (hpayload : s.matcher.payloadOf? stored = some payload)
    (h : Utf8.encodable stored = true) : Utf8.encodable payload = true := by
  obtain ⟨-, rfl⟩ := payloadOf?_eq_some_iff.1 hpayload
  rw [Utf8.encodable, List.all_eq_true] at h ⊢
  exact fun c hc => h c (List.mem_of_mem_drop hc)

/-- A check of a password with a UTF-8 form has no answer if the payload has none. -/
theorem stumbles_iff (hpassword : Utf8.encodable password = true) :
    s.matcher.Stumbles password stored ↔
      s ∈ Scheme.unsalted ∧
        ∃ payload, s.matcher.payloadOf? stored = some payload ∧ Utf8.encodable payload = false := by
  constructor
  · rintro ⟨-, payload, hpayload, hcompare⟩
    obtain ⟨hunsalted, hencodable⟩ := (cannotCompare_iff hpassword).1 hcompare
    exact ⟨hunsalted, payload, hpayload, hencodable⟩
  · rintro ⟨hunsalted, payload, hpayload, hencodable⟩
    refine ⟨?_, payload, hpayload, (cannotCompare_iff hpassword).2 ⟨hunsalted, hencodable⟩⟩
    -- A blank text has a UTF-8 form, and so would what stands behind its tag.
    by_contra hblank
    have hstored := encodable_of_isBlank (Bool.not_eq_false _ ▸ hblank)
    rw [encodable_payload hpayload hstored] at hencodable
    cases hencodable

end schemes

section results

variable {find : Lookup} {config : DirectoryConfig} {request : Request} {s : Scheme}
  {username password : Text} {fields : Record}

variable (hdirectory : ∀ username, IsEntry IsReadable (find config username))
include hdirectory

/-- No attribute of an entry is octets that are no text. -/
theorem not_isGarbled_of_reaches
    (reaches : Reaches find config request s username password fields) (name : Text) :
    ¬ IsGarbled (valuesOf fields name) := by
  have hentry := hdirectory username
  rw [reaches.entry_eq] at hentry
  cases hentry with
  | present attributes =>
    exact not_isGarbled (first_valuesOf (fun _ h => h.isValue) attributes name)

/-- Who is accepted signs in. -/
theorem result_of_grants (hgrants : Grants find config request s username fields)
    (w : LoginWorld) :
    resultOf find config request w = .ok (.user (identity config username fields)) := by
  obtain ⟨password, reaches, accepted⟩ := hgrants
  have htold := not_isGarbled_of_reaches hdirectory reaches
  exact resultOf_of_course (fun u => (hdirectory u).ofReadable)
    (.granted reaches (htold _) accepted (htold _)) w

/-- Who gets to a payload that has no UTF-8 form meets a fault. -/
theorem result_of_unwritable (hpassword : ∀ password,
      request.get config.passwordParam = some password → Utf8.encodable password = true)
    (h : Unwritable find config request s) (w : LoginWorld) :
    resultOf find config request w = .error (.fault .unencodable) := by
  obtain ⟨hunsalted, username, password, fields, stored, payload, reaches, found, hpayload, hnone⟩ := h
  have hstumbles : s.matcher.Stumbles password stored :=
    (stumbles_iff (hpassword _ reaches.submits.password_eq)).2 ⟨hunsalted, payload, hpayload, hnone⟩
  have htold := not_isGarbled_of_reaches hdirectory reaches
  exact resultOf_of_course (fun u => (hdirectory u).ofReadable)
    (.stumbling reaches (htold _) found hstumbles) w

/-- Whoever else submits a user name and a password is refused, in one way. -/
theorem result_of_not_grants (known : Scheme.ofText? config.passwordScheme = some s)
    (hpassword : Utf8.encodable password = true)
    (submits : Submits config request username password)
    (hwritable : ¬ Unwritable find config request s)
    (hnone : ¬ ∃ username fields, Grants find config request s username fields) (w : LoginWorld) :
    resultOf find config request w = .error (.auth (.invalidCredentials .mismatch)) := by
  have hvalues (u : Text) := (hdirectory u).ofReadable
  obtain ⟨asked, result, hcourse⟩ := exists_course hvalues request
  rw [resultOf_of_course hvalues hcourse w]
  cases hcourse with
  | unknownScheme unknown =>
    rw [known] at unknown
    cases unknown
  | missing known' absent => exact absurd submits (absent username password)
  | unknown known' submits' absent => rfl
  | garbledPassword reaches garbled =>
    exact absurd garbled (not_isGarbled_of_reaches hdirectory reaches _)
  | @stumbling s' _ _ stored fields reaches told found stumbles =>
    obtain rfl : s' = s := Option.some.inj (reaches.scheme_eq.symm.trans known)
    obtain ⟨rfl, rfl⟩ := reaches.submits.unique submits
    obtain ⟨hunsalted, payload, hpayload, hencodable⟩ := (stumbles_iff hpassword).1 stumbles
    exact absurd ⟨hunsalted, _, _, fields, stored, payload, reaches, found, hpayload, hencodable⟩
      hwritable
  | wrong reaches told refused => rfl
  | garbledId reaches told accepted garbled =>
    exact absurd garbled (not_isGarbled_of_reaches hdirectory reaches _)
  | @granted s' _ _ _ reaches told accepted told' =>
    obtain rfl : s' = s := Option.some.inj (reaches.scheme_eq.symm.trans known)
    exact absurd ⟨_, _, _, reaches, accepted⟩ hnone

/-- Without a user name and a password nobody is asked for. -/
theorem course_of_not_submits (known : Scheme.ofText? config.passwordScheme = some s)
    (absent : ∀ username password, ¬ Submits config request username password) (w : LoginWorld) :
    resultOf find config request w = .error (.auth (.invalidCredentials .missing)) ∧
      lookupsOf find config request w = w.lookups := by
  have hvalues (u : Text) := (hdirectory u).ofReadable
  have hlookups := lookupsOf_of_course hvalues (.missing known absent) w
  rw [List.append_nil] at hlookups
  exact ⟨resultOf_of_course hvalues (.missing known absent) w, hlookups⟩

theorem lookupsOf_of_submits (known : Scheme.ofText? config.passwordScheme = some s)
    (submits : Submits config request username password) (w : LoginWorld) :
    lookupsOf find config request w = w.lookups ++ [username] := by
  have hvalues (u : Text) := (hdirectory u).ofReadable
  obtain ⟨asked, result, hcourse⟩ := exists_course hvalues request
  rw [lookupsOf_of_course hvalues hcourse w, asked_of_submits known submits hcourse]

/-- Nothing but a payload without a UTF-8 form keeps a login from being decided. -/
theorem decided_of_writable (known : Scheme.ofText? config.passwordScheme = some s)
    (hpassword : ∀ password,
      request.get config.passwordParam = some password → Utf8.encodable password = true)
    (hwritable : ¬ Unwritable find config request s) (w : LoginWorld) :
    Decided find config request s w := by
  have halike (username password : Text) (submits : Submits config request username password)
      (hnone : ¬ ∃ username fields, Grants find config request s username fields) :
      resultOf find config request w = .error (.auth (.invalidCredentials .mismatch)) :=
    result_of_not_grants hdirectory known (hpassword _ submits.password_eq) submits hwritable hnone w
  have hrefused (hnone : ¬ ∃ username fields, Grants find config request s username fields) :
      ∃ problem, resultOf find config request w = .error (.auth (.invalidCredentials problem)) := by
    by_cases hsubmits : ∃ username password, Submits config request username password
    · obtain ⟨username, password, submits⟩ := hsubmits
      exact ⟨.mismatch, halike username password submits hnone⟩
    · refine ⟨.missing, (course_of_not_submits hdirectory known ?_ w).1⟩
      exact fun username password submits => hsubmits ⟨username, password, submits⟩
  constructor
  case granted_iff =>
    constructor
    · rintro ⟨u, hu⟩
      by_contra hnone
      obtain ⟨problem, hresult⟩ := hrefused hnone
      rw [hu] at hresult
      cases hresult
    · rintro ⟨username, fields, hgrants⟩
      exact ⟨_, result_of_grants hdirectory hgrants w⟩
  case user_eq => exact fun username fields hgrants => result_of_grants hdirectory hgrants w
  case refused => exact hrefused
  case alike => exact halike
  case asked_once =>
    exact fun username password submits => lookupsOf_of_submits hdirectory known submits w
  case not_asked => exact fun absent => (course_of_not_submits hdirectory known absent w).2

end results

/-- A login that ends in a fault is not decided. -/
theorem not_decided_of_fault {find : Lookup} {config : DirectoryConfig} {request : Request}
    {s : Scheme} {w : LoginWorld} {fault : Fault}
    (h : resultOf find config request w = .error (.fault fault)) :
    ¬ Decided find config request s w := by
  intro hdecided
  by_cases hgrants : ∃ username fields, Grants find config request s username fields
  · obtain ⟨u, hu⟩ := hdecided.granted_iff.2 hgrants
    rw [h] at hu
    cases hu
  · obtain ⟨problem, hproblem⟩ := hdecided.refused hgrants
    rw [h] at hproblem
    cases hproblem

/-- A login against a directory whose values can be told is decided by the stored password, unless it
gets to one whose payload has no UTF-8 form under a scheme without a salt: then it ends in a fault.
In particular it is decided wherever the stored passwords have UTF-8 forms. -/
theorem login_decided_iff {find : Lookup} {config : DirectoryConfig} {s : Scheme}
    (known : Scheme.ofText? config.passwordScheme = some s)
    (hdirectory : ∀ username, IsEntry IsReadable (find config username)) {request : Request}
    (hpassword : ∀ password,
      request.get config.passwordParam = some password → Utf8.encodable password = true)
    (w : LoginWorld) :
    (Decided find config request s w ↔ ¬ Unwritable find config request s) ∧
    (Unwritable find config request s →
      resultOf find config request w = .error (.fault .unencodable)) ∧
    ((∀ username fields stored, find config username = .record fields →
        storedPassword? config fields = some stored → Utf8.encodable stored = true) →
      Decided find config request s w) := by
  have hfault (hunwritable : Unwritable find config request s) :
      resultOf find config request w = .error (.fault .unencodable) :=
    result_of_unwritable hdirectory hpassword hunwritable w
  have hdecided (hwritable : ¬ Unwritable find config request s) :
      Decided find config request s w :=
    decided_of_writable hdirectory known hpassword hwritable w
  refine ⟨⟨fun h hunwritable => not_decided_of_fault (hfault hunwritable) h, hdecided⟩, hfault, ?_⟩
  intro hencodable
  apply hdecided
  rintro ⟨-, username, password, fields, stored, payload, reaches, found, hpayload, hnone⟩
  rw [encodable_payload hpayload (hencodable username fields stored reaches.entry_eq found)] at hnone
  cases hnone

theorem encodable_annRequest (password : Text)
    (h : annRequest.get clearConfig.passwordParam = some password) :
    Utf8.encodable password = true := by
  rw [submits_annRequest.password_eq] at h
  cases h
  decide

/-- An entry whose id is octets and whose password has a second value. -/
def listedFields : Record :=
  [("uid", .list [.octets [117, 49]]),
    ("userPassword", .list [.text "\x7bk5Key\x7dpw", .octets []])]

/-- Ann signs in by the first values of her entry. -/
theorem listedFields_decided :
    Decided (directoryOf listedFields) clearConfig annRequest .k5key LoginWorld.start ∧
      resultOf (directoryOf listedFields) clearConfig annRequest LoginWorld.start =
        .ok (.user ⟨"ldap", "u1", [("uid", .list [.octets [117, 49]])], none⟩) := by
  have hid : Utf8.decode? [117, 49] = some "u1" := by decide +kernel
  have hempty : Utf8.decode? [] = some [] := by decide +kernel
  have hattributes : ∀ f ∈ listedFields, IsAttribute IsReadable f.2 := by
    simp only [listedFields, List.forall_mem_cons]
    refine ⟨.several ?_, .several ?_, by simp⟩
    · simpa using .octets hid
    · simpa using ⟨.text _, .octets hempty⟩
  have hstored (username : Text) (fields : Record) (stored : Text)
      (hentry : directoryOf listedFields clearConfig username = .record fields)
      (hfound : storedPassword? clearConfig fields = some stored) :
      Utf8.encodable stored = true := by
    obtain rfl := fields_of_directoryOf hentry
    cases hfound
    decide
  have hdecided := (login_decided_iff ofText?_clearConfig
    (isEntry_directoryOf hattributes clearConfig) encodable_annRequest LoginWorld.start).2.2 hstored
  have hgrants : Grants (directoryOf listedFields) clearConfig annRequest .k5key "ann" listedFields :=
    ⟨"pw", reaches_directoryOf (by decide), rfl⟩
  have hexternal : externalIdOf clearConfig "ann" listedFields = "u1" := by decide +kernel
  have hresult := hdecided.user_eq "ann" listedFields hgrants
  rw [identity, hexternal] at hresult
  exact ⟨hdecided, hresult⟩

/-- An entry whose password has the tag, and behind it no UTF-8 form. -/
def unwritableFields : Record :=
  [("userPassword", .text (Text.ofString "\x7bK5KEY\x7d" ++ [⟨0xDCFF, by decide⟩]))]

/-- Ann is neither signed in nor refused, though the values of her entry are texts and her parameters
have UTF-8 forms. -/
theorem unwritableFields_not_decided :
    (∀ username, IsEntry IsReadable (directoryOf unwritableFields clearConfig username)) ∧
      (∀ p ∈ annRequest.params, Utf8.encodable p.2 = true) ∧
      ¬ Decided (directoryOf unwritableFields) clearConfig annRequest .k5key LoginWorld.start := by
  have hattributes : ∀ f ∈ unwritableFields, IsAttribute IsReadable f.2 := by
    simpa [unwritableFields] using .single (.text _)
  have hunwritable : Unwritable (directoryOf unwritableFields) clearConfig annRequest .k5key := by
    refine ⟨by decide, "ann", "pw", unwritableFields, _, [⟨0xDCFF, by decide⟩], ?_, rfl, ?_, ?_⟩
    · exact reaches_directoryOf (by decide)
    · decide
    · decide
  have hentries := isEntry_directoryOf hattributes clearConfig
  refine ⟨hentries, by decide, ?_⟩
  exact not_decided_of_fault
    (result_of_unwritable hentries encodable_annRequest hunwritable LoginWorld.start)

end Directory

end SignIn
