import SignIn.Proofs.Directory.Checks
import SignIn.Proofs.Directory.Entry
import SignIn.Proofs.Login

/-!
# Logins against a directory

A login that gets as far as an entry reads the stored password, checks the submitted one and then
reads the id. Each of these may end it: octets that are no text end it in a fault wherever they are
read, and so does a check without an answer. All other ends are a user or an error of the library.
-/

namespace SignIn

namespace Directory

/-- A request of a configuration carries a user name and a password. -/
abbrev Submits (config : DirectoryConfig) (request : Request) (username password : Text) : Prop :=
  request.Submits config.usernameParam config.passwordParam username password

/-- A login gets as far as the fields of an entry, with the scheme by which passwords are checked. -/
structure Reaches (find : Lookup) (config : DirectoryConfig) (request : Request) (s : Scheme)
    (username password : Text) (fields : Record) : Prop where
  scheme_eq : Scheme.ofText? config.passwordScheme = some s
  submits : Submits config request username password
  entry_eq : find config username = .record fields
  ne_nil : fields ≠ []

def storedPassword? (config : DirectoryConfig) (fields : Record) : Option Text :=
  firstText? (valuesOf fields config.passwordAttribute)

/-- A password is accepted against the stored password of an entry. -/
def Accepts (s : Scheme) (config : DirectoryConfig) (password : Text) (fields : Record) : Prop :=
  s.matcher.accepts (.text password) (Datum.ofText? (storedPassword? config fields)) = .ok true

/-- The name by which an entry is known outside: the value of the id, unless it is missing or
empty. -/
def externalIdOf (config : DirectoryConfig) (username : Text) (fields : Record) : Text :=
  match firstText? (valuesOf fields config.idAttribute) with
  | some id => if id = [] then username else id
  | none => username

/-- The user of an entry. All attributes are claims, the password apart. -/
def identity (config : DirectoryConfig) (username : Text) (fields : Record) : User :=
  ⟨config.platform, externalIdOf config username fields, fields.without config.passwordAttribute, none⟩

/-- The ways in which a login ends, with the users that are asked for. -/
inductive Course (find : Lookup) (config : DirectoryConfig) (request : Request) :
    List Text → Except Failure User → Prop
  /-- The scheme is unknown. -/
  | unknownScheme (unknown : Scheme.ofText? config.passwordScheme = none) :
    Course find config request []
      (.error (.auth (.invalidConfig (.unknownScheme (some config.passwordScheme) Scheme.names))))
  /-- The user name or the password is missing. -/
  | missing {s : Scheme} (known : Scheme.ofText? config.passwordScheme = some s)
    (absent : ∀ username password, ¬ Submits config request username password) :
    Course find config request [] (.error (.auth (.invalidCredentials .missing)))
  /-- There is no entry of the user name, or an empty one. -/
  | unknown {s : Scheme} {username password : Text}
    (known : Scheme.ofText? config.passwordScheme = some s)
    (submits : Submits config request username password)
    (absent : (find config username).truthy = false) :
    Course find config request [username] (.error (.auth (.invalidCredentials .mismatch)))
  /-- The stored password is octets that are no text. -/
  | garbledPassword {s : Scheme} {username password : Text} {fields : Record}
    (reaches : Reaches find config request s username password fields)
    (garbled : IsGarbled (valuesOf fields config.passwordAttribute)) :
    Course find config request [username] (.error (.fault .undecodable))
  /-- The check of the password has no answer. -/
  | stumbling {s : Scheme} {username password stored : Text} {fields : Record}
    (reaches : Reaches find config request s username password fields)
    (told : ¬ IsGarbled (valuesOf fields config.passwordAttribute))
    (found : storedPassword? config fields = some stored)
    (stumbles : s.matcher.Stumbles password stored) :
    Course find config request [username] (.error (.fault .unencodable))
  /-- The password is refused. -/
  | wrong {s : Scheme} {username password : Text} {fields : Record}
    (reaches : Reaches find config request s username password fields)
    (told : ¬ IsGarbled (valuesOf fields config.passwordAttribute))
    (refused : s.matcher.accepts (.text password)
      (Datum.ofText? (storedPassword? config fields)) = .ok false) :
    Course find config request [username] (.error (.auth (.invalidCredentials .mismatch)))
  /-- The password is accepted and the id is octets that are no text. -/
  | garbledId {s : Scheme} {username password : Text} {fields : Record}
    (reaches : Reaches find config request s username password fields)
    (told : ¬ IsGarbled (valuesOf fields config.passwordAttribute))
    (accepted : Accepts s config password fields)
    (garbled : IsGarbled (valuesOf fields config.idAttribute)) :
    Course find config request [username] (.error (.fault .undecodable))
  /-- The password is accepted. -/
  | granted {s : Scheme} {username password : Text} {fields : Record}
    (reaches : Reaches find config request s username password fields)
    (told : ¬ IsGarbled (valuesOf fields config.passwordAttribute))
    (accepted : Accepts s config password fields)
    (told' : ¬ IsGarbled (valuesOf fields config.idAttribute)) :
    Course find config request [username] (.ok (identity config username fields))

section courses

variable {find : Lookup} {config : DirectoryConfig} {request : Request} {s : Scheme}
  {username password : Text} {fields : Record}

/-! ## The way to an entry -/

theorem resolve_eq (known : Scheme.ofText? config.passwordScheme = some s) :
    Scheme.resolve (some config.passwordScheme) = .ok s := by
  rw [Scheme.resolve, Option.getD_some, known]

/-- What follows when the scheme is known and a user name and a password are submitted. -/
theorem comesTo_of_submits (known : Scheme.ofText? config.passwordScheme = some s)
    (submits : Submits config request username password) {asked : List Text}
    {result : Except Failure User}
    (hnext : (checkLogin find config s.matcher username password).ComesTo asked result) :
    (authenticateWith find config request).ComesTo asked result := by
  unfold authenticateWith
  rw [resolve_eq known]
  refine (LoginAction.ComesTo.ofAuth (.ok s)).step ((LoginAction.ComesTo.matcher s).step ?_)
  simp only [submits.username_eq, submits.password_eq]
  exact hnext

/-- What follows when there is an entry. -/
theorem comesTo_of_reaches (reaches : Reaches find config request s username password fields)
    {stored : Except Fault Datum}
    (hstored : firstValue (valuesOf fields config.passwordAttribute) = stored)
    {result : Except Failure User}
    (hnext : (do
        let stored ← LoginAction.ofFault stored
        if ← LoginAction.ofFault (s.matcher.accepts (.text password) stored) then
          userOf config username fields
        else
          LoginAction.log .warning .directoryLogin
            ["LDAP login failed: invalid password (", username, ")"]
          LoginAction.fail (.invalidCredentials .mismatch) : LoginAction User).ComesTo [] result) :
    (authenticateWith find config request).ComesTo [username] result := by
  subst hstored
  apply comesTo_of_submits reaches.scheme_eq reaches.submits
  have hlookup := LoginAction.ComesTo.lookup (find config) username
  have hfields : fieldsOf? (.record fields) = .ok (some fields) := by
    have htruthy : (Datum.record fields).truthy = true := by
      simpa [Datum.truthy] using reaches.ne_nil
    rw [fieldsOf?, htruthy]
    rfl
  rw [reaches.entry_eq] at hlookup
  have hentry := LoginAction.ComesTo.ofFault (fieldsOf? (.record fields))
  rw [hfields] at hentry
  refine hlookup.bind_quiet ?_
  rw [hfields]
  exact hentry.step hnext

/-! ## The ends -/

theorem externalId_eq (config : DirectoryConfig) (username : Text) (fields : Record) :
    (if (Datum.ofText? (firstText? (valuesOf fields config.idAttribute))).truthy = true then
      Datum.ofText? (firstText? (valuesOf fields config.idAttribute))
    else .text username) = .text (externalIdOf config username fields) := by
  unfold externalIdOf
  cases firstText? (valuesOf fields config.idAttribute) with
  | none => rfl
  | some id => cases id <;> rfl

theorem comesTo_userOf (username : Text)
    (hid : firstValue (valuesOf fields config.idAttribute) =
      .ok (Datum.ofText? (firstText? (valuesOf fields config.idAttribute)))) :
    (userOf config username fields).ComesTo [] (.ok (identity config username fields)) := by
  unfold userOf
  rw [hid]
  refine (LoginAction.ComesTo.ofFault (.ok _)).step ((LoginAction.ComesTo.log _ _ _).step ?_)
  rw [externalId_eq]
  exact .pure _

theorem comesTo_userOf_of_isGarbled (username : Text)
    (garbled : IsGarbled (valuesOf fields config.idAttribute)) :
    (userOf config username fields).ComesTo [] (.error (.fault .undecodable)) := by
  unfold userOf
  rw [firstValue_of_isGarbled garbled]
  exact (LoginAction.ComesTo.ofFault (.error _)).bind_error

/-- A login that reaches an entry ends in one of the ways from there. -/
theorem exists_course_of_reaches
    (reaches : Reaches find config request s username password fields) :
    ∃ asked result, Course find config request asked result := by
  by_cases hgarbled : IsGarbled (valuesOf fields config.passwordAttribute)
  · exact ⟨_, _, .garbledPassword reaches hgarbled⟩
  · have haccepted (accepted : Accepts s config password fields) :
        ∃ asked result, Course find config request asked result := by
      by_cases hid : IsGarbled (valuesOf fields config.idAttribute)
      · exact ⟨_, _, .garbledId reaches hgarbled accepted hid⟩
      · exact ⟨_, _, .granted reaches hgarbled accepted hid⟩
    have hanswer (answer : Bool) (h : s.matcher.accepts (.text password)
        (Datum.ofText? (storedPassword? config fields)) = .ok answer) :
        ∃ asked result, Course find config request asked result := by
      cases answer with
      | true => exact haccepted h
      | false => exact ⟨_, _, .wrong reaches hgarbled h⟩
    cases hstored : storedPassword? config fields with
    | none =>
      -- Without a stored password every scheme refuses, so no check can stumble.
      have hrefused := accepts_null s.matcher password
      exact hanswer false (by rw [hstored]; exact hrefused)
    | some stored =>
      by_cases hstumbles : s.matcher.Stumbles password stored
      · exact ⟨_, _, .stumbling reaches hgarbled hstored hstumbles⟩
      · obtain ⟨answer, h⟩ := Scheme.exists_accepts hstumbles
        exact hanswer answer (by rw [hstored]; exact h)

variable (hdirectory : ∀ username, IsEntry IsValue (find config username))
include hdirectory

/-- An attribute of the entry is told by its first value. -/
theorem firstValue_of_reaches (reaches : Reaches find config request s username password fields)
    {name : Text} (told : ¬ IsGarbled (valuesOf fields name)) :
    firstValue (valuesOf fields name) = .ok (Datum.ofText? (firstText? (valuesOf fields name))) := by
  have hentry := hdirectory username
  rw [reaches.entry_eq] at hentry
  cases hentry with
  | present attributes => exact firstValue_eq (first_valuesOf (fun _ h => h) attributes name) told

/-- A login that ends in some way comes to its result. -/
theorem comesTo_of_course {asked : List Text} {result : Except Failure User}
    (h : Course find config request asked result) :
    (authenticateWith find config request).ComesTo asked result := by
  cases h with
  | unknownScheme unknown =>
    unfold authenticateWith Scheme.resolve
    rw [Option.getD_some, unknown]
    exact (LoginAction.ComesTo.ofAuth (.error _)).bind_error
  | @missing s known absent =>
    unfold authenticateWith
    rw [resolve_eq known]
    refine (LoginAction.ComesTo.ofAuth (.ok s)).step ((LoginAction.ComesTo.matcher s).step ?_)
    split
    · rename_i username password husername hpassword
      exact absurd ⟨husername, hpassword⟩ (absent username password)
    · exact .fail _
  | @unknown s username password known submits absent =>
    apply comesTo_of_submits known submits
    have hfields : fieldsOf? (find config username) = .ok none := by
      unfold fieldsOf?
      rw [absent]
      rfl
    refine (LoginAction.ComesTo.lookup (find config) username).bind_quiet ?_
    rw [hfields]
    exact (LoginAction.ComesTo.ofFault (.ok none)).step ((LoginAction.ComesTo.log _ _ _).step (.fail _))
  | garbledPassword reaches garbled =>
    apply comesTo_of_reaches reaches (firstValue_of_isGarbled garbled)
    exact (LoginAction.ComesTo.ofFault (.error _)).bind_error
  | stumbling reaches told found stumbles =>
    have hstored := firstValue_of_reaches hdirectory reaches told
    have hblank := Request.isBlank_of_get reaches.submits.password_eq
    have hcheck := Scheme.accepts_of_stumbles hblank stumbles
    rw [← storedPassword?, found] at hstored
    apply comesTo_of_reaches reaches hstored
    refine (LoginAction.ComesTo.ofFault (.ok _)).step ?_
    rw [Datum.ofText?, hcheck]
    exact (LoginAction.ComesTo.ofFault (.error _)).bind_error
  | wrong reaches told refused =>
    apply comesTo_of_reaches reaches (firstValue_of_reaches hdirectory reaches told)
    refine (LoginAction.ComesTo.ofFault (.ok _)).step ?_
    rw [← storedPassword?, refused]
    exact (LoginAction.ComesTo.ofFault (.ok false)).step
      ((LoginAction.ComesTo.log _ _ _).step (.fail _))
  | garbledId reaches told accepted garbled =>
    apply comesTo_of_reaches reaches (firstValue_of_reaches hdirectory reaches told)
    refine (LoginAction.ComesTo.ofFault (.ok _)).step ?_
    rw [← storedPassword?, accepted]
    exact (LoginAction.ComesTo.ofFault (.ok true)).step (comesTo_userOf_of_isGarbled _ garbled)
  | granted reaches told accepted told' =>
    apply comesTo_of_reaches reaches (firstValue_of_reaches hdirectory reaches told)
    refine (LoginAction.ComesTo.ofFault (.ok _)).step ?_
    rw [← storedPassword?, accepted]
    exact (LoginAction.ComesTo.ofFault (.ok true)).step
      (comesTo_userOf _ (firstValue_of_reaches hdirectory reaches told'))

/-- Every login ends in one of the ways. -/
theorem exists_course (request : Request) :
    ∃ asked result, Course find config request asked result := by
  cases hknown : Scheme.ofText? config.passwordScheme with
  | none => exact ⟨_, _, .unknownScheme hknown⟩
  | some s =>
    by_cases hsubmits : ∃ username password, Submits config request username password
    · obtain ⟨username, password, submits⟩ := hsubmits
      have hentry := hdirectory username
      generalize hfound : find config username = entry at hentry
      cases hentry with
      | absent => exact ⟨_, _, .unknown hknown submits (by rw [hfound]; rfl)⟩
      | @present fields attributes =>
        by_cases hempty : fields = []
        · exact ⟨_, _, .unknown hknown submits (by rw [hfound, hempty]; rfl)⟩
        · exact exists_course_of_reaches ⟨hknown, submits, hfound, hempty⟩
    · exact ⟨_, _, .missing hknown fun username password submits =>
        hsubmits ⟨username, password, submits⟩⟩

end courses

/-! ## Results -/

/-- What a login against a directory comes to. -/
def resultOf (find : Lookup) (config : DirectoryConfig) (request : Request) (w : LoginWorld) :
    Except Failure Outcome :=
  ((authenticate find (.directory config) request).runIn w).1

/-- The names asked for up to the end of a login against a directory. -/
def lookupsOf (find : Lookup) (config : DirectoryConfig) (request : Request) (w : LoginWorld) :
    List Text :=
  ((authenticate find (.directory config) request).runIn w).2.lookups

section results

variable {find : Lookup} {config : DirectoryConfig} {request : Request} {asked : List Text}
  {result : Except Failure User}

theorem resultOf_of_course (hdirectory : ∀ username, IsEntry IsValue (find config username))
    (h : Course find config request asked result) (w : LoginWorld) :
    resultOf find config request w = result.map .user :=
  (comesTo_of_course hdirectory h).outcome.result_eq w

theorem lookupsOf_of_course (hdirectory : ∀ username, IsEntry IsValue (find config username))
    (h : Course find config request asked result) (w : LoginWorld) :
    lookupsOf find config request w = w.lookups ++ asked :=
  (comesTo_of_course hdirectory h).outcome.lookups_eq w

/-- A login gets as far as one entry at most. -/
theorem Reaches.unique {s s' : Scheme} {username username' password password' : Text}
    {fields fields' : Record} (h : Reaches find config request s username password fields)
    (h' : Reaches find config request s' username' password' fields') :
    s' = s ∧ username' = username ∧ password' = password ∧ fields' = fields := by
  obtain ⟨rfl, rfl⟩ := h.submits.unique h'.submits
  have hscheme := h'.scheme_eq.symm.trans h.scheme_eq
  have hentry := h'.entry_eq.symm.trans h.entry_eq
  exact ⟨Option.some.inj hscheme, rfl, rfl, Datum.record.inj hentry⟩

/-- The user whose name is submitted is asked for. -/
theorem asked_of_submits {s : Scheme} {username password : Text}
    (known : Scheme.ofText? config.passwordScheme = some s)
    (submits : Submits config request username password)
    (h : Course find config request asked result) : asked = [username] := by
  cases h with
  | unknownScheme unknown =>
    rw [known] at unknown
    cases unknown
  | missing known' absent => exact absurd submits (absent username password)
  | unknown known' submits' absent => rw [(submits.unique submits').1]
  | garbledPassword reaches garbled => rw [(submits.unique reaches.submits).1]
  | stumbling reaches told found stumbles => rw [(submits.unique reaches.submits).1]
  | wrong reaches told refused => rw [(submits.unique reaches.submits).1]
  | garbledId reaches told accepted garbled => rw [(submits.unique reaches.submits).1]
  | granted reaches told accepted told' => rw [(submits.unique reaches.submits).1]

end results

/-! ## A directory with one entry -/

/-- A directory with clear passwords. -/
def clearConfig : DirectoryConfig where
  platform := "ldap"
  url := none
  baseDn := none
  bindDn := none
  bindPassword := none
  passwordScheme := " \x7bk5key\x7d "
  idAttribute := "uid"
  passwordAttribute := "userPassword"
  usernameParam := "username"
  passwordParam := "password"

def annRequest : Request := ⟨[("username", "ann"), ("password", "pw")], none⟩

/-- A directory that knows Ann only. -/
def directoryOf (fields : Record) : Lookup := fun _ username =>
  if username = Text.ofString "ann" then .record fields else .null

theorem ofText?_clearConfig : Scheme.ofText? clearConfig.passwordScheme = some .k5key := by decide

theorem submits_annRequest : Submits clearConfig annRequest "ann" "pw" := ⟨by decide, by decide⟩

theorem reaches_directoryOf {fields : Record} (hfields : fields ≠ []) :
    Reaches (directoryOf fields) clearConfig annRequest .k5key "ann" "pw" fields where
  scheme_eq := ofText?_clearConfig
  submits := submits_annRequest
  entry_eq := if_pos rfl
  ne_nil := hfields

theorem isEntry_directoryOf {kind : Datum → Prop} {fields : Record}
    (h : ∀ f ∈ fields, IsAttribute kind f.2) (config : DirectoryConfig) (username : Text) :
    IsEntry kind (directoryOf fields config username) := by
  unfold directoryOf
  split
  · exact .present h
  · exact .absent

theorem fields_of_directoryOf {fields fields' : Record} {config : DirectoryConfig}
    {username : Text} (h : directoryOf fields config username = .record fields') :
    fields' = fields := by
  unfold directoryOf at h
  split at h
  · exact (Datum.record.inj h).symm
  · cases h

end Directory

end SignIn
