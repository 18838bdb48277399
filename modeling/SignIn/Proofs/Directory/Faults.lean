import SignIn.Proofs.Directory.Course

/-!
# Logins that end in a fault

A login against a directory is meant to end with a user or an error of the library, whatever the
directory holds and whatever is submitted. It ends in a fault exactly where a text is needed and
there is none: the stored password or the id is octets that are no text, or a check has to compare
texts of which one has no UTF-8 form.
-/

namespace SignIn

namespace Directory

/-- A login ends with a user, a problem of the configuration or invalid credentials. -/
def EndsProperly (result : Except Failure Outcome) : Prop :=
  (∃ u, result = .ok (.user u)) ∨ (∃ problem, result = .error (.auth (.invalidConfig problem))) ∨
    ∃ problem, result = .error (.auth (.invalidCredentials problem))

/-- A login that ends in a fault. -/
inductive Hazard (find : Lookup) (config : DirectoryConfig) (request : Request) : Prop
  /-- The stored password is octets that are no text. -/
  | password {s : Scheme} {username password : Text} {fields : Record}
    (reaches : Reaches find config request s username password fields)
    (garbled : IsGarbled (valuesOf fields config.passwordAttribute))
  /-- The password and the stored one cannot be compared. -/
  | check {s : Scheme} {username password stored : Text} {fields : Record}
    (reaches : Reaches find config request s username password fields)
    (found : storedPassword? config fields = some stored)
    (stumbles : s.matcher.Stumbles password stored)
  /-- The password is accepted, and the id is octets that are no text. -/
  | id {s : Scheme} {username password : Text} {fields : Record}
    (reaches : Reaches find config request s username password fields)
    (accepted : Accepts s config password fields)
    (garbled : IsGarbled (valuesOf fields config.idAttribute))

section hazards

variable {find : Lookup} {config : DirectoryConfig} {request : Request} {s : Scheme}
  {username password : Text} {fields : Record}

theorem not_endsProperly_fault (fault : Fault) : ¬ EndsProperly (.error (.fault fault)) := by
  rintro (⟨u, h⟩ | ⟨problem, h⟩ | ⟨problem, h⟩) <;> cases h

/-- A login that meets a hazard gets as far as an entry. -/
theorem Hazard.exists_reaches (h : Hazard find config request) :
    ∃ s username password fields, Reaches find config request s username password fields := by
  cases h with
  | password reaches garbled => exact ⟨_, _, _, _, reaches⟩
  | check reaches found stumbles => exact ⟨_, _, _, _, reaches⟩
  | id reaches accepted garbled => exact ⟨_, _, _, _, reaches⟩

/-- The hazards of a login are those of the entry that it gets to. -/
theorem hazard_iff (reaches : Reaches find config request s username password fields) :
    Hazard find config request ↔
      IsGarbled (valuesOf fields config.passwordAttribute) ∨
      (∃ stored, storedPassword? config fields = some stored ∧
        s.matcher.Stumbles password stored) ∨
      Accepts s config password fields ∧ IsGarbled (valuesOf fields config.idAttribute) := by
  constructor
  · intro h
    cases h with
    | password reaches' garbled =>
      obtain ⟨rfl, rfl, rfl, rfl⟩ := reaches.unique reaches'
      exact .inl garbled
    | check reaches' found stumbles =>
      obtain ⟨rfl, rfl, rfl, rfl⟩ := reaches.unique reaches'
      exact .inr (.inl ⟨_, found, stumbles⟩)
    | id reaches' accepted garbled =>
      obtain ⟨rfl, rfl, rfl, rfl⟩ := reaches.unique reaches'
      exact .inr (.inr ⟨accepted, garbled⟩)
  · rintro (garbled | ⟨stored, found, stumbles⟩ | ⟨accepted, garbled⟩)
    · exact .password reaches garbled
    · exact .check reaches found stumbles
    · exact .id reaches accepted garbled

/-- A check that has an answer does not stumble. -/
theorem not_stumbles_of_answer (reaches : Reaches find config request s username password fields)
    {answer : Bool} (h : s.matcher.accepts (.text password)
      (Datum.ofText? (storedPassword? config fields)) = .ok answer) :
    ¬ ∃ stored, storedPassword? config fields = some stored ∧
      s.matcher.Stumbles password stored := by
  rintro ⟨stored, found, stumbles⟩
  have hblank := Request.isBlank_of_get reaches.submits.password_eq
  rw [found, Datum.ofText?, Scheme.accepts_of_stumbles hblank stumbles] at h
  cases h

/-- The result of a login tells whether it met a hazard. -/
theorem hazard_iff_of_course {asked : List Text} {result : Except Failure User}
    (h : Course find config request asked result) :
    (Hazard find config request →
      result = .error (.fault .undecodable) ∨ result = .error (.fault .unencodable)) ∧
    (¬ Hazard find config request → EndsProperly (result.map .user)) := by
  cases h with
  | unknownScheme unknown =>
    refine ⟨fun hhazard => ?_, fun _ => .inr (.inl ⟨_, rfl⟩)⟩
    obtain ⟨s, _, _, _, reaches⟩ := hhazard.exists_reaches
    rw [reaches.scheme_eq] at unknown
    cases unknown
  | missing known absent =>
    refine ⟨fun hhazard => ?_, fun _ => .inr (.inr ⟨_, rfl⟩)⟩
    obtain ⟨_, username, password, _, reaches⟩ := hhazard.exists_reaches
    exact absurd reaches.submits (absent username password)
  | unknown known submits absent =>
    refine ⟨fun hhazard => ?_, fun _ => .inr (.inr ⟨_, rfl⟩)⟩
    obtain ⟨_, _, _, fields, reaches⟩ := hhazard.exists_reaches
    obtain ⟨rfl, -⟩ := submits.unique reaches.submits
    rw [reaches.entry_eq] at absent
    exact absurd (by simpa [Datum.truthy] using absent) reaches.ne_nil
  | garbledPassword reaches garbled =>
    exact ⟨fun _ => .inl rfl, fun hsafe => absurd (.password reaches garbled) hsafe⟩
  | stumbling reaches told found stumbles =>
    exact ⟨fun _ => .inr rfl, fun hsafe => absurd (.check reaches found stumbles) hsafe⟩
  | wrong reaches told refused =>
    refine ⟨fun hhazard => ?_, fun _ => .inr (.inr ⟨_, rfl⟩)⟩
    rcases (hazard_iff reaches).1 hhazard with garbled | stumbles | ⟨accepted, -⟩
    · exact absurd garbled told
    · exact absurd stumbles (not_stumbles_of_answer reaches refused)
    · rw [Accepts, refused] at accepted
      cases accepted
  | garbledId reaches told accepted garbled =>
    exact ⟨fun _ => .inl rfl, fun hsafe => absurd (.id reaches accepted garbled) hsafe⟩
  | granted reaches told accepted told' =>
    refine ⟨fun hhazard => ?_, fun _ => .inl ⟨_, rfl⟩⟩
    rcases (hazard_iff reaches).1 hhazard with garbled | stumbles | ⟨-, garbled⟩
    · exact absurd garbled told
    · exact absurd stumbles (not_stumbles_of_answer reaches accepted)
    · exact absurd garbled told'

end hazards

/-- A login against a directory ends with a user or an error of the library if and only if it meets
no hazard, whatever texts are submitted and whatever values the entry holds. With a hazard it ends in
a fault of the text encoding. -/
theorem login_typed_iff {find : Lookup} {config : DirectoryConfig}
    (hdirectory : ∀ username, IsEntry IsValue (find config username)) (request : Request)
    (w : LoginWorld) :
    (EndsProperly (resultOf find config request w) ↔ ¬ Hazard find config request) ∧
    (Hazard find config request →
      resultOf find config request w = .error (.fault .undecodable) ∨
        resultOf find config request w = .error (.fault .unencodable)) := by
  obtain ⟨asked, result, hcourse⟩ := exists_course hdirectory request
  obtain ⟨hfaulty, hsafe⟩ := hazard_iff_of_course hcourse
  rw [resultOf_of_course hdirectory hcourse w]
  have hfault (hhazard : Hazard find config request) :
      result.map Outcome.user = .error (.fault .undecodable) ∨
        result.map Outcome.user = .error (.fault .unencodable) :=
    (hfaulty hhazard).imp (fun h => by rw [h]; rfl) fun h => by rw [h]; rfl
  refine ⟨⟨fun hproper hhazard => ?_, hsafe⟩, hfault⟩
  rcases hfault hhazard with h | h
  · exact not_endsProperly_fault _ (h ▸ hproper)
  · exact not_endsProperly_fault _ (h ▸ hproper)

/-- An entry that has octets that are no text where no text is needed. -/
def pictureFields : Record :=
  [("jpegPhoto", .octets [0xFF]), ("userPassword", .list [.text "\x7bK5KEY\x7dpw", .octets [0xFF]])]

/-- The picture of Ann does not keep her from signing in. -/
theorem pictureFields_endsProperly :
    EndsProperly (resultOf (directoryOf pictureFields) clearConfig annRequest LoginWorld.start) := by
  have hattributes : ∀ f ∈ pictureFields, IsAttribute IsValue f.2 := by
    simp only [pictureFields, List.forall_mem_cons]
    refine ⟨.single (.octets _), .several ?_, by simp⟩
    simpa using ⟨.text _, .octets _⟩
  have reaches : Reaches (directoryOf pictureFields) clearConfig annRequest .k5key "ann" "pw"
      pictureFields := reaches_directoryOf (by decide)
  have hsafe : ¬ Hazard (directoryOf pictureFields) clearConfig annRequest := by
    rw [hazard_iff reaches]
    rintro (⟨o, hpassword, -⟩ | hstumbles | ⟨-, o, hid, -⟩)
    · cases hpassword
    · have haccepts : Accepts .k5key clearConfig "pw" pictureFields := rfl
      exact not_stumbles_of_answer reaches haccepts hstumbles
    · cases hid
  exact (login_typed_iff (isEntry_directoryOf hattributes clearConfig) annRequest
    LoginWorld.start).1.2 hsafe

/-- An entry whose password is octets that are no text. -/
def garbledFields : Record := [("userPassword", .octets [0xFF])]

/-- Ann is neither signed in nor refused. -/
theorem garbledFields_not_endsProperly :
    (∀ username, IsEntry IsValue (directoryOf garbledFields clearConfig username)) ∧
      ¬ EndsProperly
        (resultOf (directoryOf garbledFields) clearConfig annRequest LoginWorld.start) := by
  have hattributes : ∀ f ∈ garbledFields, IsAttribute IsValue f.2 := by
    simpa [garbledFields] using .single (.octets _)
  have hgarbled : IsGarbled (valuesOf garbledFields clearConfig.passwordAttribute) :=
    ⟨[0xFF], rfl, by decide +kernel⟩
  have reaches : Reaches (directoryOf garbledFields) clearConfig annRequest .k5key "ann" "pw"
      garbledFields := reaches_directoryOf (by decide)
  have hentries := isEntry_directoryOf hattributes clearConfig
  refine ⟨hentries, ?_⟩
  rw [resultOf_of_course hentries (.garbledPassword reaches hgarbled) LoginWorld.start]
  exact not_endsProperly_fault .undecodable

end Directory

end SignIn
