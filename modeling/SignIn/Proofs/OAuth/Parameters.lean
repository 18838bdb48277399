import SignIn.Proofs.Codec.Base64
import SignIn.Proofs.Codec.Fields
import SignIn.Proofs.OAuth.Course

/-!
# The parameters of the two legs

What the first leg appends to the authorization address can be read back from the address that it
returns, and the form by which the second leg asks for a token can be read back from the body that
goes out. Both give every name at most once.
-/

namespace SignIn

namespace Form

/-- The values that fields give for a name, in order. -/
def valuesOf (name : String) (fields : Fields) : List Text :=
  (fields.filter fun f => f.1 = Text.ofString name).map Prod.snd

@[simp] theorem valuesOf_nil (name : String) : valuesOf name [] = [] := rfl

theorem valuesOf_cons (name : String) (f : Text × Text) (fields : Fields) :
    valuesOf name (f :: fields) =
      if f.1 = Text.ofString name then f.2 :: valuesOf name fields else valuesOf name fields := by
  by_cases h : f.1 = Text.ofString name <;> simp [valuesOf, h]

theorem valuesOf_append (name : String) (first second : Fields) :
    valuesOf name (first ++ second) = valuesOf name first ++ valuesOf name second := by
  simp [valuesOf]

/-! ## Tables of fields -/

/-- Names with the values that fields shall give for them, where there are any. -/
abbrev Table := List (String × Option Text)

/-- The fields of the names that have a value, in order. -/
def present (table : Table) : Fields :=
  table.filterMap fun e => e.2.map fun value => (Text.ofString e.1, value)

theorem present_append (first second : Table) :
    present (first ++ second) = present first ++ present second := List.filterMap_append

theorem mem_present {table : Table} {f : Text × Text} :
    f ∈ present table ↔ ∃ name value, (name, some value) ∈ table ∧
      f = (Text.ofString name, value) := by
  simp only [present, List.mem_filterMap, Option.map_eq_some_iff, Prod.exists]
  constructor
  · rintro ⟨name, _, hmem, value, rfl, rfl⟩
    exact ⟨name, value, hmem, rfl⟩
  · rintro ⟨name, value, hmem, rfl⟩
    exact ⟨name, some value, hmem, value, rfl, rfl⟩

/-- A name that the table lacks has no value. -/
theorem valuesOf_present_of_notMem {name : String} {table : Table}
    (h : name ∉ table.map Prod.fst) : valuesOf name (present table) = [] := by
  have hne : ∀ f ∈ present table, f.1 ≠ Text.ofString name := by
    intro f hf hname
    obtain ⟨other, value, hmem, rfl⟩ := mem_present.1 hf
    exact h (Text.ofString_inj.1 hname ▸ List.mem_map_of_mem hmem)
  rw [valuesOf, List.filter_eq_nil_iff.2 fun f hf => by simpa using hne f hf, List.map_nil]

/-- Fields tell a table: they are its names that have a value, in order, no name stands in two of
them, and each name of the table is given its value or, where it has none, is left out. -/
structure Tells (table : Table) (fields : Fields) : Prop where
  fields_eq : fields = present table
  names_nodup : (fields.map Prod.fst).Nodup
  values_eq : ∀ e ∈ table, valuesOf e.1 fields = e.2.toList

/-- Names without a value drop out, and the others stay in order. -/
theorem names_present_sublist (table : Table) :
    ((present table).map Prod.fst).Sublist (table.map fun e => Text.ofString e.1) := by
  induction table with
  | nil => exact .slnil
  | cons e table ih =>
    obtain ⟨name, value⟩ := e
    cases value with
    | none => exact ih.cons _
    | some value => exact ih.cons_cons _

theorem nodup_names {table : Table} (h : (table.map Prod.fst).Nodup) :
    (table.map fun e => Text.ofString e.1).Nodup := by
  have hnames : (table.map Prod.fst).map Text.ofString = table.map fun e => Text.ofString e.1 :=
    List.map_map
  rw [← hnames]
  exact List.pairwise_map.2 (h.imp fun hne hsame => hne (Text.ofString_inj.1 hsame))

/-- The fields of a table whose names differ tell it. -/
theorem tells_present {table : Table} (h : (table.map Prod.fst).Nodup) :
    Tells table (present table) := by
  refine ⟨rfl, (names_present_sublist table).nodup (nodup_names h), ?_⟩
  induction table with
  | nil => simp
  | cons e table ih =>
    obtain ⟨name, value⟩ := e
    obtain ⟨hname, hrest⟩ := List.nodup_cons.1 h
    have hcons : present ((name, value) :: table) = present [(name, value)] ++ present table :=
      present_append [(name, value)] table
    have hown : valuesOf name (present [(name, value)]) = value.toList := by
      cases value <;> simp [present, valuesOf_cons]
    refine List.forall_mem_cons.2 ⟨?_, fun e he => ?_⟩
    · rw [hcons, valuesOf_append, hown, valuesOf_present_of_notMem hname, List.append_nil]
    · have hother : name ≠ e.1 := by
        rintro rfl
        exact hname (List.mem_map.2 ⟨e, he, rfl⟩)
      have hnone : valuesOf e.1 (present [(name, value)]) = [] :=
        valuesOf_present_of_notMem (by simpa using hother.symm)
      rw [hcons, valuesOf_append, hnone, List.nil_append, ih hrest e he]

/-- Names are strings, so the fields of a table have a UTF-8 form if and only if its values do. -/
theorem encodable_present_iff {table : Table} :
    (∀ f ∈ present table, Utf8.encodable f.1 = true ∧ Utf8.encodable f.2 = true) ↔
      ∀ e ∈ table, ∀ t ∈ e.2, Utf8.encodable t = true := by
  constructor
  · intro h e he t ht
    exact (h (Text.ofString e.1, t) (mem_present.2 ⟨e.1, t, ht ▸ he, rfl⟩)).2
  · intro h f hf
    obtain ⟨name, t, hmem, rfl⟩ := mem_present.1 hf
    exact ⟨Utf8.encodable_ofString name, h _ hmem t rfl⟩

end Form

namespace OAuth

/-! ## The parameters of an authorization address -/

/-- An authorization address is the configured one, the sign that continues it, and the parameters. -/
theorem authorizationUrl_eq_ok_iff {config : OAuthConfig} {state address url : Text}
    {challenge : Option PkceChallenge} (haddress : config.authorizationUrl = some address) :
    authorizationUrl config state challenge = .ok url ↔
      ∃ query, Form.query? (authorizationParameters config state challenge) = some query ∧
        url = address ++ parameterSeparator address :: query := by
  unfold authorizationUrl
  rw [haddress]
  cases Form.query? (authorizationParameters config state challenge) <;> simp [eq_comm]

/-- The parameters that an address has after the configured one and the sign that follows it. -/
def appended? (config : OAuthConfig) (url : Text) : Option Fields :=
  match config.authorizationUrl with
  | none => none
  | some address => Form.decodeQuery? (url.drop (address.length + 1))

/-- The parameters of an authorization address are read back from it. -/
theorem appended?_of_authorizationUrl {config : OAuthConfig} {state url : Text}
    {challenge : Option PkceChallenge} (h : authorizationUrl config state challenge = .ok url) :
    appended? config url = some (authorizationParameters config state challenge) := by
  cases haddress : config.authorizationUrl with
  | none =>
    rw [authorizationUrl, haddress] at h
    cases h
  | some address =>
    obtain ⟨query, hquery, rfl⟩ := (authorizationUrl_eq_ok_iff haddress).1 h
    simp [appended?, haddress, Form.decodeQuery?_of_query? hquery]

/-- The parameters of an authorization request with the values they shall have. A client without an
identifier gives it as the text of the missing value. -/
def parameterTable (config : OAuthConfig) (state : Text) (challenge : Option PkceChallenge) :
    Form.Table :=
  [("response_type", some config.responseType.name),
    ("client_id", some (config.clientId.getD "None")),
    ("redirect_uri", Text.present? config.callbackUrl),
    ("scope", if config.scopes = [] then none else some (scopeText config.scopes)),
    ("state", some state),
    ("code_challenge", challenge.map PkceChallenge.challenge),
    ("code_challenge_method", challenge.map fun c => Text.ofString c.method.name)]

section authorizationParameters

variable (config : OAuthConfig) (state : Text) (challenge : Option PkceChallenge)

theorem authorizationParameters_eq_present :
    authorizationParameters config state challenge =
      Form.present (parameterTable config state challenge) := by
  have hclient : (Datum.ofText? config.clientId).display = config.clientId.getD "None" := by
    cases config.clientId <;> rfl
  unfold authorizationParameters parameterTable Form.present
  rw [hclient]
  cases Text.present? config.callbackUrl <;> by_cases hscopes : config.scopes = [] <;>
    cases challenge <;> simp [hscopes]

theorem tells_authorizationParameters :
    Form.Tells (parameterTable config state challenge)
      (authorizationParameters config state challenge) := by
  have hnames : ((parameterTable config state challenge).map Prod.fst).Nodup := by
    simp [parameterTable]
  rw [authorizationParameters_eq_present]
  exact Form.tells_present hnames

/-- What the parameters give for a name of the table. -/
theorem valuesOf_authorizationParameters (name : String) (value : Option Text)
    (h : (name, value) ∈ parameterTable config state challenge) :
    Form.valuesOf name (authorizationParameters config state challenge) = value.toList :=
  (tells_authorizationParameters config state challenge).values_eq (name, value) h

theorem valuesOf_state_authorizationParameters :
    Form.valuesOf "state" (authorizationParameters config state challenge) = [state] :=
  valuesOf_authorizationParameters config state challenge "state" (some state)
    (by simp [parameterTable])

theorem valuesOf_challenge_authorizationParameters :
    Form.valuesOf "code_challenge" (authorizationParameters config state challenge) =
      challenge.toList.map PkceChallenge.challenge := by
  rw [← Option.toList_map]
  exact valuesOf_authorizationParameters config state challenge "code_challenge" _
    (by simp [parameterTable])

theorem valuesOf_method_authorizationParameters :
    Form.valuesOf "code_challenge_method" (authorizationParameters config state challenge) =
      challenge.toList.map fun c => Text.ofString c.method.name := by
  rw [← Option.toList_map]
  exact valuesOf_authorizationParameters config state challenge "code_challenge_method" _
    (by simp [parameterTable])

/-- The callback address is among the parameters unless it is blank. -/
theorem valuesOf_redirect_authorizationParameters :
    Form.valuesOf "redirect_uri" (authorizationParameters config state challenge) =
      (Text.present? config.callbackUrl).toList :=
  valuesOf_authorizationParameters config state challenge "redirect_uri" _
    (by simp [parameterTable])

end authorizationParameters

/-! ## The form of a token request -/

def optionalField (name : String) (value : Option Text) : Fields :=
  value.toList.map fun v => (Text.ofString name, v)

/-- The fields by which a token is requested for a code, in order. -/
def codeFields (config : OAuthConfig) (code : Text) (verifier : Option Text) : Fields :=
  let grant : Fields := [("grant_type", config.grantType.name)]
  let own : Fields := [("code", code)]
  grant ++ optionalField "redirect_uri" (nonEmpty? config.callbackUrl) ++ own ++
    optionalField "code_verifier" verifier ++ optionalField "client_id" config.clientId ++
    optionalField "client_secret" (nonEmpty? config.clientSecret)

section codeForm

variable {config : OAuthConfig} {code : Text} {verifier : Option Text}

theorem ofRecord_codeForm (hgrant : config.grantType = .authorizationCode) :
    Form.ofRecord (codeForm config code verifier) = codeFields config code verifier := by
  unfold codeForm exchangeForm tokenForm grantForm codeFields optionalField
  cases nonEmpty? config.callbackUrl <;> cases nonEmpty? config.clientSecret <;>
    cases config.clientId <;> cases verifier <;>
    simp +decide [hgrant, putAll, Record.put, filled, Form.ofRecord, Form.scalar, Datum.ofText?,
      Datum.display]

/-- The fields by which a token is requested for a code, with the values they shall have. -/
def codeTable (config : OAuthConfig) (code : Text) (verifier : Option Text) : Form.Table :=
  [("grant_type", some config.grantType.name), ("redirect_uri", nonEmpty? config.callbackUrl),
    ("code", some code), ("code_verifier", verifier), ("client_id", config.clientId),
    ("client_secret", nonEmpty? config.clientSecret)]

theorem codeFields_eq_present :
    codeFields config code verifier = Form.present (codeTable config code verifier) := by
  unfold codeFields codeTable optionalField Form.present
  cases nonEmpty? config.callbackUrl <;> cases nonEmpty? config.clientSecret <;>
    cases config.clientId <;> cases verifier <;> rfl

/-- What the fields give for a name of the table. -/
theorem valuesOf_codeFields (name : String) (value : Option Text)
    (h : (name, value) ∈ codeTable config code verifier) :
    Form.valuesOf name (codeFields config code verifier) = value.toList := by
  have hnames : ((codeTable config code verifier).map Prod.fst).Nodup := by simp [codeTable]
  rw [codeFields_eq_present]
  exact (Form.tells_present hnames).values_eq (name, value) h

theorem valuesOf_code_codeFields :
    Form.valuesOf "code" (codeFields config code verifier) = [code] :=
  valuesOf_codeFields "code" (some code) (by simp [codeTable])

theorem valuesOf_verifier_codeFields :
    Form.valuesOf "code_verifier" (codeFields config code verifier) = verifier.toList :=
  valuesOf_codeFields "code_verifier" verifier (by simp [codeTable])

/-- The callback address is among the fields unless it is empty. -/
theorem valuesOf_redirect_codeFields :
    Form.valuesOf "redirect_uri" (codeFields config code verifier) =
      (nonEmpty? config.callbackUrl).toList :=
  valuesOf_codeFields "redirect_uri" _ (by simp [codeTable])

/-- A configuration whose texts can be written into the form of a token request. -/
structure FormEncodable (config : OAuthConfig) : Prop where
  clientId : ∀ t, config.clientId = some t → Utf8.encodable t = true
  clientSecret : ∀ t, config.clientSecret = some t → Utf8.encodable t = true
  callbackUrl : ∀ t, config.callbackUrl = some t → Utf8.encodable t = true

theorem eq_of_nonEmpty? {value : Option Text} {t : Text} (h : nonEmpty? value = some t) :
    value = some t := by
  unfold nonEmpty? at h
  split at h
  · split at h
    · cases h
    · exact h
  · cases h

/-- The form by which a token is requested for a code can be written. -/
theorem exists_encode?_codeFields (hconfig : FormEncodable config)
    (hcode : Utf8.encodable code = true)
    (hverifier : ∀ v, verifier = some v → Utf8.encodable v = true) :
    ∃ body, Form.encode? (codeFields config code verifier) = some body := by
  rw [Form.exists_encode?_iff, codeFields_eq_present, Form.encodable_present_iff]
  simp only [codeTable, List.forall_mem_cons, Option.mem_def, Option.some.injEq, forall_eq',
    List.not_mem_nil, false_imp_iff, implies_true, and_true]
  exact ⟨Utf8.encodable_ofString _, fun t ht => hconfig.callbackUrl t (eq_of_nonEmpty? ht), hcode,
    hverifier, hconfig.clientId, fun t ht => hconfig.clientSecret t (eq_of_nonEmpty? ht)⟩

end codeForm

/-! ## Addresses that can be written -/

/-- A configuration whose texts can be written into an authorization address. -/
structure AddressEncodable (config : OAuthConfig) : Prop where
  clientId : ∀ t, config.clientId = some t → Utf8.encodable t = true
  callbackUrl : ∀ t, Text.present? config.callbackUrl = some t → Utf8.encodable t = true
  scopes : ∀ t ∈ config.scopes, Utf8.encodable t = true

/-- With a state and a challenge that can be written, an address can be written if and only if the
texts of the configuration can. -/
theorem exists_authorizationUrl_iff {config : OAuthConfig} {state : Text}
    {challenge : Option PkceChallenge} (haddress : config.authorizationUrl.isSome = true)
    (hstate : Utf8.encodable state = true)
    (hchallenge : ∀ c, challenge = some c → Utf8.encodable c.challenge = true) :
    (∃ url, authorizationUrl config state challenge = .ok url) ↔ AddressEncodable config := by
  have hquery : (∃ url, authorizationUrl config state challenge = .ok url) ↔
      ∃ query, Form.query? (authorizationParameters config state challenge) = some query := by
    obtain ⟨address, haddress⟩ := Option.isSome_iff_exists.1 haddress
    simp only [authorizationUrl_eq_ok_iff haddress]
    rw [exists_comm]
    simp
  have hclient : Utf8.encodable (config.clientId.getD "None") = true ↔
      ∀ t, config.clientId = some t → Utf8.encodable t = true := by
    cases config.clientId <;> simp [Utf8.encodable_ofString]
  have hscopes : (∀ t, (if config.scopes = [] then none else some (scopeText config.scopes)) =
      some t → Utf8.encodable t = true) ↔ ∀ t ∈ config.scopes, Utf8.encodable t = true := by
    have hjoin : Utf8.encodable (scopeText config.scopes) = true ↔
        ∀ t ∈ config.scopes, Utf8.encodable t = true := Utf8.encodable_joinWith (by decide)
    by_cases hempty : config.scopes = []
    · simp [hempty]
    · simp [hempty, hjoin]
  rw [hquery, Form.exists_query?_iff, authorizationParameters_eq_present,
    Form.encodable_present_iff]
  simp only [parameterTable, List.forall_mem_cons, Option.mem_def, Option.some.injEq, forall_eq',
    List.not_mem_nil, false_imp_iff, implies_true, and_true, hclient, hscopes, hstate]
  constructor
  · rintro ⟨-, hclientId, hcallback, hscopes, -⟩
    exact ⟨hclientId, hcallback, hscopes⟩
  · rintro ⟨hclientId, hcallback, hscopes⟩
    refine ⟨Utf8.encodable_ofString _, hclientId, hcallback, hscopes, trivial, ?_, ?_⟩
    · intro t ht
      obtain ⟨c, hc, rfl⟩ := Option.map_eq_some_iff.1 ht
      exact hchallenge c hc
    · intro t ht
      obtain ⟨c, -, rfl⟩ := Option.map_eq_some_iff.1 ht
      exact Utf8.encodable_ofString _

/-- The body of a token request gives back the fields of its form. -/
theorem decode?_body_of_tokenCall {url : Option Text} {form : Record} {request : WireRequest}
    (h : (tokenCall url form).request? = some request) :
    Form.decode? request.body = some (Form.ofRecord form) := by
  obtain ⟨address, method, parsed, fields, payload, hmade⟩ := WireRequest.made_of_request? h
  obtain rfl : .form form = payload := Except.ok.inj hmade.callPayload
  exact Form.decode?_of_encode? hmade.body

end OAuth

end SignIn
