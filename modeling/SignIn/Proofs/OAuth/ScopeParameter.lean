import SignIn.Proofs.Config.Scopes
import SignIn.Proofs.OAuth.CallbackAddress
import SignIn.Proofs.OAuth.MandatoryFields
import SignIn.Proofs.OAuth.TokenForm

/-!
# How scopes are sent

The authorization address and the form of a grant without redirect both name the scopes of the
configuration in one parameter, joined by spaces, and leave the parameter out where there are none.
The address escapes a space as `%20` and the form as `+`; decoding and cutting at spaces gives the
same scopes back from both.
-/

namespace SignIn

theorem Text.joinWith_eq_intercalate (separator : Text) (parts : List Text) :
    joinWith separator parts = separator.intercalate parts := by
  induction parts with
  | nil => rfl
  | cons p rest ih =>
    cases rest with
    | nil => simp [joinWith]
    | cons q rest =>
      rw [joinWith_cons separator p (List.cons_ne_nil q rest), ih,
        List.intercalate_cons_cons, List.append_assoc]

namespace OAuth

/-! ## The parameter -/

/-- Fields tell scopes: they have a scope parameter, and only one, unless there are no scopes, and
cutting its value at every space gives the scopes, unless one of them holds a space itself. -/
structure TellsScopes (scopes : List Text) (fields : Fields) : Prop where
  omitted_iff : Form.valuesOf "scope" fields = [] ↔ scopes = []
  value_eq : scopes ≠ [] → ∃ value, Form.valuesOf "scope" fields = [value] ∧
    ((∀ s ∈ scopes, CodePoint.ofChar ' ' ∉ s) → value.splitOn (CodePoint.ofChar ' ') = scopes)

theorem splitOn_scopeText {scopes : List Text} (hscopes : scopes ≠ [])
    (h : ∀ s ∈ scopes, CodePoint.ofChar ' ' ∉ s) :
    (scopeText scopes).splitOn (CodePoint.ofChar ' ') = scopes := by
  have hjoined : scopeText scopes = [CodePoint.ofChar ' '].intercalate scopes :=
    Text.joinWith_eq_intercalate _ scopes
  rw [hjoined]
  exact List.splitOn_intercalate _ h hscopes

theorem tellsScopes_of_values {scopes : List Text} {fields : Fields}
    (h : Form.valuesOf "scope" fields =
      (if scopes = [] then none else some (scopeText scopes)).toList) :
    TellsScopes scopes fields := by
  by_cases hscopes : scopes = []
  · rw [if_pos hscopes] at h
    exact ⟨iff_of_true h hscopes, fun hne => absurd hscopes hne⟩
  · rw [if_neg hscopes] at h
    have hvalue : Form.valuesOf "scope" fields = [scopeText scopes] := h
    exact ⟨by simp [hvalue, hscopes], fun hne => ⟨_, hvalue, splitOn_scopeText hne⟩⟩

/-- The parameters of an authorization address tell the scopes. -/
theorem tellsScopes_authorizationParameters (c : OAuthConfig) (state : Text)
    (challenge : Option PkceChallenge) :
    TellsScopes c.scopes (authorizationParameters c state challenge) :=
  tellsScopes_of_values
    (valuesOf_authorizationParameters c state challenge "scope" _ (by simp [parameterTable]))

/-! ## Forms of grants without redirect -/

/-- Whether a grant gets along without sending the user to the provider. -/
def IsDirect (grant : GrantType) : Prop := grant = .password ∨ grant = .clientCredentials

theorem usesRedirect_of_isDirect {c : OAuthConfig} (h : IsDirect c.grantType) :
    c.usesRedirect = false := by
  rcases h with h | h <;> rw [OAuthConfig.usesRedirect, h] <;> rfl

/-- A grant without redirect asks with the fields of the grant, if it asks at all. -/
theorem exists_grant_of_asks {c : OAuthConfig} {request : Request} {stored : Datum} {form : Record}
    (hgrant : IsDirect c.grantType) (h : tokenSource c request stored = .asks form) :
    ∃ fields, (TokenRequest.grant fields).NamesFit ∧
      form = tokenForm c ((TokenRequest.grant fields).draft c) := by
  rcases hgrant with hgrant | hgrant
  · simp only [tokenSource, hgrant, passwordSource] at h
    split at h
    · rename_i username password _ _
      have hnames : (TokenRequest.grant [("username", some username),
          ("password", some password)]).NamesFit :=
        ⟨(by decide : ["username", "password"].Nodup),
          (by decide : ∀ name ∈ ["username", "password"], name ∈ TokenRequest.grantNames)⟩
      exact ⟨_, hnames, (TokenSource.asks.inj h).symm⟩
    · cases h
  · simp only [tokenSource, hgrant] at h
    exact ⟨[], ⟨.nil, by simp⟩, (TokenSource.asks.inj h).symm⟩

/-- The form of a grant without redirect tells the scopes. -/
theorem tellsScopes_tokenForm {c : OAuthConfig} {fields : Form.Table}
    (hgrant : IsDirect c.grantType) (hnames : (TokenRequest.grant fields).NamesFit) :
    TellsScopes c.scopes
      (Form.ofRecord (tokenForm c ((TokenRequest.grant fields).draft c))) := by
  have hvalue : (if (c.grantType = .password ∨ c.grantType = .clientCredentials) ∧ c.scopes ≠ [] then
      some (scopeText c.scopes) else none) =
        if c.scopes = [] then none else some (scopeText c.scopes) := by
    by_cases hscopes : c.scopes = []
    · simp [hscopes]
    · rw [if_pos ⟨hgrant, hscopes⟩, if_neg hscopes]
  have hscope : ("scope", if c.scopes = [] then none else some (scopeText c.scopes)) ∈
      (TokenRequest.grant fields).table c := by
    rw [← hvalue]
    exact List.mem_append_left _ (List.mem_append_left _ (by simp [grantTable]))
  rw [TokenRequest.ofRecord_tokenForm hnames]
  exact tellsScopes_of_values
    ((Form.tells_present (TokenRequest.nodup_table hnames)).values_eq _ hscope)

section leg

variable {engine : Engine} {config : AnyConfig} {request : Request} {now : Instant}
  {cache after : MemoryCache} {replies : List Reply} {es : List Event}
  {result : Except Failure Outcome} {c : OAuthConfig}

/-- What a grant without redirect sends belongs to the course of a completing call. -/
theorem course_of_direct (h : Leg engine config request now cache replies es result after)
    (hconfig : config = .oauth c) (hdirect : c.usesRedirect = false) {r : WireRequest}
    (hsent : .sent r ∈ es) :
    ∃ found, Course engine.mapper c replies (tokenSource c request .null) es found := by
  cases h with
  | unopened failure hinitiating => cases hsent
  | unstored starts hset => cases List.mem_singleton.1 hsent
  | stored starts hset => cases List.mem_singleton.1 hsent
  | @returned d es found admitted completing redirects course =>
    obtain rfl : d = c := eq_of_checkAll admitted hconfig
    rw [hdirect] at redirects
    cases redirects
  | @direct d es found admitted completing hdirect course =>
    obtain rfl : d = c := eq_of_checkAll admitted hconfig
    exact ⟨found, course⟩

/-- What a grant without redirect posts tells the scopes. -/
theorem tellsScopes_of_leg (h : Leg engine config request now cache replies es result after)
    (hconfig : config = .oauth c) (hgrant : IsDirect c.grantType) {r : WireRequest}
    (hsent : .sent r ∈ es) (hpost : r.method = Text.ofString "POST") :
    ∃ fields, Form.decode? r.body = some fields ∧ TellsScopes c.scopes fields := by
  obtain ⟨found, course⟩ := course_of_direct h hconfig (usesRedirect_of_isDirect hgrant) hsent
  obtain ⟨call, hcall, hrequest⟩ := exists_call_of_sent course hsent
  generalize hsource : tokenSource c request .null = source at course
  cases source with
  | fails failure =>
    cases course
    cases hsent
  | carries token =>
    obtain ⟨himplicit, -⟩ := tokenSource_eq_carries hsource
    rcases hgrant with hgrant | hgrant <;> cases hgrant.symm.trans himplicit
  | asks form =>
    obtain ⟨fields, hnames, rfl⟩ := exists_grant_of_asks hgrant hsource
    exact ⟨_, decode?_body_of_tokenCall (request?_of_posted course hcall hrequest hpost),
      tellsScopes_tokenForm hgrant hnames⟩

end leg

/-! ## Calls of the engine -/

/-- Whatever an engine sends for a client tells the scopes of the client: the addresses that it
redirects to, and the forms that it posts for a grant without redirect. -/
structure SendsScopes (engine : Engine) (c : OAuthConfig) : Prop where
  address : ∀ request replies w url,
    ((Step.authenticate (.oauth c) request replies).run engine w).1 =
        .ok (.outcome (.redirect url)) →
      ∃ parameters, appended? c url = some parameters ∧ TellsScopes c.scopes parameters
  form : IsDirect c.grantType → ∀ request replies w,
    ∀ r ∈ requests ((Step.authenticate (.oauth c) request replies).run engine w).2.journal,
      r.method = Text.ofString "POST" →
        ∃ fields, Form.decode? r.body = some fields ∧ TellsScopes c.scopes fields

theorem sendsScopes (engine : Engine) (c : OAuthConfig) : SendsScopes engine c where
  address request replies w url hredirect := by
    obtain ⟨result, hresult, -, hleg⟩ := run_authenticate engine w (.oauth c) request replies
    obtain rfl := eq_of_map_outcome (hresult.symm.trans hredirect)
    obtain ⟨d, state, challenge, stored, hstarts, -, -, hurl⟩ := starts_of_redirect hleg
    obtain rfl : d = c := eq_of_checkAll hstarts.admitted rfl
    exact ⟨_, appended?_of_authorizationUrl hurl,
      tellsScopes_authorizationParameters d state challenge⟩
  form hgrant request replies w r hr hpost := by
    obtain ⟨result, -, -, hleg⟩ := run_authenticate engine w (.oauth c) request replies
    have hdeed : .sent r ∈ deeds
        ((Step.authenticate (.oauth c) request replies).run engine w).2.journal :=
      (mem_deeds rfl).2 (mem_requests.1 hr)
    exact tellsScopes_of_leg hleg rfl hgrant hdeed hpost

/-- Scopes are normalized when a configuration is read, and sent as they are then. A record that
makes a configuration makes one with any scopes in its place; they are normal for what was given,
giving them again makes the same configuration, and every engine sends them. -/
theorem normal_scopes_sent {input : Datum} {elements : List Text}
    (hinput : Scopes.Gives input elements) {fields : Record} {config : OAuthConfig}
    (hread : OAuthConfig.ofRecord fields = .ok config) :
    ∃ scopes, Scopes.IsNormal elements scopes ∧
      OAuthConfig.ofRecord (fields.put "scopes" input) = .ok { config with scopes := scopes } ∧
      OAuthConfig.ofRecord (fields.put "scopes" (.list (scopes.map .text))) =
        .ok { config with scopes := scopes } ∧
      ∀ engine, SendsScopes engine { config with scopes := scopes } := by
  have hnormal : Scopes.IsNormal elements (Scopes.normalize elements) :=
    Scopes.isNormal_normalize elements
  have hagain := Scopes.ofDatum_of_gives (.list (Scopes.normalize elements))
  rw [hnormal.normalize_eq] at hagain
  exact ⟨Scopes.normalize elements, hnormal,
    OAuthConfig.ofRecord_put hread (Scopes.ofDatum_of_gives hinput),
    OAuthConfig.ofRecord_put hread hagain, fun engine => sendsScopes engine _⟩

def credentialsRecord : Record :=
  [("platform", .text "acme"), ("client_id", .text "app"), ("token_url", .text "https://h/t"),
    ("userinfo_url", .text "https://u:p@h/i"), ("grant_type", .text "client_credentials")]

def scopedConfig : OAuthConfig := { credentialsConfig with scopes := ["read", "mail"] }

/-- A text of words with all kinds of white space, one of them twice, makes two scopes, and they are
read back from the form that goes out. -/
theorem scopedConfig_sends :
    OAuthConfig.ofRecord credentialsRecord = .ok credentialsConfig ∧
      OAuthConfig.ofRecord (credentialsRecord.put "scopes" (.text "\u3000read\u00a0 mail\tread\n")) =
        .ok scopedConfig ∧
      ∃ r ∈ requests ((Step.authenticate (.oauth scopedConfig) ⟨[], none⟩ []).run claimEngine
          freshWorld).2.journal,
        ∃ fields value, Form.decode? r.body = some fields ∧ Form.valuesOf "scope" fields = [value] ∧
          value.splitOn (CodePoint.ofChar ' ') = [Text.ofString "read", Text.ofString "mail"] := by
  have hread : OAuthConfig.ofRecord credentialsRecord = .ok credentialsConfig := rfl
  obtain ⟨scopes, -, hscopes, -, hsends⟩ :=
    normal_scopes_sent (.words "\u3000read\u00a0 mail\tread\n") hread
  have hscoped : OAuthConfig.ofRecord
      (credentialsRecord.put "scopes" (.text "\u3000read\u00a0 mail\tread\n")) =
        .ok scopedConfig := rfl
  have hsame : { credentialsConfig with scopes := scopes } = scopedConfig :=
    Except.ok.inj (hscopes.symm.trans hscoped)
  have hsent : postedForm "grant_type=client_credentials&scope=read+mail&client_id=app" ∈
      requests ((Step.authenticate (.oauth scopedConfig) ⟨[], none⟩ []).run claimEngine
        freshWorld).2.journal := List.mem_of_getElem? (i := 0) (by decide +kernel)
  rw [hsame] at hsends
  obtain ⟨fields, hdecode, htells⟩ :=
    (hsends claimEngine).form (.inr rfl) _ _ _ _ hsent (postedForm_method _)
  obtain ⟨value, hvalue, hsplit⟩ := htells.value_eq (by decide)
  exact ⟨hread, hscoped, _, hsent, fields, value, hdecode, hvalue, hsplit (by decide)⟩

end OAuth

end SignIn
