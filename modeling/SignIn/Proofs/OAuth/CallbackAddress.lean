import SignIn.Proofs.OAuth.Binding

/-!
# The callback address on both legs

A provider compares the callback address of the token request with the one of the authorization
request. The first leg leaves the address out where it is blank, the second only where it is empty.
So the two agree, whatever happens between them, for every address but one of white space.
-/

namespace SignIn

namespace OAuth

/-- A value counts as present in both senses or in none, unless it is blank without being empty. -/
theorem present?_eq_nonEmpty?_iff {value : Option Text} :
    Text.present? value = nonEmpty? value ↔ ∀ t, value = some t → t.isBlank = true → t = [] := by
  cases value with
  | none => simp [Text.present?, nonEmpty?]
  | some t =>
    by_cases hempty : t = []
    · simp [Text.present?, nonEmpty?, hempty, Text.isBlank]
    · cases hblank : t.isBlank <;> simp [Text.present?, nonEmpty?, hempty, hblank]

/-- What the parameters of the first leg and the fields of the second tell of the callback
address. -/
structure TellsCallback (c : OAuthConfig) (parameters fields : Fields) : Prop where
  parameters_eq : Form.valuesOf "redirect_uri" parameters = (Text.present? c.callbackUrl).toList
  fields_eq : Form.valuesOf "redirect_uri" fields = (nonEmpty? c.callbackUrl).toList
  agree_iff : Form.valuesOf "redirect_uri" fields = Form.valuesOf "redirect_uri" parameters ↔
    ∀ t, c.callbackUrl = some t → t.isBlank = true → t = []

theorem tellsCallback (c : OAuthConfig) (state code : Text) (challenge : Option PkceChallenge)
    (verifier : Option Text) :
    TellsCallback c (authorizationParameters c state challenge) (codeFields c code verifier) := by
  have hparameters := valuesOf_redirect_authorizationParameters c state challenge
  have hfields : Form.valuesOf "redirect_uri" (codeFields c code verifier) =
      (nonEmpty? c.callbackUrl).toList := valuesOf_redirect_codeFields
  refine ⟨hparameters, hfields, ?_⟩
  have hlists : (nonEmpty? c.callbackUrl).toList = (Text.present? c.callbackUrl).toList ↔
      Text.present? c.callbackUrl = nonEmpty? c.callbackUrl := by
    cases nonEmpty? c.callbackUrl <;> cases Text.present? c.callbackUrl <;> simp [eq_comm]
  rw [hparameters, hfields, hlists]
  exact present?_eq_nonEmpty?_iff

/-- A login that has been started and a token request that is posted for the same configuration, in
whatever world, name the same callback address exactly if it is not blank or is empty. -/
theorem callback_address_agrees_iff {engine other : Engine} {c : OAuthConfig}
    {request callback : Request} {replies answers : List Reply} {w v : World} {url : Text}
    {r : WireRequest} (hgrant : c.grantType = .authorizationCode)
    (hredirect : ((Step.authenticate (.oauth c) request replies).run engine w).1 =
      .ok (.outcome (.redirect url)))
    (hsent : r ∈ requests ((Step.authenticate (.oauth c) callback answers).run other v).2.journal)
    (hpost : r.method = Text.ofString "POST") :
    ∃ parameters fields, appended? c url = some parameters ∧ Form.decode? r.body = some fields ∧
      TellsCallback c parameters fields := by
  obtain ⟨first, hfirst, -, hbegun⟩ := run_authenticate engine w (.oauth c) request replies
  obtain ⟨second, -, -, hback⟩ := run_authenticate other v (.oauth c) callback answers
  obtain rfl := eq_of_map_outcome (hfirst.symm.trans hredirect)
  obtain ⟨d, state, challenge, stored, hstarts, -, -, hurl⟩ := starts_of_redirect hbegun
  obtain rfl : d = c := eq_of_checkAll hstarts.admitted rfl
  have hdeed : .sent r ∈ deeds
      ((Step.authenticate (.oauth d) callback answers).run other v).2.journal :=
    (mem_deeds rfl).2 (mem_requests.1 hsent)
  obtain ⟨pending, code, -, hfields⟩ := codeFields_of_leg hback rfl hgrant hdeed hpost
  exact ⟨_, _, appended?_of_authorizationUrl hurl, hfields, tellsCallback d state code challenge _⟩

def callbackConfig (address : Text) : OAuthConfig :=
  { codeConfig with enablePkce := false, callbackUrl := some address }

theorem callbackConfig_grant (address : Text) :
    (callbackConfig address).grantType = .authorizationCode := rfl

def callbackBegun (address : Text) : Step :=
  .authenticate (.oauth (callbackConfig address)) ⟨[], none⟩ []

def callbackBack (address : Text) : Step :=
  .authenticate (.oauth (callbackConfig address)) codeRequest []

def postedForm (body : Text) : WireRequest :=
  ⟨"POST", "https://h/t", some "application/x-www-form-urlencoded", none, body⟩

theorem postedForm_method (body : Text) : (postedForm body).method = Text.ofString "POST" := rfl

/-- Both legs of a client name its callback address. -/
theorem callbackConfig_agrees :
    let begun := (callbackBegun "https://app/").run claimEngine freshWorld
    ∃ url r parameters fields, begun.1 = .ok (.outcome (.redirect url)) ∧
      r ∈ requests ((callbackBack "https://app/").run claimEngine begun.2).2.journal ∧
      appended? (callbackConfig "https://app/") url = some parameters ∧
      Form.decode? r.body = some fields ∧
      Form.valuesOf "redirect_uri" parameters = [Text.ofString "https://app/"] ∧
      Form.valuesOf "redirect_uri" fields = [Text.ofString "https://app/"] := by
  intro begun
  have hbegun : redirect? begun.1 = some (Text.ofString
      "https://h/a?response_type=code&client_id=app&redirect_uri=https%3A%2F%2Fapp%2F&state=s1") := by
    decide +kernel
  have hsent : postedForm
      "grant_type=authorization_code&redirect_uri=https%3A%2F%2Fapp%2F&code=c0de&client_id=app" ∈
        requests ((callbackBack "https://app/").run claimEngine begun.2).2.journal :=
    List.mem_of_getElem? (i := 0) (by decide +kernel)
  have hredirect := eq_of_redirect? hbegun
  have hposted := hsent
  unfold callbackBack at hposted
  obtain ⟨parameters, fields, hparameters, hfields, htells⟩ :=
    callback_address_agrees_iff (callbackConfig_grant _) hredirect hposted (postedForm_method _)
  exact ⟨_, _, parameters, fields, hredirect, hsent, hparameters, hfields,
    htells.parameters_eq, htells.fields_eq⟩

/-- The legs of a client whose callback address is a space do not agree: the second names it, the
first does not. -/
theorem blankCallback_disagrees :
    ¬ ∀ (c : OAuthConfig) (w : World) (url : Text) (r : WireRequest),
      c.grantType = .authorizationCode →
      ((Step.authenticate (.oauth c) ⟨[], none⟩ []).run claimEngine w).1 =
        .ok (.outcome (.redirect url)) →
      r ∈ requests ((Step.authenticate (.oauth c) codeRequest []).run claimEngine
        ((Step.authenticate (.oauth c) ⟨[], none⟩ []).run claimEngine w).2).2.journal →
      r.method = Text.ofString "POST" →
      (Form.decode? r.body).map (Form.valuesOf "redirect_uri") =
        (appended? c url).map (Form.valuesOf "redirect_uri") := by
  intro h
  have hbegun : redirect? ((callbackBegun " ").run claimEngine freshWorld).1 =
      some (Text.ofString "https://h/a?response_type=code&client_id=app&state=s1") := by
    decide +kernel
  have hsent : postedForm
      "grant_type=authorization_code&redirect_uri=+&code=c0de&client_id=app" ∈
        requests ((callbackBack " ").run claimEngine
          ((callbackBegun " ").run claimEngine freshWorld).2).2.journal :=
    List.mem_of_getElem? (i := 0) (by decide +kernel)
  have hredirect := eq_of_redirect? hbegun
  unfold callbackBack callbackBegun at hsent
  have hagree := h (callbackConfig " ") freshWorld _ _ (callbackConfig_grant _) hredirect hsent
    (postedForm_method _)
  exact absurd hagree (by decide +kernel)

end OAuth

end SignIn
