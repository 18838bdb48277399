import SignIn.Proofs.OAuth.Completion
import SignIn.Proofs.OAuth.SingleUse
import SignIn.Proofs.OAuth.Verifier

/-!
# A challenge binds the two legs

A token request for a code carries the verifier of the challenge that was sent when the login was
begun, and no verifier if there was no challenge. The verifier travels through the cache, so it does
not matter with which configuration the callback is completed.
-/

namespace SignIn

namespace OAuth

/-- The fields of a token request fit the parameters of an authorization address: they have the
verifier of the challenge, or neither is there. -/
inductive Bound (parameters fields : Fields) : Prop
  | unchallenged (challenge_absent : Form.valuesOf "code_challenge" parameters = [])
    (verifier_absent : Form.valuesOf "code_verifier" fields = []) : Bound parameters fields
  | challenged {challenge verifier : Text} {method : ChallengeMethod}
    (challenge_eq : Form.valuesOf "code_challenge" parameters = [challenge])
    (method_eq : Form.valuesOf "code_challenge_method" parameters = [Text.ofString method.name])
    (verifier_eq : Form.valuesOf "code_verifier" fields = [verifier])
    (verifies : Pkce.verify verifier challenge method = .ok true)
    (isVerifier : Pkce.IsVerifier verifier) : Bound parameters fields

/-- In a history, challenges bind the two legs of sign-ins. -/
structure ChallengesBind (history : List CallRecord) : Prop where
  /-- A token request for a code comes back to exactly one login, and its fields fit the parameters
  that were sent when this login was begun. -/
  bound : ∀ j d config r, history[j]? = some d → d.config = .oauth config →
    config.grantType = .authorizationCode → .sent r ∈ d.journal → r.method = Text.ofString "POST" →
    ∃ i c first pending expiresAt fields,
      ComesBackTo history i j c d config pending expiresAt ∧
      (∀ other, Matches history other j → other = i) ∧
      c.config = .oauth first ∧ Form.decode? r.body = some fields ∧
      ∀ url, c.result = some (.ok (.outcome (.redirect url))) →
        ∃ parameters, appended? first url = some parameters ∧ Bound parameters fields
  /-- A login that asks for a token sends no challenge. -/
  unchallenged : ∀ c ∈ history, ∀ first url, c.config = .oauth first →
    first.responseType = .token → c.result = some (.ok (.outcome (.redirect url))) →
    ∃ parameters, appended? first url = some parameters ∧
      Form.valuesOf "code_challenge" parameters = []

/-! ## Token requests -/

section leg

variable {engine : Engine} {config : AnyConfig} {request : Request} {now : Instant}
  {cache after : MemoryCache} {replies : List Reply} {es : List Event}
  {result : Except Failure Outcome} {c : OAuthConfig}

theorem calls_of_course {mapper : Mapper} {form : Record} {found : Except Failure User}
    (h : Course mapper c replies (.asks form) es found) {call : Call} (hcall : call ∈ calls es) :
    call = tokenCall c.tokenUrl form ∨
      ∃ token : AccessToken, call = userInfoCall c.userInfoUrl token.accessToken := by
  cases h with
  | unobtained form failure =>
    rw [calls_deedsOf] at hcall
    exact .inl (List.mem_singleton.1 hcall)
  | @obtained form token es found grants identifies =>
    rw [calls_append, calls_deedsOf, calls_of_identifies identifies] at hcall
    rcases List.mem_cons.1 hcall with hcall | hcall
    · exact .inl hcall
    · exact .inr ⟨token, List.mem_singleton.1 hcall⟩

/-- A request goes out for a call. -/
theorem exists_call_of_sent {mapper : Mapper} {stored : Datum} {found : Except Failure User}
    (h : Course mapper c replies (tokenSource c request stored) es found) {r : WireRequest}
    (hsent : .sent r ∈ es) : ∃ call ∈ calls es, call.request? = some r := by
  obtain ⟨cs, ms, rfl, -⟩ := progress_of_course h
  have hr : r ∈ requests (deedsOfAll cs ms) := List.mem_filterMap.2 ⟨_, hsent, rfl⟩
  rw [requests_deedsOfAll] at hr
  rw [calls_deedsOfAll]
  exact List.mem_filterMap.1 hr

/-- What is posted in a course goes out for the form that it asks with. -/
theorem request?_of_posted {mapper : Mapper} {form : Record} {found : Except Failure User}
    (h : Course mapper c replies (.asks form) es found) {call : Call} (hcall : call ∈ calls es)
    {r : WireRequest} (hrequest : call.request? = some r)
    (hpost : r.method = Text.ofString "POST") :
    (tokenCall c.tokenUrl form).request? = some r := by
  rcases calls_of_course h hcall with rfl | ⟨token, rfl⟩
  · exact hrequest
  · rw [method_of_getsAsBearer (getsAsBearer_userInfoCall _ _) hrequest] at hpost
    exact absurd hpost (by decide)

/-- A request that a completing call posts for a code has the code and the verifier of the login that
was found right. -/
theorem codeFields_of_leg (h : Leg engine config request now cache replies es result after)
    (hconfig : config = .oauth c) (hgrant : c.grantType = .authorizationCode) {r : WireRequest}
    (hsent : .sent r ∈ es) (hpost : r.method = Text.ofString "POST") :
    ∃ pending code, stateCheck request (shown cache now c request) = .ok pending ∧
      Form.decode? r.body = some (codeFields c code pending.codeVerifier) := by
  have hredirects : c.usesRedirect = true := usesRedirect_of_code hgrant
  cases h with
  | unopened failure hinitiating => cases hsent
  | unstored starts hset => cases List.mem_singleton.1 hsent
  | stored starts hset => cases List.mem_singleton.1 hsent
  | @returned d es found admitted completing redirects course =>
    obtain rfl : d = c := eq_of_checkAll admitted hconfig
    have hsent : .sent r ∈ es := by
      rcases List.mem_cons.1 hsent with hsent | hsent
      · cases hsent
      · exact hsent
    obtain ⟨call, hcall, hrequest⟩ := exists_call_of_sent course hsent
    generalize hsource : tokenSource d request (shown cache now d request) = source at course
    cases source with
    | fails failure =>
      cases course
      cases hsent
    | carries token =>
      obtain ⟨himplicit, -⟩ := tokenSource_eq_carries hsource
      rw [hgrant] at himplicit
      cases himplicit
    | asks form =>
      obtain ⟨-, hform⟩ := tokenSource_eq_asks hsource
      obtain ⟨pending, code, hstate, -, rfl⟩ := hform hredirects
      refine ⟨pending, code, hstate, ?_⟩
      rw [decode?_body_of_tokenCall (request?_of_posted course hcall hrequest hpost),
        ofRecord_codeForm hgrant]
  | @direct d es found admitted completing hdirect course =>
    obtain rfl : d = c := eq_of_checkAll admitted hconfig
    rw [hdirect] at hredirects
    cases hredirects

end leg

/-! ## Parameters of started logins -/

/-- The parameters of a redirect and the login that the call has stored. -/
theorem parameters_of_redirect {engine : Engine} {c : CallRecord} {cache after : MemoryCache}
    {first : OAuthConfig} {url : Text} (hleg : c.IsLeg engine cache after)
    (hconfig : c.config = .oauth first)
    (hredirect : c.result = some (.ok (.outcome (.redirect url)))) :
    ∃ state challenge, IsNewChallenge first challenge ∧
      appended? first url = some (authorizationParameters first state challenge) ∧
      ∀ key pending expiresAt, c.Stores key pending expiresAt →
        pending.codeVerifier = challenge.map PkceChallenge.verifier := by
  cases hleg with
  | @ended replies result after leg hresult =>
    obtain rfl := eq_of_map_outcome (Option.some.inj (hresult.symm.trans hredirect))
    obtain ⟨d, state, challenge, stored, hstarts, hdeeds, -, hurl⟩ := starts_of_redirect leg
    obtain rfl : d = first := eq_of_checkAll hstarts.admitted hconfig
    refine ⟨state, challenge, hstarts.isNewChallenge, appended?_of_authorizationUrl hurl, ?_⟩
    rintro key pending expiresAt hstores
    obtain ⟨written, lifetime, hwritten, hset, -⟩ := hstores.stores
    have hstoring := (mem_deeds rfl).2 hset
    rw [hdeeds] at hstoring
    cases List.mem_singleton.1 hstoring
    rw [PendingLogin.toJson?_injective hwritten hstarts.toJson?]
    rfl
  | underway leg hjournal hresult =>
    rw [hresult] at hredirect
    cases hredirect

/-- A verifier that was stored for a challenge fits it. -/
theorem bound_of_isNewChallenge {first config : OAuthConfig} {state code : Text}
    {challenge : Option PkceChallenge} (h : IsNewChallenge first challenge) :
    Bound (authorizationParameters first state challenge)
      (codeFields config code (challenge.map PkceChallenge.verifier)) := by
  cases h with
  | none unused =>
    exact .unchallenged (valuesOf_challenge_authorizationParameters first state none)
      valuesOf_verifier_codeFields
  | @some octets challenge used size made =>
    exact .challenged (valuesOf_challenge_authorizationParameters first state _)
      (valuesOf_method_authorizationParameters first state _) valuesOf_verifier_codeFields
      (Pkce.verify_of_challenge? (Pkce.ne_nil_of_length size) made) (Pkce.isVerifier_encodeUrl size)

/-- A challenge is sent only with a code. -/
theorem eq_none_of_isNewChallenge {config : OAuthConfig} {challenge : Option PkceChallenge}
    (h : IsNewChallenge config challenge) (hresponse : config.responseType = .token) :
    challenge = none := by
  cases h with
  | none unused => rfl
  | some used size made =>
    obtain ⟨-, hcode⟩ := used
    rw [hresponse] at hcode
    cases hcode

/-- Whatever is called with whatever is answered, one after another or at the same time, challenges
bind the two legs of sign-ins. -/
theorem challenge_binds_legs {engine : Engine} {history : List CallRecord}
    (h : HistoryOf engine history) : ChallengesBind history := by
  obtain ⟨after, hfollows⟩ := h.exists_follows
  constructor
  · intro j d config r hd hconfig hgrant hsent hpost
    have hredirects : config.usesRedirect = true := usesRedirect_of_code hgrant
    obtain ⟨past, rest, before, middle, rfl, rfl, hpast, hleg⟩ := exists_isLeg hfollows hd
    obtain ⟨replies, result, hleg, -⟩ := goesOn_of_isLeg hleg (.inr (.inl ⟨r, hsent⟩))
    obtain ⟨pending, code, hstate, hfields⟩ :=
      codeFields_of_leg hleg hconfig hgrant ((mem_deeds rfl).2 hsent) hpost
    obtain ⟨i, c, expiresAt, hback⟩ := comesBackTo_of_stateCheck hpast hconfig hredirects hstate
    obtain ⟨first, hfirst, -, -⟩ := hback.stores.initiates
    refine ⟨i, c, first, pending, expiresAt, _, hback,
      fun other hother => matches_unique hback.matches hother, hfirst, hfields, ?_⟩
    intro url hurl
    obtain ⟨_, _, _, _, -, -, -, hbegun⟩ := exists_isLeg hfollows hback.begun
    obtain ⟨state, challenge, hnew, happended, hverifier⟩ :=
      parameters_of_redirect hbegun hfirst hurl
    refine ⟨_, happended, ?_⟩
    rw [hverifier _ _ _ hback.stores]
    exact bound_of_isNewChallenge hnew
  · intro c hc first url hconfig hresponse hredirect
    obtain ⟨i, hi⟩ := List.mem_iff_getElem?.1 hc
    obtain ⟨_, _, _, _, -, -, -, hbegun⟩ := exists_isLeg hfollows hi
    obtain ⟨state, challenge, hnew, happended, -⟩ :=
      parameters_of_redirect hbegun hconfig hredirect
    refine ⟨_, happended, ?_⟩
    rw [valuesOf_challenge_authorizationParameters, eq_none_of_isNewChallenge hnew hresponse]
    rfl

/-- Of the calls of the sign-in that is tried once more, one posts a token request, which has a
verifier. -/
theorem replayedRun_bound :
    (∀ step ∈ replayedRun, step.IsOwn) ∧
      ChallengesBind (recordsOf claimEngine replayedRun freshWorld) ∧
      (recordsOf claimEngine replayedRun freshWorld).map
        (fun c => (requests c.journal).map fun r =>
          (r.method, (Form.decode? r.body).map (Form.valuesOf "code_verifier"))) =
        [[], [(Text.ofString "POST", some [Base64.encodeUrl (List.replicate 64 0)])], []] := by
  have hown : ∀ step ∈ replayedRun, step.IsOwn := by simp [replayedRun, Step.IsOwn]
  exact ⟨hown, challenge_binds_legs (.sequential 0 ⟨fun _ => 0, 0⟩ hown), by decide +kernel⟩

end OAuth

end SignIn
