import Mathlib.Tactic.ByContra
import SignIn.Proofs.OAuth.Completion
import SignIn.Proofs.OAuth.Results

/-!
# Mandatory fields of token requests

A token request has to say where it goes, which client asks, and what the grant asks for. None of
this may be missing, and a blank text counts as missing. The checks of a configuration and of a
callback go by this rule. Two later checks ask only whether there is any text at all: the one of a
configured user name and password, and the one of the client and the endpoint before a refresh. So a
step keeps the rule unless one of these two lets a blank text pass.
-/

namespace SignIn

/-- The fields that a token request of a grant has to fill in, besides the client. -/
def GrantType.mandatory : GrantType → List Text
  | .authorizationCode => ["code"]
  | .password => ["username", "password"]
  | _ => []

/-- A call goes to an address that is not blank, with a form whose fields of some names are texts
that are not blank. -/
structure Call.Fills (call : Call) (names : List Text) : Prop where
  address : Text.isPresent call.url = true
  fields : ∃ form, call.payload = .ok (.form form) ∧
    ∀ name ∈ names, ∃ t, form.get? name = some (.text t) ∧ t.isBlank = false

namespace OAuth

/-! ## The rule -/

/-- What a grant must not miss for a token to be requested, besides the client and as far as it is
known before the state is compared. An implicit sign-in requests none. -/
def needsOfGrant (c : OAuthConfig) (request : Request) : GrantType → List Datum
  | .implicit => []
  | .password =>
    [Datum.ofText? c.tokenUrl, Datum.ofText? ((request.get "username").or c.username),
      Datum.ofText? ((request.get "password").or c.password)]
  | _ => [Datum.ofText? c.tokenUrl]

namespace Step

/-- The fields that a token request of a step has to fill in. -/
def mandatory : Step → List Text
  | .authenticate (.oauth c) _ _ => "client_id" :: c.grantType.mandatory
  | .refresh _ _ _ => ["client_id", "refresh_token"]
  | _ => []

/-- What a step must not miss. -/
def needed : Step → List Datum
  | .authenticate (.oauth c) request _ =>
    Datum.ofText? c.clientId :: needsOfGrant c request c.grantType
  | .refresh c refreshToken _ =>
    [Datum.ofText? c.clientId, Datum.ofText? c.tokenUrl, refreshToken]
  | _ => []

/-- The refusal that the request of a step reports. -/
def refusal? : Step → Option AuthError
  | .authenticate _ request _ => OAuth.refusal? request
  | _ => none

/-- How a step ends that lacks what it needs: with the refusal that its request reports, or else with
a problem of its configuration. -/
inductive Declines (step : Step) : AuthError → Prop
  | refused {refusal : AuthError} (reported : step.refusal? = some refusal) : Declines step refusal
  | unconfigured (problem : ConfigProblem) (unreported : step.refusal? = none) :
    Declines step (.invalidConfig problem)

/-- A blank text passes one of the two checks that ask only whether there is any text. -/
def Overlooks : Step → Prop
  | .authenticate config request _ => ∃ c username password,
    checkAll config request = .ok c ∧ c.grantType = .password ∧
      (request.get "username").or (nonEmpty? c.username) = some username ∧
      (request.get "password").or (nonEmpty? c.password) = some password ∧
      (username.isBlank = true ∨ password.isBlank = true)
  | .refresh c refreshToken _ => ∃ clientId tokenUrl,
    nonEmpty? c.clientId = some clientId ∧ nonEmpty? c.tokenUrl = some tokenUrl ∧
      (clientId.isBlank = true ∨ tokenUrl.isBlank = true) ∧ refreshToken.isMissing = false
  | _ => False

end Step

/-- No token request of a step leaves a mandatory field blank, and where one is missing the step
fails without a call. -/
structure RequestsComplete (engine : Engine) (step : Step) (w : World) : Prop where
  filled : ∀ call ∈ posts (step.run engine w).2.journal, call.Fills step.mandatory
  withheld : (∃ d ∈ step.needed, d.isMissing = true) →
    calls (step.run engine w).2.journal = [] ∧
      ∃ error, step.Declines error ∧ (step.run engine w).1 = .error (.auth error)
  /-- A code is looked for once the state has been compared. -/
  codeless : ∀ c request replies, step = .authenticate (.oauth c) request replies →
    checkAll (.oauth c) request = .ok c → stage c request = .completing →
    c.grantType = .authorizationCode → request.get "code" = none →
    calls (step.run engine w).2.journal = [] ∧
      (step.run engine w).1 = ((consumeState c request).runIn w).1.bind fun _ =>
        .error (.auth (.providerDenied "invalid_request"
          (.text "Callback carries no authorization code")))

/-! ## Forms -/

/-- The form of a token request names the client and has the fields of its draft. -/
theorem fills_tokenCall {c : OAuthConfig} {draft : Record} {names : List Text}
    (hclient : Text.isPresent c.clientId = true) (hendpoint : Text.isPresent c.tokenUrl = true)
    (hnames : ∀ name ∈ names, name ≠ "client_id" ∧ name ≠ "client_secret" ∧
      ∃ t, draft.get? name = some (.text t) ∧ t.isBlank = false) :
    (tokenCall c.tokenUrl (tokenForm c draft)).Fills ("client_id" :: names) := by
  refine ⟨hendpoint, tokenForm c draft, rfl, List.forall_mem_cons.2 ⟨?_, ?_⟩⟩
  · rw [Text.isPresent_eq, Option.any_eq_true] at hclient
    obtain ⟨clientId, hid, hpresent⟩ := hclient
    exact ⟨clientId, get?_tokenForm_client hid draft, by simpa using hpresent⟩
  · intro name hname
    obtain ⟨hid, hsecret, t, ht, hpresent⟩ := hnames name hname
    exact ⟨t, get?_tokenForm c hid hsecret ht nofun, hpresent⟩

/-- The draft of a grant has the two fields that are put into it. -/
theorem get?_putAll_pair (form : Record) {first second : Text} (hne : first ≠ second)
    (d e : Datum) :
    (putAll form [(first, d), (second, e)]).get? first = some d ∧
      (putAll form [(first, d), (second, e)]).get? second = some e := by
  have hput : putAll form [(first, d), (second, e)] = (form.put first d).put second e := rfl
  rw [hput]
  constructor
  · rw [Record.get?_put, if_neg hne, Record.get?_put, if_pos rfl]
  · rw [Record.get?_put, if_pos rfl]

/-! ## Checks -/

/-- What falls back on the configuration is missing if and only if nothing but a blank text passes
the check for a text. -/
theorem isMissing_fallback_iff {given configured : Option Text}
    (hgiven : ∀ t, given = some t → t.isBlank = false) :
    (Datum.ofText? (given.or configured)).isMissing = true ↔
      ∀ t, given.or (nonEmpty? configured) = some t → t.isBlank = true := by
  rw [Datum.isMissing_ofText?, Text.isPresent_eq]
  cases given with
  | some t => simp [hgiven t rfl]
  | none =>
    cases configured with
    | none => simp [nonEmpty?]
    | some t =>
      by_cases ht : t = []
      · simp [nonEmpty?, ht, Text.isBlank]
      · simp [nonEmpty?, ht]

/-- The configuration with which a call goes on names the client, and the endpoint if there is to be
a token request. -/
theorem isPresent_of_checkAll {config : AnyConfig} {request : Request} {c : OAuthConfig}
    (h : checkAll config request = .ok c) :
    Text.isPresent c.clientId = true ∧
      (c.grantType ≠ .implicit → Text.isPresent c.tokenUrl = true) := by
  have hproblem := (checkAll_eq_ok_iff.1 h).2.2
  unfold configProblem? at hproblem
  constructor
  · by_contra hclient
    rw [if_pos (by simpa using hclient)] at hproblem
    cases hproblem
  · intro hgrant
    by_contra hendpoint
    have hlacks : c.grantType ≠ .implicit ∧ (!Text.isPresent c.tokenUrl) = true :=
      ⟨hgrant, by simpa using hendpoint⟩
    rw [if_pos hlacks] at hproblem
    (repeat' split at hproblem) <;> cases hproblem

/-- What a check fails with is the refusal that is reported, or a problem of the configuration. -/
theorem declines_of_checkAll {config : AnyConfig} {request : Request} {failure : Failure}
    (h : checkAll config request = .error failure) (replies : List Reply) :
    ∃ error, (Step.authenticate config request replies).Declines error ∧
      failure = .auth error := by
  unfold checkAll at h
  cases hrefusal : refusal? request with
  | some refusal =>
    rw [hrefusal] at h
    exact ⟨refusal, .refused hrefusal, (Except.error.inj h).symm⟩
  | none =>
    rw [hrefusal] at h
    cases config with
    | oauth c =>
      cases hproblem : configProblem? c with
      | some problem =>
        simp only [hproblem] at h
        exact ⟨_, .unconfigured problem hrefusal, (Except.error.inj h).symm⟩
      | none => simp [hproblem] at h
    | _ => exact ⟨_, .unconfigured _ hrefusal, (Except.error.inj h).symm⟩

/-! ## Calls of a sign-in -/

section leg

variable {engine : Engine} {config : AnyConfig} {request : Request} {now : Instant}
  {cache after : MemoryCache} {replies : List Reply} {es : List Event}
  {result : Except Failure Outcome} {c : OAuthConfig}

/-- A leg that does not go on to complete hands no call to the client. -/
theorem calls_of_leg (h : Leg engine config request now cache replies es result after)
    (hinitiating : ∀ c, checkAll config request = .ok c → stage c request = .initiating) :
    calls es = [] := by
  have hnot (c : OAuthConfig) (hc : checkAll config request = .ok c)
      (hcompleting : stage c request = .completing) : False := by
    rw [hinitiating c hc] at hcompleting
    cases hcompleting
  cases h with
  | unopened failure hunopened => rfl
  | unstored starts hset => rfl
  | stored starts hset => rfl
  | returned admitted completing redirects course => exact (hnot _ admitted completing).elim
  | direct admitted completing hdirect course => exact (hnot _ admitted completing).elim

/-- A leg that completes makes the calls of its course, and comes to the same. -/
theorem course_of_leg (h : Leg engine config request now cache replies es result after)
    (hcheck : checkAll config request = .ok c) (hstage : stage c request = .completing) :
    ∃ rest found, calls es = calls rest ∧ result = found.map .user ∧
      Course engine.mapper c replies
        (tokenSource c request (if c.usesRedirect then shown cache now c request else .null)) rest
        found := by
  have hnot (d : OAuthConfig) (hd : checkAll config request = .ok d)
      (hinitiating : stage d request = .initiating) : False := by
    obtain rfl := Except.ok.inj (hd.symm.trans hcheck)
    rw [hinitiating] at hstage
    cases hstage
  cases h with
  | unopened failure hunopened => exact (hnot c hcheck (hunopened c hcheck)).elim
  | unstored starts hset => exact (hnot _ starts.admitted starts.initiating).elim
  | stored starts hset => exact (hnot _ starts.admitted starts.initiating).elim
  | @returned d es found admitted completing redirects course =>
    obtain rfl := Except.ok.inj (admitted.symm.trans hcheck)
    rw [if_pos redirects]
    exact ⟨es, found, rfl, rfl, course⟩
  | @direct d es found admitted completing hdirect course =>
    obtain rfl := Except.ok.inj (admitted.symm.trans hcheck)
    rw [if_neg (by simp [hdirect])]
    exact ⟨_, found, rfl, rfl, course⟩

end leg

section authenticate

variable {engine : Engine} {config : AnyConfig} {request : Request} {replies : List Reply}
  {w : World} {c : OAuthConfig}

/-- A sign-in that does not go on to complete hands no call to the client. -/
theorem calls_of_not_completing
    (h : ∀ c, checkAll config request = .ok c → stage c request = .initiating) :
    calls ((Step.authenticate config request replies).run engine w).2.journal = [] := by
  obtain ⟨result, -, -, hleg⟩ := run_authenticate engine w config request replies
  rw [← calls_deeds]
  exact calls_of_leg hleg h

variable (engine replies w) in
/-- A sign-in that completes makes the calls of its course, and comes to the same. -/
theorem course_of_completing (hcheck : checkAll config request = .ok c)
    (hstage : stage c request = .completing) :
    ∃ es found, calls ((Step.authenticate config request replies).run engine w).2.journal =
        calls es ∧
      ((Step.authenticate config request replies).run engine w).1 =
        (found.map .user).map .outcome ∧
      Course engine.mapper c replies (tokenSource c request (takenBy c request w)) es found := by
  obtain ⟨result, hresult, -, hleg⟩ := run_authenticate engine w config request replies
  obtain ⟨es, found, hcalls, rfl, hcourse⟩ := course_of_leg hleg hcheck hstage
  rw [calls_deeds] at hcalls
  exact ⟨es, found, hcalls, hresult, hcourse⟩

/-- A sign-in that is refused ends with the refusal. -/
theorem run_of_refused {failure : Failure} (hcheck : checkAll config request = .error failure) :
    ((Step.authenticate config request replies).run engine w).1 = .error failure := by
  have hrefused :
      ((authenticate engine config request).runIn { w with journal := [], replies := replies }).1 =
        .error failure := result_of_refused hcheck _
  have hmap := Action.runIn_map StepResult.outcome (authenticate engine config request)
    { w with journal := [], replies := replies }
  rw [hrefused] at hmap
  exact congrArg Prod.fst hmap

/-- A course posts a form only if it asks with that form. -/
theorem asks_of_posts {mapper : Mapper} {source : TokenSource} {es : List Event}
    {found : Except Failure User} (h : Course mapper c replies source es found) {call : Call}
    (hcall : call ∈ posts es) : ∃ form, source = .asks form ∧ call = tokenCall c.tokenUrl form := by
  cases source with
  | fails failure =>
    cases h
    cases hcall
  | carries token =>
    have hget : (userInfoCall c.userInfoUrl token.accessToken).method ≠
        some (Text.ofString "POST") := by
      change some (Text.ofString "GET") ≠ some (Text.ofString "POST")
      decide
    simp [posts, calls_of_carried h, hget] at hcall
  | asks form =>
    rw [posts_of_course h] at hcall
    exact ⟨form, rfl, List.mem_singleton.1 hcall⟩

end authenticate

/-! ## Sign-ins -/

section signin

variable {engine : Engine} {config : AnyConfig} {request : Request} {replies : List Reply}
  {w : World} {c : OAuthConfig} {stored : Datum} {form : Record}

/-- A form that asks by a user name and a password is filled in, if these are not blank. -/
theorem fills_of_password {username password : Text}
    (hclient : Text.isPresent c.clientId = true) (hendpoint : Text.isPresent c.tokenUrl = true)
    (hblank : ¬ (username.isBlank = true ∨ password.isBlank = true)) :
    (tokenCall c.tokenUrl
      (exchangeForm c [("username", .text username), ("password", .text password)])).Fills
        ["client_id", "username", "password"] := by
  rw [not_or, Bool.not_eq_true, Bool.not_eq_true] at hblank
  obtain ⟨hfirst, hsecond⟩ := get?_putAll_pair (grantForm c)
    (show Text.ofString "username" ≠ Text.ofString "password" by decide) (.text username)
    (.text password)
  apply fills_tokenCall hclient hendpoint
  rw [List.forall_mem_cons, List.forall_mem_singleton]
  exact ⟨⟨by decide, by decide, username, hfirst, hblank.1⟩,
    by decide, by decide, password, hsecond, hblank.2⟩

/-- A form that asks by a code of the request is filled in. -/
theorem fills_of_code {code : Text} (hclient : Text.isPresent c.clientId = true)
    (hendpoint : Text.isPresent c.tokenUrl = true) (hcode : request.get "code" = some code)
    (verifier : Option Text) :
    (tokenCall c.tokenUrl (codeForm c code verifier)).Fills ["client_id", "code"] := by
  obtain ⟨hfirst, -⟩ := get?_putAll_pair (grantForm c)
    (show Text.ofString "code" ≠ Text.ofString "code_verifier" by decide) (.text code)
    (Datum.ofText? verifier)
  apply fills_tokenCall hclient hendpoint
  rw [List.forall_mem_singleton]
  exact ⟨by decide, by decide, code, hfirst, Request.isBlank_of_get hcode⟩

/-- A form that is asked with is filled in, unless a blank text has been overlooked. -/
theorem fills_of_asks (hkeeps : ¬ (Step.authenticate config request replies).Overlooks)
    (hcheck : checkAll config request = .ok c)
    (hsource : tokenSource c request stored = .asks form) :
    (tokenCall c.tokenUrl form).Fills (Step.authenticate config request replies).mandatory := by
  obtain ⟨rfl, -, -⟩ := checkAll_eq_ok_iff.1 hcheck
  obtain ⟨hgrant, hcode⟩ := tokenSource_eq_asks hsource
  obtain ⟨hclient, hendpoint⟩ := isPresent_of_checkAll hcheck
  change (tokenCall c.tokenUrl form).Fills ("client_id" :: c.grantType.mandatory)
  cases hcase : c.grantType with
  | clientCredentials =>
    rw [tokenSource, hcase] at hsource
    cases hsource
    exact fills_tokenCall hclient (hendpoint hgrant) (List.forall_mem_nil _)
  | implicit => exact absurd hcase hgrant
  | password =>
    rw [tokenSource, hcase] at hsource
    dsimp only [passwordSource] at hsource
    split at hsource
    · rename_i username password husername hpassword
      cases hsource
      apply fills_of_password hclient (hendpoint hgrant)
      intro hblank
      exact hkeeps ⟨c, username, password, hcheck, hcase, husername, hpassword, hblank⟩
    · cases hsource
  | authorizationCode =>
    obtain ⟨pending, code, -, hget, rfl⟩ := hcode (usesRedirect_of_code hcase)
    exact fills_of_code hclient (hendpoint hgrant) hget pending.codeVerifier

/-- What an admitted sign-in needs and lacks is a user name or a password. -/
theorem password_of_lacks (hcheck : checkAll (.oauth c) request = .ok c)
    (hlacks : ∃ d ∈ (Step.authenticate (.oauth c) request replies).needed, d.isMissing = true) :
    c.grantType = .password ∧
      ((Datum.ofText? ((request.get "username").or c.username)).isMissing = true ∨
        (Datum.ofText? ((request.get "password").or c.password)).isMissing = true) := by
  obtain ⟨hclient, hendpoint⟩ := isPresent_of_checkAll hcheck
  have hclient : (Datum.ofText? c.clientId).isMissing = false := by
    rw [Datum.isMissing_ofText?, hclient, Bool.not_true]
  have hendpoint (h : c.grantType ≠ .implicit) : (Datum.ofText? c.tokenUrl).isMissing = false := by
    rw [Datum.isMissing_ofText?, hendpoint h, Bool.not_true]
  obtain ⟨d, hd, hmissing⟩ := hlacks
  rcases List.mem_cons.1 hd with rfl | hd
  · rw [hclient] at hmissing
    cases hmissing
  · cases hgrant : c.grantType with
    | password =>
      rw [hgrant] at hd hendpoint
      simp only [needsOfGrant, List.mem_cons, List.not_mem_nil, or_false] at hd
      rcases hd with rfl | rfl | rfl
      · rw [hendpoint nofun] at hmissing
        cases hmissing
      · exact ⟨rfl, .inl hmissing⟩
      · exact ⟨rfl, .inr hmissing⟩
    | implicit =>
      rw [hgrant] at hd
      cases hd
    | _ =>
      rw [hgrant] at hd hendpoint
      rw [List.mem_singleton.1 hd, hendpoint nofun] at hmissing
      cases hmissing

/-- A sign-in by password is completed directly. -/
theorem stage_of_password (h : c.grantType = .password) (request : Request) :
    stage c request = .completing := by
  simp [stage, OAuthConfig.usesRedirect, h, GrantType.usesRedirect]

/-- Without a user name or a password there is no token, unless a blank text is overlooked. -/
theorem passwordSource_of_missing
    (hkeeps : ¬ (Step.authenticate config request replies).Overlooks)
    (hcheck : checkAll config request = .ok c) (hgrant : c.grantType = .password)
    (hmissing : (Datum.ofText? ((request.get "username").or c.username)).isMissing = true ∨
      (Datum.ofText? ((request.get "password").or c.password)).isMissing = true) :
    passwordSource c request = .fails (.auth (.invalidConfig .missingLogin)) := by
  unfold passwordSource
  split
  · rename_i username password husername hpassword
    have hblank : username.isBlank = true ∨ password.isBlank = true :=
      hmissing.imp (fun h => (isMissing_fallback_iff fun _ => Request.isBlank_of_get).1 h _ husername)
        fun h => (isMissing_fallback_iff fun _ => Request.isBlank_of_get).1 h _ hpassword
    exact (hkeeps ⟨c, username, password, hcheck, hgrant, husername, hpassword, hblank⟩).elim
  · rfl

variable (engine replies) in
/-- A sign-in that fails to find a source of its token makes no call. -/
theorem run_of_fails_source {failure : Failure} (hcheck : checkAll config request = .ok c)
    (hstage : stage c request = .completing)
    (hsource : tokenSource c request (takenBy c request w) = .fails failure) :
    calls ((Step.authenticate config request replies).run engine w).2.journal = [] ∧
      ((Step.authenticate config request replies).run engine w).1 = .error failure := by
  obtain ⟨es, found, hcalls, hresult, hcourse⟩ :=
    course_of_completing engine replies w hcheck hstage
  rw [hsource] at hcourse
  cases hcourse with
  | refused => exact ⟨hcalls, hresult⟩

variable (engine replies w) in
/-- A callback without a code makes no call. It is denied once its state has been compared. -/
theorem run_of_no_code (hcheck : checkAll config request = .ok c)
    (hstage : stage c request = .completing) (hgrant : c.grantType = .authorizationCode)
    (hcode : request.get "code" = none) :
    calls ((Step.authenticate config request replies).run engine w).2.journal = [] ∧
      ((Step.authenticate config request replies).run engine w).1 =
        ((consumeState c request).runIn w).1.bind fun _ =>
          .error (.auth (.providerDenied "invalid_request"
            (.text "Callback carries no authorization code"))) := by
  have htaken : takenBy c request w = shown w.cache w.clock c request := by
    rw [takenBy, if_pos (usesRedirect_of_code hgrant)]
  rw [consumeState_run]
  cases hstate : stateCheck request (shown w.cache w.clock c request) with
  | error failure =>
    have hsource : tokenSource c request (takenBy c request w) = .fails failure := by
      rw [tokenSource, hgrant, htaken]
      simp only [hstate]
    exact run_of_fails_source engine replies hcheck hstage hsource
  | ok pending =>
    have hsource : tokenSource c request (takenBy c request w) =
        .fails (.auth (.providerDenied "invalid_request"
          (.text "Callback carries no authorization code"))) := by
      rw [tokenSource, hgrant, htaken]
      simp only [hstate, codeSource, hcode]
    exact run_of_fails_source engine replies hcheck hstage hsource

variable (engine config request replies w) in
/-- A sign-in keeps to its mandatory fields unless it overlooks a blank text. -/
theorem complete_authenticate
    (hkeeps : ¬ (Step.authenticate config request replies).Overlooks) :
    RequestsComplete engine (.authenticate config request replies) w := by
  constructor
  · intro call hcall
    by_cases hcompleting : ∃ c, checkAll config request = .ok c ∧ stage c request = .completing
    · obtain ⟨c, hcheck, hstage⟩ := hcompleting
      obtain ⟨es, found, hcalls, -, hcourse⟩ :=
        course_of_completing engine replies w hcheck hstage
      rw [posts, hcalls] at hcall
      obtain ⟨form, hsource, rfl⟩ := asks_of_posts hcourse hcall
      exact fills_of_asks hkeeps hcheck hsource
    · have hinitiating (c : OAuthConfig) (hc : checkAll config request = .ok c) :
          stage c request = .initiating := by
        cases hstage : stage c request with
        | initiating => rfl
        | completing => exact (hcompleting ⟨c, hc, hstage⟩).elim
      rw [posts, calls_of_not_completing hinitiating] at hcall
      cases hcall
  · intro hlacks
    cases hcheck : checkAll config request with
    | error failure =>
      obtain ⟨error, hdeclines, rfl⟩ := declines_of_checkAll hcheck replies
      exact ⟨calls_of_not_completing (by simp [hcheck]), error, hdeclines, run_of_refused hcheck⟩
    | ok c =>
      obtain ⟨rfl, hunreported, -⟩ := checkAll_eq_ok_iff.1 hcheck
      obtain ⟨hgrant, hmissing⟩ := password_of_lacks hcheck hlacks
      have hsource : tokenSource c request (takenBy c request w) =
          .fails (.auth (.invalidConfig .missingLogin)) := by
        rw [tokenSource, hgrant]
        exact passwordSource_of_missing hkeeps hcheck hgrant hmissing
      obtain ⟨hcalls, hresult⟩ :=
        run_of_fails_source engine replies hcheck (stage_of_password hgrant request) hsource
      exact ⟨hcalls, _, .unconfigured .missingLogin hunreported, hresult⟩
  · intro c other answers hstep hcheck hstage hgrant hcode
    cases hstep
    exact run_of_no_code engine replies w hcheck hstage hgrant hcode

variable (engine w) in
/-- A sign-in that overlooks a blank text posts it. -/
theorem incomplete_authenticate (h : (Step.authenticate config request replies).Overlooks) :
    ¬ RequestsComplete engine (.authenticate config request replies) w := by
  intro hcomplete
  obtain ⟨c, username, password, hcheck, hgrant, husername, hpassword, hblank⟩ := h
  obtain ⟨rfl, -, -⟩ := checkAll_eq_ok_iff.1 hcheck
  have hmissing : (Datum.ofText? ((request.get "username").or c.username)).isMissing = true ∨
      (Datum.ofText? ((request.get "password").or c.password)).isMissing = true := by
    rw [isMissing_fallback_iff fun _ => Request.isBlank_of_get,
      isMissing_fallback_iff fun _ => Request.isBlank_of_get, husername, hpassword]
    simpa using hblank
  have hlacks : ∃ d ∈ (Step.authenticate (.oauth c) request replies).needed,
      d.isMissing = true := by
    rw [Step.needed, hgrant]
    rcases hmissing with hfirst | hsecond
    · exact ⟨_, by simp [needsOfGrant], hfirst⟩
    · exact ⟨_, by simp [needsOfGrant], hsecond⟩
  have hcalls := (hcomplete.withheld hlacks).1
  obtain ⟨es, found, hes, -, hcourse⟩ := course_of_completing engine replies w hcheck
    (stage_of_password hgrant request)
  have hsource : tokenSource c request (takenBy c request w) =
      .asks (exchangeForm c [("username", .text username), ("password", .text password)]) := by
    simp only [tokenSource, hgrant, passwordSource, husername, hpassword]
  rw [hsource] at hcourse
  have hposts := posts_of_course hcourse
  rw [posts, ← hes, hcalls] at hposts
  cases hposts

end signin

/-! ## Refreshes -/

section refresh

variable {engine : Engine} {c : OAuthConfig} {refreshToken : Datum} {replies : List Reply}
  {w : World}

theorem isPresent_of_nonEmpty? {value : Option Text} {t : Text} (h : nonEmpty? value = some t) :
    Text.isPresent value = !t.isBlank := by
  unfold nonEmpty? at h
  split at h
  · split at h
    · cases h
    · cases h
      rw [Text.isPresent_eq, Option.any_some]
  · cases h

/-- A client and an endpoint that pass the check for a text are not blank, unless this has been
overlooked. -/
theorem isPresent_of_not_overlooks {clientId tokenUrl : Text}
    (hkeeps : ¬ (Step.refresh c refreshToken replies).Overlooks)
    (hclient : nonEmpty? c.clientId = some clientId)
    (hendpoint : nonEmpty? c.tokenUrl = some tokenUrl) (hpresent : refreshToken.isMissing = false) :
    Text.isPresent c.clientId = true ∧ Text.isPresent c.tokenUrl = true := by
  rw [isPresent_of_nonEmpty? hclient, isPresent_of_nonEmpty? hendpoint]
  have hblank : ¬ (clientId.isBlank = true ∨ tokenUrl.isBlank = true) := fun hblank =>
    hkeeps ⟨clientId, tokenUrl, hclient, hendpoint, hblank, hpresent⟩
  simpa using hblank

/-- Nothing is missing for a refresh that passes its checks, unless this has been overlooked. -/
theorem not_lacks_of_not_overlooks {clientId tokenUrl : Text}
    (hkeeps : ¬ (Step.refresh c refreshToken replies).Overlooks)
    (hclient : nonEmpty? c.clientId = some clientId)
    (hendpoint : nonEmpty? c.tokenUrl = some tokenUrl) (hpresent : refreshToken.isMissing = false) :
    ¬ ∃ d ∈ (Step.refresh c refreshToken replies).needed, d.isMissing = true := by
  obtain ⟨hid, hurl⟩ := isPresent_of_not_overlooks hkeeps hclient hendpoint hpresent
  simp [Step.needed, Datum.isMissing_ofText?, hid, hurl, hpresent]

variable (engine c refreshToken replies w) in
/-- A refresh keeps to its mandatory fields unless it overlooks a blank text. -/
theorem complete_refresh (hkeeps : ¬ (Step.refresh c refreshToken replies).Overlooks) :
    RequestsComplete engine (.refresh c refreshToken replies) w := by
  obtain ⟨⟨result, hresult, hrefreshes⟩, -, -⟩ := run_refresh engine w c refreshToken replies
  have hcalls : calls ((Step.refresh c refreshToken replies).run engine w).2.journal =
      calls (deeds ((Step.refresh c refreshToken replies).run engine w).2.journal) :=
    (calls_deeds _).symm
  generalize deeds _ = es at hrefreshes hcalls
  constructor
  · intro call hcall
    rw [posts, hcalls] at hcall
    cases hrefreshes with
    | lacking problem hlacks => cases hcall
    | unusable hclient hendpoint hpresent => cases hcall
    | @posted clientId tokenUrl token hclient hendpoint htext hpresent =>
      subst htext
      rw [calls_deedsOf] at hcall
      rw [List.mem_singleton.1 (List.mem_filter.1 hcall).1]
      obtain ⟨hid, hurl⟩ := isPresent_of_not_overlooks hkeeps hclient hendpoint hpresent
      apply fills_tokenCall hid hurl
      rw [List.forall_mem_singleton]
      exact ⟨by decide, by decide, token, rfl, hpresent⟩
  · intro hlacks
    cases hrefreshes with
    | lacking problem _ => exact ⟨hcalls, _, .unconfigured problem rfl, hresult⟩
    | unusable hclient hendpoint hpresent =>
      exact (not_lacks_of_not_overlooks hkeeps hclient hendpoint hpresent hlacks).elim
    | posted hclient hendpoint htext hpresent =>
      subst htext
      exact (not_lacks_of_not_overlooks hkeeps hclient hendpoint hpresent hlacks).elim
  · intro d request answers hstep
    cases hstep

variable (engine w) in
/-- A refresh that overlooks a blank text posts it, or fails in another way. -/
theorem incomplete_refresh (h : (Step.refresh c refreshToken replies).Overlooks) :
    ¬ RequestsComplete engine (.refresh c refreshToken replies) w := by
  intro hcomplete
  obtain ⟨clientId, tokenUrl, hclient, hendpoint, hblank, hpresent⟩ := h
  have hlacks : ∃ d ∈ (Step.refresh c refreshToken replies).needed, d.isMissing = true := by
    simp only [Step.needed, List.mem_cons, List.not_mem_nil, or_false, exists_eq_or_imp,
      exists_eq_left, Datum.isMissing_ofText?, isPresent_of_nonEmpty? hclient,
      isPresent_of_nonEmpty? hendpoint, Bool.not_not]
    exact hblank.elim .inl fun hurl => .inr (.inl hurl)
  obtain ⟨hcalls, error, -, herror⟩ := hcomplete.withheld hlacks
  obtain ⟨⟨result, hresult, hrefreshes⟩, -, -⟩ := run_refresh engine w c refreshToken replies
  rw [← calls_deeds] at hcalls
  rw [hresult] at herror
  generalize deeds _ = es at hrefreshes hcalls
  cases hrefreshes with
  | lacking problem hlacks =>
    rw [hclient, hendpoint, hpresent] at hlacks
    simp at hlacks
  | unusable hid hurl hother => cases herror
  | posted hid hurl htext hother =>
    rw [calls_deedsOf] at hcalls
    cases hcalls

end refresh

/-! ## All steps -/

/-- A step that is no call of the engine requests no token. -/
theorem calls_of_cacheStep (engine : Engine) (w : World) {step : Step}
    (hauthenticate : ∀ config request replies, step ≠ .authenticate config request replies)
    (hrefresh : ∀ c refreshToken replies, step ≠ .refresh c refreshToken replies) :
    calls (step.run engine w).2.journal = [] := by
  cases step with
  | authenticate config request replies => exact absurd rfl (hauthenticate config request replies)
  | refresh c refreshToken replies => exact absurd rfl (hrefresh c refreshToken replies)
  | clock now => rfl
  | cacheDelete key => rfl
  | cacheSet key value lifetime =>
    have hworld : ((Step.cacheSet key value lifetime).run engine w).2 =
        ((Action.cacheSet key value lifetime).runIn { w with journal := [] }).2 :=
      congrArg Prod.snd (Action.runIn_map (fun _ => StepResult.done) _ _)
    rw [hworld, Action.runIn_cacheSet]
    rcases w.cache.store w.clock key value lifetime with ⟨fault | done, after⟩ <;> rfl
  | cacheGet key =>
    have hworld : ((Step.cacheGet key).run engine w).2 =
        ((Action.cacheGet key).runIn { w with journal := [] }).2 :=
      congrArg Prod.snd (Action.runIn_map StepResult.value _ _)
    rw [hworld, Action.cacheGet, Action.runIn_onCache_noted _ (.cacheGet key)]
    rcases w.cache.read w.clock key with ⟨fault | value, after⟩ <;> rfl
  | cacheTake key =>
    have hworld : ((Step.cacheTake key).run engine w).2 =
        ((Action.cacheTake key).runIn { w with journal := [] }).2 :=
      congrArg Prod.snd (Action.runIn_map StepResult.value _ _)
    rw [hworld, Action.cacheTake, Action.runIn_onCache_noted _ (.cacheTake key)]
    rcases w.cache.takeOut w.clock key with ⟨fault | value, after⟩ <;> rfl

theorem complete_of_cacheStep (engine : Engine) (w : World) {step : Step}
    (hauthenticate : ∀ config request replies, step ≠ .authenticate config request replies)
    (hrefresh : ∀ c refreshToken replies, step ≠ .refresh c refreshToken replies) :
    RequestsComplete engine step w := by
  constructor
  · intro call hcall
    rw [posts, calls_of_cacheStep engine w hauthenticate hrefresh] at hcall
    cases hcall
  · rintro ⟨d, hd, -⟩
    cases step with
    | authenticate config request replies =>
      exact absurd rfl (hauthenticate config request replies)
    | refresh c refreshToken replies => exact absurd rfl (hrefresh c refreshToken replies)
    | _ => cases hd
  · exact fun c request replies h => absurd h (hauthenticate _ request replies)

/-- No token request goes out with a blank mandatory field, and a sign-in or a refresh that lacks
one fails without a call, unless a blank text passes one of the two checks that ask only whether
there is any text. -/
theorem requests_complete_iff (engine : Engine) (step : Step) (w : World) :
    RequestsComplete engine step w ↔ ¬ step.Overlooks := by
  cases step with
  | authenticate config request replies =>
    exact ⟨fun hcomplete h => incomplete_authenticate engine w h hcomplete,
      complete_authenticate engine config request replies w⟩
  | refresh c refreshToken replies =>
    exact ⟨fun hcomplete h => incomplete_refresh engine w h hcomplete,
      complete_refresh engine c refreshToken replies w⟩
  | _ =>
    exact iff_of_true (complete_of_cacheStep engine w (by simp) (by simp)) not_false

/-- A refresh by a client whose name is blank posts the blank name. -/
theorem blankClient_incomplete :
    ¬ RequestsComplete claimEngine
      (.refresh { credentialsConfig with clientId := some " " } (.text "r") []) freshWorld := by
  apply incomplete_refresh
  exact ⟨" ", "https://h/t", rfl, rfl, .inl rfl, rfl⟩

end OAuth

end SignIn
