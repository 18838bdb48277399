import SignIn.Proofs.Number.Numeral
import SignIn.Proofs.OAuth.Faults
import SignIn.Proofs.OAuth.Runs
import SignIn.Proofs.Request

/-!
# Blank parameters

A blank parameter counts as absent wherever a parameter is asked for by name. An implicit callback
is also read as a whole, as the record of a token. There a blank error counts as a refusal unless it
is empty, and the other blank parameters end up in the token that is handed to the mapper. With
these exceptions, a call ends in the same way, sends the same requests and leaves the same cache
with and without the blank parameters.
-/

namespace SignIn

/-! ## The token of a callback -/

/-- A token without the blank texts that a callback has put into it. -/
def AccessToken.withoutBlanks (token : AccessToken) : AccessToken :=
  { token with
    tokenType := Text.present? token.tokenType
    refreshToken := Text.present? token.refreshToken
    scope := Text.present? token.scope
    idToken := Text.present? token.idToken
    raw := token.raw.filter fun f => !f.2.text?.any Text.isBlank }

inductive ErrorKind where
  | providerDenied
  | invalidState
  | invalidConfig
  | providerCommunication
  | malformedToken
  | userMapping
  | invalidCredentials
deriving DecidableEq

def AuthError.kind : AuthError → ErrorKind
  | .providerDenied _ _ => .providerDenied
  | .invalidState _ => .invalidState
  | .invalidConfig _ => .invalidConfig
  | .providerCommunication _ _ => .providerCommunication
  | .malformedToken _ => .malformedToken
  | .userMapping _ => .userMapping
  | .invalidCredentials _ => .invalidCredentials

/-- The kind of a failure: that of an error, or the fault. -/
def Failure.kind : Failure → ErrorKind ⊕ Fault
  | .auth error => .inl error.kind
  | .fault f => .inr f

namespace OAuth

section token

variable {request : Request}

/-- A callback is read as a refusal if it has an error that is not empty. -/
theorem refusalIn?_record {request : Request} :
    (refusalIn? request.record).isSome = true ↔
      ∃ error, request.given? "error" = some error ∧ error ≠ [] := by
  rw [refusalIn?, request.get?_record]
  cases hlookup : request.given? "error" with
  | none => simp [Datum.truthy]
  | some error => cases error <;> simp [Datum.truthy]

theorem usableToken?_record (request : Request) :
    usableToken? request.record = request.get "access_token" := by
  rw [usableToken?, request.get?_record, Request.get_eq_present?]
  cases request.given? "access_token" <;> rfl

theorem payloadText_record (request : Request) (name : String) :
    payloadText request.record name = request.given? name := by
  rw [payloadText, request.get?_record]
  cases request.given? name <;> rfl

def StatedLife.seconds? : StatedLife → Except Failure (Option Int)
  | .absent => .ok none
  | .seconds n => .ok (some n)
  | .ignored => .ok none
  | .excessive => .error (.fault .overflow)

/-- The token of a payload that is no refusal and has an access token. -/
theorem tokenOfPayload_of_usable {payload : Record} {accessToken : Text}
    (hrefusal : refusalIn? payload = none) (husable : usableToken? payload = some accessToken) :
    (tokenOfPayload payload).1 =
      (StatedLife.ofDatum ((payload.get? "expires_in").getD .null)).seconds?.map
        (tokenOf payload accessToken) := by
  rw [tokenOfPayload, hrefusal]
  simp only [husable]
  cases StatedLife.ofDatum ((payload.get? "expires_in").getD .null) <;> rfl

/-- A blank life comes to the same as none. -/
theorem seconds?_withoutBlanks (hnames : request.IsDictionary) :
    (StatedLife.ofDatum ((request.withoutBlanks.record.get? "expires_in").getD .null)).seconds? =
      (StatedLife.ofDatum ((request.record.get? "expires_in").getD .null)).seconds? := by
  rw [Request.get?_record, Request.get?_record, Request.given?_withoutBlanks hnames,
    Request.get_eq_present?]
  cases request.given? "expires_in" with
  | none => rfl
  | some t =>
    cases hblank : t.isBlank with
    | false => simp [Text.present?, hblank]
    | true =>
      by_cases hempty : t = []
      · simp [Text.present?, hempty, Text.isBlank, StatedLife.ofDatum]
      · simp [Text.present?, hblank, hempty, StatedLife.ofDatum,
          Numeral.integer?_of_isBlank hblank, StatedLife.seconds?]

theorem record_withoutBlanks (request : Request) :
    request.withoutBlanks.record =
      request.record.filter fun f => !f.2.text?.any Text.isBlank := by
  simp only [Request.record, Request.withoutBlanks, List.filter_map]
  rfl

theorem tokenOf_withoutBlanks (hnames : request.IsDictionary) (accessToken : Text)
    (life : Option Int) :
    tokenOf request.withoutBlanks.record accessToken life =
      (tokenOf request.record accessToken life).withoutBlanks := by
  have htext (name : String) : payloadText request.withoutBlanks.record name =
      Text.present? (payloadText request.record name) := by
    rw [payloadText_record, payloadText_record, Request.given?_withoutBlanks hnames]
    rfl
  simp only [tokenOf, AccessToken.withoutBlanks, htext]
  rw [record_withoutBlanks]

/-- A request that passes the checks has no error, unless a blank one. -/
theorem get_error_of_checkAll {config : AnyConfig} {c : OAuthConfig}
    (h : checkAll config request = .ok c) : request.get "error" = none := by
  have hrefusal := (checkAll_eq_ok_iff.1 h).2.1
  unfold refusal? at hrefusal
  cases herror : request.get "error" with
  | none => rfl
  | some error => simp [herror] at hrefusal

theorem refusalIn?_withoutBlanks (hnames : request.IsDictionary)
    (herror : request.get "error" = none) : refusalIn? request.withoutBlanks.record = none := by
  rw [← Option.not_isSome_iff_eq_none, refusalIn?_record, Request.given?_withoutBlanks hnames,
    herror]
  rintro ⟨error, h, -⟩
  cases h

/-- Unless a callback is read as a refusal, its token without the blank parameters is its token
without blanks, and it fails in the same way if it has none. -/
theorem tokenOfPayload_withoutBlanks (hnames : request.IsDictionary)
    (herror : request.get "error" = none) (hrefusal : refusalIn? request.record = none) :
    (tokenOfPayload request.withoutBlanks.record).1.mapError Failure.kind =
      ((tokenOfPayload request.record).1.map AccessToken.withoutBlanks).mapError Failure.kind := by
  have hrefusal' := refusalIn?_withoutBlanks hnames herror
  have husable : usableToken? request.withoutBlanks.record = usableToken? request.record := by
    rw [usableToken?_record, usableToken?_record, Request.get_withoutBlanks hnames]
  cases haccess : usableToken? request.record with
  | none =>
    rw [haccess] at husable
    simp only [tokenOfPayload, hrefusal, hrefusal', haccess, husable]
    rfl
  | some accessToken =>
    rw [tokenOfPayload_of_usable hrefusal' (husable.trans haccess),
      tokenOfPayload_of_usable hrefusal haccess, seconds?_withoutBlanks hnames]
    cases (StatedLife.ofDatum ((request.record.get? "expires_in").getD .null)).seconds? with
    | error failure => rfl
    | ok life =>
      simp only [Except.map, tokenOf_withoutBlanks hnames]

end token

/-! ## What is asked for by name -/

section names

variable {request : Request}

theorem refusal?_withoutBlanks (hnames : request.IsDictionary) :
    refusal? request.withoutBlanks = refusal? request := by
  simp only [refusal?, Request.get_withoutBlanks hnames]

theorem stage_withoutBlanks (hnames : request.IsDictionary) (config : OAuthConfig) :
    stage config request.withoutBlanks = stage config request := by
  unfold stage isCallback
  rw [Request.get_withoutBlanks hnames, Request.get_withoutBlanks hnames]

theorem checkAll_withoutBlanks (hnames : request.IsDictionary) (config : AnyConfig) :
    checkAll config request.withoutBlanks = checkAll config request := by
  unfold checkAll
  rw [refusal?_withoutBlanks hnames]

theorem stateCheck_withoutBlanks (hnames : request.IsDictionary) (stored : Datum) :
    stateCheck request.withoutBlanks stored = stateCheck request stored := by
  simp only [stateCheck, Request.get_withoutBlanks hnames]

theorem judgeState_withoutBlanks (hnames : request.IsDictionary) (config : OAuthConfig)
    (stored : Datum) :
    judgeState config request.withoutBlanks stored = judgeState config request stored := by
  simp only [judgeState, Request.get_withoutBlanks hnames]

/-- A grant that reads no callback as a whole obtains its token in the same way. -/
theorem tokenAfter_withoutBlanks (hnames : request.IsDictionary) {config : OAuthConfig}
    (hgrant : config.grantType ≠ .implicit) (stored : Datum) :
    tokenAfter config request.withoutBlanks stored = tokenAfter config request stored := by
  unfold tokenAfter
  cases himplicit : config.grantType with
  | clientCredentials => rfl
  | password => simp only [passwordToken, Request.get_withoutBlanks hnames]
  | authorizationCode =>
    simp only [judgeState_withoutBlanks hnames, Request.get_withoutBlanks hnames]
  | implicit => exact absurd himplicit hgrant

/-- A call that does not complete an implicit sign-in is the same action. -/
theorem authenticate_withoutBlanks (hnames : request.IsDictionary) {engine : Engine}
    {config : AnyConfig} (h : ∀ c, checkAll config request = .ok c → stage c request = .completing →
      c.grantType ≠ .implicit) :
    authenticate engine config request.withoutBlanks = authenticate engine config request := by
  unfold authenticate checkRefusal
  rw [refusal?_withoutBlanks hnames]
  cases hrefusal : refusal? request with
  | some error => rfl
  | none =>
    cases config with
    | oauth c =>
      have hwith : authenticateWith engine c request.withoutBlanks =
          authenticateWith engine c request := by
        unfold authenticateWith checkConfig
        rw [stage_withoutBlanks hnames]
        cases hproblem : configProblem? c with
        | some problem => rfl
        | none =>
          cases hstage : stage c request with
          | initiating => rfl
          | completing =>
            have hgrant := h c (checkAll_eq_ok_iff.2 ⟨rfl, hrefusal, hproblem⟩) hstage
            have htoken : obtainToken c request.withoutBlanks = obtainToken c request := by
              rw [obtainToken_eq, obtainToken_eq, funext (tokenAfter_withoutBlanks hnames hgrant)]
              rfl
            simp only [complete, htoken]
      simp only [hwith]
    | _ => rfl

end names

/-! ## Implicit callbacks -/

/-- A callback that carries its token, with the login that its state belongs to. -/
structure ImplicitCallback (config : AnyConfig) (request : Request) (w : World) (c : OAuthConfig)
    (pending : PendingLogin) : Prop where
  admitted : checkAll config request = .ok c
  completing : stage c request = .completing
  implicit : c.grantType = .implicit
  judged : stateCheck request (shown w.cache w.clock c request) = .ok pending

/-- The request for the claims goes out once a token has been obtained, if it can be written. -/
theorem requests_of_identifies {mapper : Mapper} {config : OAuthConfig} {replies : List Reply}
    {token : AccessToken} {es : List Event} {result : Except Failure User}
    (h : Identifies mapper config replies token es result) :
    requests es = (userInfoCall config.userInfoUrl token.accessToken).request?.toList := by
  cases h with
  | unclaimed failure => exact requests_deedsOf _
  | mapped answers accepted =>
    rw [requests_append, requests_deedsOf]
    exact List.append_nil _

/-- A call whose request cannot be written fails with a fault. -/
theorem recordOfCall_of_request?_none {call : Call} (h : call.request? = none) (reply : Reply) :
    ∃ fault, recordOfCall call reply = .error (.fault fault) := by
  unfold recordOfCall replied
  cases hcall : WireRequest.ofCall call with
  | error fault => exact ⟨fault, rfl⟩
  | ok request =>
    rw [Call.request?, hcall] at h
    cases h

section implicit

variable (engine : Engine) {config : AnyConfig} {request : Request} {w : World} {c : OAuthConfig}

variable (w) in
/-- What an implicit callback comes to, once it is admitted. -/
theorem run_of_implicit (hcheck : checkAll config request = .ok c)
    (hstage : stage c request = .completing) (himplicit : c.grantType = .implicit) :
    let run := (authenticate engine config request).runIn w
    let source := tokenSource c request (shown w.cache w.clock c request)
    run.1 = (completed engine.mapper c w.replies source).map .user ∧
      run.2.cache = w.cache.erase (.text (stateKey c request)) ∧
      ∃ es result, Course engine.mapper c w.replies source es result ∧
        requests run.2.journal = requests w.journal ++ requests es := by
  intro run source
  have hredirects : c.usesRedirect = true := by
    rw [OAuthConfig.usesRedirect, himplicit]
    rfl
  have hcallback : isCallback c request = true := by
    simpa [stage, hredirects] using hstage
  have hresult : run.1 = _ := result_of_completing hcheck hstage w
  rw [takenBy, if_pos hredirects] at hresult
  obtain ⟨result, events, rest, random, after, hrun, hleg⟩ :=
    leg_authenticate engine config request w
  obtain ⟨es, found, hdeeds, -, hcourse⟩ :=
    course_of_callback hleg hcheck hredirects hcallback
  have haccesses : accesses (deeds events) =
      [.cacheTake (.text (stateKey c request)) (shown w.cache w.clock c request)] := by
    rw [hdeeds, accesses, List.filter_cons_of_pos rfl]
    exact congrArg _ (accesses_of_course hcourse)
  have hcache := (cacheDiscipline_of_leg hleg).cache_eq
  rw [haccesses] at hcache
  refine ⟨hresult, ?_, es, found, hcourse, ?_⟩
  · simp only [run, hrun]
    exact hcache
  · simp only [run, hrun, requests_append]
    rw [← requests_deeds events, hdeeds]
    rfl

/-- An implicit callback without a token ends with what is wrong about it. -/
theorem run_of_fails (hcheck : checkAll config request = .ok c)
    (hstage : stage c request = .completing) (himplicit : c.grantType = .implicit)
    {failure : Failure}
    (hsource : tokenSource c request (shown w.cache w.clock c request) = .fails failure) :
    let run := (authenticate engine config request).runIn w
    run.1 = .error failure ∧ requests run.2.journal = requests w.journal ∧
      run.2.cache = w.cache.erase (.text (stateKey c request)) := by
  intro run
  obtain ⟨hresult, hcache, es, found, hcourse, hrequests⟩ :=
    run_of_implicit engine w hcheck hstage himplicit
  rw [hsource] at hresult hcourse
  cases hcourse
  rw [requests_nil, List.append_nil] at hrequests
  exact ⟨hresult, hrequests, hcache⟩

/-- An implicit callback with a token goes on to fetch the claims. -/
theorem run_of_carries (hcheck : checkAll config request = .ok c)
    (hstage : stage c request = .completing) (himplicit : c.grantType = .implicit)
    {token : AccessToken}
    (hsource : tokenSource c request (shown w.cache w.clock c request) = .carries token) :
    let run := (authenticate engine config request).runIn w
    run.1 = ((claimsOf c.userInfoUrl token.accessToken (nextOf w.replies)).bind fun claims =>
        userOf c (engine.mapper c.platform claims token)).map .user ∧
      requests run.2.journal = requests w.journal ++
        (userInfoCall c.userInfoUrl token.accessToken).request?.toList ∧
      run.2.cache = w.cache.erase (.text (stateKey c request)) := by
  intro run
  obtain ⟨hresult, hcache, es, found, hcourse, hrequests⟩ :=
    run_of_implicit engine w hcheck hstage himplicit
  rw [hsource] at hresult hcourse
  cases hcourse with
  | carried identifies =>
    rw [requests_of_identifies identifies] at hrequests
    exact ⟨hresult, hrequests, hcache⟩

end implicit

/-! ## With and without blanks -/

/-- How a call ends: with the address of a redirect, with a user, or with a kind of failure. -/
def ending (result : Except Failure Outcome) : Except (ErrorKind ⊕ Fault) (Option Text) :=
  (result.map Outcome.redirectUrl?).mapError Failure.kind

/-- Two calls end in the same way, have sent the same requests and leave the same cache. -/
structure Alike (first second : Except Failure Outcome × World) : Prop where
  ending : ending first.1 = ending second.1
  requests : requests first.2.journal = requests second.2.journal
  cache : first.2.cache = second.2.cache

/-- Blank parameters make a difference to a call. -/
inductive BlankTells (engine : Engine) (config : AnyConfig) (request : Request) (w : World) : Prop
  /-- An implicit callback has a blank error that is not empty, which is taken for a refusal. -/
  | refused {c : OAuthConfig} {pending : PendingLogin} {error : Text}
    (callback : ImplicitCallback config request w c pending)
    (given : request.given? "error" = some error) (nonempty : error ≠ [])
  /-- The mapper tells the token of an implicit callback from the token without blanks. -/
  | mapped {c : OAuthConfig} {pending : PendingLogin} {token : AccessToken} {claims : Record}
    (callback : ImplicitCallback config request w c pending)
    (carried : (tokenOfPayload request.record).1 = .ok token)
    (claimed : claimsOf c.userInfoUrl token.accessToken (nextOf w.replies) = .ok claims)
    (differs : ending ((userOf c (engine.mapper c.platform claims token)).map .user) ≠
      ending ((userOf c (engine.mapper c.platform claims token.withoutBlanks)).map .user))

section alike

variable {engine : Engine} {config : AnyConfig} {request : Request} {w : World} {c : OAuthConfig}
  {pending : PendingLogin}

/-- A payload that is no refusal is not taken for one. -/
theorem kind_of_tokenOfPayload {payload : Record} {failure : Failure}
    (hrefusal : refusalIn? payload = none) (h : (tokenOfPayload payload).1 = .error failure) :
    failure.kind ≠ .inl .providerDenied := by
  cases haccess : usableToken? payload with
  | none =>
    simp only [tokenOfPayload, hrefusal, haccess, Except.error.injEq] at h
    rw [← h]
    intro hkind
    cases hkind
  | some accessToken =>
    rw [tokenOfPayload_of_usable hrefusal haccess] at h
    cases hlife : StatedLife.ofDatum ((payload.get? "expires_in").getD .null) with
    | excessive =>
      rw [hlife] at h
      cases h
      intro hkind
      cases hkind
    | _ =>
      rw [hlife] at h
      cases h

theorem ImplicitCallback.withoutBlanks (hnames : request.IsDictionary)
    (h : ImplicitCallback config request w c pending) :
    ImplicitCallback config request.withoutBlanks w c pending where
  admitted := (checkAll_withoutBlanks hnames config).trans h.admitted
  completing := (stage_withoutBlanks hnames c).trans h.completing
  implicit := h.implicit
  judged := (stateCheck_withoutBlanks hnames _).trans h.judged

theorem ImplicitCallback.tokenSource_eq (h : ImplicitCallback config request w c pending) :
    tokenSource c request (shown w.cache w.clock c request) = carriedSource request := by
  rw [tokenSource, h.implicit, h.judged]

/-- A callback that is taken for a refusal differs from the same without its blank error. -/
theorem not_alike_of_refusal (hnames : request.IsDictionary)
    (h : ImplicitCallback config request w c pending) {refusal : AuthError}
    (hrefusal : refusalIn? request.record = some refusal) :
    ¬ Alike ((authenticate engine config request).runIn w)
      ((authenticate engine config request.withoutBlanks).runIn w) := by
  have hkind : refusal.kind = .providerDenied := by
    unfold refusalIn? at hrefusal
    dsimp only at hrefusal
    split at hrefusal
    · rw [← Option.some.inj hrefusal]
      rfl
    · cases hrefusal
  have hsource : carriedSource request = .fails (.auth refusal) := by
    rw [carriedSource, tokenOfPayload, hrefusal]
  obtain ⟨hresult, hrequests, -⟩ := run_of_fails engine h.admitted h.completing
    h.implicit (h.tokenSource_eq.trans hsource)
  have h' := h.withoutBlanks hnames
  have hrefusal' := refusalIn?_withoutBlanks hnames (get_error_of_checkAll h.admitted)
  intro halike
  cases htoken : (tokenOfPayload request.withoutBlanks.record).1 with
  | error failure =>
    have hsource' : carriedSource request.withoutBlanks = .fails failure := by
      rw [carriedSource, htoken]
    obtain ⟨hresult', -, -⟩ := run_of_fails engine h'.admitted h'.completing
      h'.implicit (h'.tokenSource_eq.trans hsource')
    have hending := halike.ending
    rw [hresult, hresult'] at hending
    apply kind_of_tokenOfPayload hrefusal' htoken
    rw [← Except.error.inj hending, Failure.kind, hkind]
  | ok token =>
    have hsource' : carriedSource request.withoutBlanks = .carries token := by
      rw [carriedSource, htoken]
    obtain ⟨hresult', hrequests', -⟩ := run_of_carries engine h'.admitted
      h'.completing h'.implicit (h'.tokenSource_eq.trans hsource')
    have hnone : (userInfoCall c.userInfoUrl token.accessToken).request? = none := by
      have hsame := halike.requests
      rw [hrequests, hrequests'] at hsame
      have hnil := List.self_eq_append_right.1 hsame
      cases hrequest : (userInfoCall c.userInfoUrl token.accessToken).request? with
      | none => rfl
      | some r =>
        rw [hrequest] at hnil
        cases hnil
    obtain ⟨fault, hfault⟩ := recordOfCall_of_request?_none hnone (nextOf w.replies)
    have hending := halike.ending
    rw [hresult, hresult', claimsOf, hfault] at hending
    cases hending

/-- An implicit callback with a wrong state has no token. -/
theorem tokenSource_of_implicit_error {stored : Datum} {failure : Failure}
    (himplicit : c.grantType = .implicit) (hstate : stateCheck request stored = .error failure) :
    tokenSource c request stored = .fails failure := by
  rw [tokenSource, himplicit, hstate]

/-- An implicit sign-in that fails in the same way with and without blank parameters is alike. -/
theorem alike_of_fails (hnames : request.IsDictionary) (hcheck : checkAll config request = .ok c)
    (hstage : stage c request = .completing) (himplicit : c.grantType = .implicit)
    {failure failure' : Failure}
    (hsource : tokenSource c request (shown w.cache w.clock c request) = .fails failure)
    (hsource' : tokenSource c request.withoutBlanks
      (shown w.cache w.clock c request.withoutBlanks) = .fails failure')
    (hkind : failure.kind = failure'.kind) :
    Alike ((authenticate engine config request).runIn w)
      ((authenticate engine config request.withoutBlanks).runIn w) := by
  have hcheck' := (checkAll_withoutBlanks hnames config).trans hcheck
  have hstage' := (stage_withoutBlanks hnames c).trans hstage
  obtain ⟨hresult, hrequests, hcache⟩ := run_of_fails engine hcheck hstage himplicit hsource
  obtain ⟨hresult', hrequests', hcache'⟩ := run_of_fails engine hcheck' hstage' himplicit hsource'
  refine ⟨?_, ?_, ?_⟩
  · rw [hresult, hresult']
    exact congrArg Except.error hkind
  · rw [hrequests, hrequests']
  · rw [hcache, hcache']
    rfl

/-- An implicit callback that carries its token with and without blank parameters is alike if the
mapper ends in the same way on both tokens. -/
theorem alike_iff_of_carries (hnames : request.IsDictionary)
    (h : ImplicitCallback config request w c pending) {token : AccessToken}
    (hsource : carriedSource request = .carries token)
    (hsource' : carriedSource request.withoutBlanks = .carries token.withoutBlanks) :
    Alike ((authenticate engine config request).runIn w)
        ((authenticate engine config request.withoutBlanks).runIn w) ↔
      ∀ claims, claimsOf c.userInfoUrl token.accessToken (nextOf w.replies) = .ok claims →
        ending ((userOf c (engine.mapper c.platform claims token)).map .user) =
          ending ((userOf c (engine.mapper c.platform claims token.withoutBlanks)).map .user) := by
  have h' := h.withoutBlanks hnames
  obtain ⟨hresult, hrequests, hcache⟩ := run_of_carries engine h.admitted h.completing
    h.implicit (h.tokenSource_eq.trans hsource)
  obtain ⟨hresult', hrequests', hcache'⟩ := run_of_carries engine h'.admitted h'.completing
    h'.implicit (h'.tokenSource_eq.trans hsource')
  -- Only the ending is left to compare, for the requests and the cache are the same.
  have hsame : Alike ((authenticate engine config request).runIn w)
      ((authenticate engine config request.withoutBlanks).runIn w) ↔
        ending ((authenticate engine config request).runIn w).1 =
          ending ((authenticate engine config request.withoutBlanks).runIn w).1 := by
    refine ⟨Alike.ending, fun hending => ⟨hending, ?_, ?_⟩⟩
    · rw [hrequests, hrequests']
      rfl
    · rw [hcache, hcache']
      rfl
  have haccess : token.withoutBlanks.accessToken = token.accessToken := rfl
  rw [hsame, hresult, hresult', haccess]
  cases claimsOf c.userInfoUrl token.accessToken (nextOf w.replies) with
  | error failure =>
    refine iff_of_true rfl ?_
    intro claims hfound
    cases hfound
  | ok claims =>
    constructor
    · intro hending found hfound
      obtain rfl := Except.ok.inj hfound
      exact hending
    · exact fun hending => hending claims rfl

/-- A callback that is not taken for a refusal fails in the same way without its blank parameters,
or carries the token without blanks. -/
theorem alike_iff_of_accepted (hnames : request.IsDictionary)
    (h : ImplicitCallback config request w c pending)
    (hrefusal : refusalIn? request.record = none) :
    Alike ((authenticate engine config request).runIn w)
        ((authenticate engine config request.withoutBlanks).runIn w) ↔
      ∀ token claims, (tokenOfPayload request.record).1 = .ok token →
        claimsOf c.userInfoUrl token.accessToken (nextOf w.replies) = .ok claims →
        ending ((userOf c (engine.mapper c.platform claims token)).map .user) =
          ending ((userOf c (engine.mapper c.platform claims token.withoutBlanks)).map .user) := by
  have hpayload := tokenOfPayload_withoutBlanks hnames (get_error_of_checkAll h.admitted) hrefusal
  cases htoken : (tokenOfPayload request.record).1 with
  | error failure =>
    rw [htoken] at hpayload
    cases htoken' : (tokenOfPayload request.withoutBlanks.record).1 with
    | ok token =>
      rw [htoken'] at hpayload
      cases hpayload
    | error failure' =>
      rw [htoken'] at hpayload
      have hsource : carriedSource request = .fails failure := by rw [carriedSource, htoken]
      have hsource' : carriedSource request.withoutBlanks = .fails failure' := by
        rw [carriedSource, htoken']
      have hkind : failure.kind = failure'.kind := (Except.error.inj hpayload).symm
      refine iff_of_true ?_ ?_
      · exact alike_of_fails hnames h.admitted h.completing h.implicit
          (h.tokenSource_eq.trans hsource) ((h.withoutBlanks hnames).tokenSource_eq.trans hsource')
          hkind
      · intro token claims hfound
        cases hfound
  | ok token =>
    rw [htoken] at hpayload
    cases htoken' : (tokenOfPayload request.withoutBlanks.record).1 with
    | error failure =>
      rw [htoken'] at hpayload
      cases hpayload
    | ok other =>
      rw [htoken'] at hpayload
      obtain rfl : other = token.withoutBlanks := Except.ok.inj hpayload
      rw [alike_iff_of_carries hnames h (by rw [carriedSource, htoken])
        (by rw [carriedSource, htoken'])]
      constructor
      · intro hall found claims hfound
        obtain rfl := Except.ok.inj hfound
        exact hall claims
      · exact fun hall claims => hall token claims rfl

/-- A call that is no implicit callback with the right state is the same without blank
parameters. -/
theorem alike_of_no_callback (hnames : request.IsDictionary)
    (h : ¬ ∃ c pending, ImplicitCallback config request w c pending) :
    Alike ((authenticate engine config request).runIn w)
      ((authenticate engine config request.withoutBlanks).runIn w) := by
  by_cases himplicit : ∃ c, checkAll config request = .ok c ∧ stage c request = .completing ∧
      c.grantType = .implicit
  · obtain ⟨c, hcheck, hstage, hgrant⟩ := himplicit
    cases hstate : stateCheck request (shown w.cache w.clock c request) with
    | ok pending => exact absurd ⟨c, pending, hcheck, hstage, hgrant, hstate⟩ h
    | error failure =>
      have hstate' := (stateCheck_withoutBlanks hnames _).trans hstate
      exact alike_of_fails hnames hcheck hstage hgrant
        (tokenSource_of_implicit_error hgrant hstate)
        (tokenSource_of_implicit_error hgrant hstate') rfl
  · rw [authenticate_withoutBlanks hnames fun c hcheck hstage hgrant =>
      himplicit ⟨c, hcheck, hstage, hgrant⟩]
    exact ⟨rfl, rfl, rfl⟩

/-- A call is the same with and without blank parameters unless these make a difference. -/
theorem blanks_absent_iff (hnames : request.IsDictionary) :
    Alike ((authenticate engine config request).runIn w)
        ((authenticate engine config request.withoutBlanks).runIn w) ↔
      ¬ BlankTells engine config request w := by
  by_cases himplicit : ∃ c pending, ImplicitCallback config request w c pending
  · obtain ⟨c, pending, h⟩ := himplicit
    have hunique {d : OAuthConfig} {other : PendingLogin}
        (h' : ImplicitCallback config request w d other) : d = c :=
      Except.ok.inj (h'.admitted.symm.trans h.admitted)
    cases hrefusal : refusalIn? request.record with
    | some refusal =>
      obtain ⟨error, hgiven, hnonempty⟩ := refusalIn?_record.1 (Option.isSome_of_eq_some hrefusal)
      exact iff_of_false (not_alike_of_refusal hnames h hrefusal)
        (not_not_intro (.refused h hgiven hnonempty))
    | none =>
      rw [alike_iff_of_accepted hnames h hrefusal]
      constructor
      · intro hsame htells
        cases htells with
        | refused callback given nonempty =>
          have hrefused := refusalIn?_record.2 ⟨_, given, nonempty⟩
          rw [hrefusal] at hrefused
          cases hrefused
        | mapped callback carried claimed differs =>
          obtain rfl := hunique callback
          exact differs (hsame _ _ carried claimed)
      · intro htells token claims htoken hclaims
        exact Classical.byContradiction fun hdiffers =>
          htells (.mapped h htoken hclaims hdiffers)
  · have htells : ¬ BlankTells engine config request w := by
      intro htells
      cases htells with
      | refused callback => exact himplicit ⟨_, _, callback⟩
      | mapped callback => exact himplicit ⟨_, _, callback⟩
    exact iff_of_true (alike_of_no_callback hnames himplicit) htells

end alike

/-- A client that is handed its token in the callback. -/
def implicitConfig : OAuthConfig :=
  { codeConfig with grantType := .implicit, responseType := .token, enablePkce := false }

/-- A world in which the client has begun a login, and the provider is about to answer with
claims. -/
def implicitWorld : World :=
  { ((Step.authenticate (.oauth implicitConfig) ⟨[], none⟩ []).run hostEngine freshWorld).2 with
    replies := [.answer ⟨200, none, "\x7b\"sub\":\"u1\"\x7d".toUTF8.toList⟩] }

def implicitRequest (name value : Text) : Request :=
  ⟨[("state", "s1"), ("access_token", "t0ken"), (name, value)], none⟩

theorem blankScope_alike :
    (implicitRequest "scope" " ").IsDictionary ∧
      Alike
        ((authenticate hostEngine (.oauth implicitConfig) (implicitRequest "scope" " ")).runIn
          implicitWorld)
        ((authenticate hostEngine (.oauth implicitConfig)
          (implicitRequest "scope" " ").withoutBlanks).runIn implicitWorld) := by
  have hnames : (implicitRequest "scope" " ").IsDictionary := by
    unfold Request.IsDictionary
    decide
  refine ⟨hnames, (blanks_absent_iff hnames).2 ?_⟩
  intro htells
  cases htells with
  | refused callback given nonempty =>
    have hnone : (implicitRequest "scope" " ").given? "error" = none := by decide
    rw [hnone] at given
    cases given
  | mapped callback carried claimed differs => exact differs rfl

/-- Not every blank parameter counts as absent: a blank error is a refusal to the reader of
tokens. -/
theorem blankError_not_alike :
    ¬ ∀ (engine : Engine) (config : AnyConfig) (request : Request) (w : World),
      request.IsDictionary →
      Alike ((authenticate engine config request).runIn w)
        ((authenticate engine config request.withoutBlanks).runIn w) := by
  intro h
  have hnames : (implicitRequest "error" " ").IsDictionary := by
    unfold Request.IsDictionary
    decide
  have hrequests := congrArg List.length
    (h hostEngine (.oauth implicitConfig) (implicitRequest "error" " ") implicitWorld
      hnames).requests
  revert hrequests
  decide +kernel

end OAuth

end SignIn
