import SignIn.Proofs.OAuth.Exchange
import SignIn.Proofs.Text.Utf8

/-!
# The course of a completing call

What a completing call does once the cache has been asked. First it is told from the request, the
configuration and the stored value where the token is to come from. Then at most two exchanges
follow, one for the token and one for the claims, and at most one use of the mapper. Each of them
happens only if all before it went well.
-/

namespace SignIn

namespace OAuth

/-! ## Forms of token requests -/

def exchangeForm (config : OAuthConfig) (fields : Record) : Record :=
  tokenForm config (putAll (grantForm config) fields)

/-- The form by which a token is requested for a code, with the verifier of its challenge. -/
def codeForm (config : OAuthConfig) (code : Text) (verifier : Option Text) : Record :=
  exchangeForm config [("code", .text code), ("code_verifier", Datum.ofText? verifier)]

theorem get?_filled {form : Record} {name : Text} {value : Datum}
    (h : form.get? name = some value) (hvalue : value ≠ .null) :
    (filled form).get? name = some value := by
  induction form with
  | nil => cases h
  | cons f form ih =>
    obtain ⟨key, v⟩ := f
    unfold Record.get? at h ih ⊢
    by_cases hkey : name = key
    · subst hkey
      rw [List.lookup_cons_self] at h
      cases h
      cases value <;> simp_all [filled]
    · have hne : (name == key) = false := by simpa using hkey
      rw [List.lookup_cons, hne] at h
      have hrest := ih h
      cases v with
      | null => exact hrest
      | _ => exact (List.lookup_cons ..).trans (by rw [hne]; exact hrest)

theorem get?_putAll {form fields : Record} {name : Text} (h : ∀ f ∈ fields, f.1 ≠ name) :
    (putAll form fields).get? name = form.get? name := by
  induction fields generalizing form with
  | nil => rfl
  | cons f fields ih =>
    have hname : name ≠ f.1 := (h f List.mem_cons_self).symm
    have hrest : (putAll (form.put f.1 f.2) fields).get? name = (form.put f.1 f.2).get? name :=
      ih fun g hg => h g (List.mem_cons_of_mem f hg)
    rw [Record.get?_put, if_neg hname] at hrest
    exact hrest

/-- A field of a draft stays in the form if it has a value, unless it is one of the client. -/
theorem get?_tokenForm (config : OAuthConfig) {draft : Record} {name : Text} {value : Datum}
    (hid : name ≠ "client_id") (hsecret : name ≠ "client_secret")
    (h : draft.get? name = some value) (hvalue : value ≠ .null) :
    (tokenForm config draft).get? name = some value := by
  refine get?_filled ?_ hvalue
  cases nonEmpty? config.clientSecret with
  | none => rw [Record.get?_put, if_neg hid, h]
  | some secret => rw [Record.get?_put, if_neg hsecret, Record.get?_put, if_neg hid, h]

/-- The grant of a draft stays in the form. -/
theorem get?_tokenForm_grant (config : OAuthConfig) {draft : Record} {grant : Text}
    (h : draft.get? "grant_type" = some (.text grant)) :
    (tokenForm config draft).get? "grant_type" = some (.text grant) :=
  get?_tokenForm config (by decide) (by decide) h nofun

/-- A form names the client, if the configuration does. -/
theorem get?_tokenForm_client {config : OAuthConfig} {clientId : Text}
    (h : config.clientId = some clientId) (draft : Record) :
    (tokenForm config draft).get? "client_id" = some (.text clientId) := by
  refine get?_filled ?_ nofun
  rw [h]
  cases nonEmpty? config.clientSecret with
  | none => rw [Record.get?_put, if_pos rfl, Datum.ofText?]
  | some secret => rw [Record.get?_put, if_neg (by decide), Record.get?_put, if_pos rfl, Datum.ofText?]

/-- The grant stays in the form, whatever else is put into it. -/
theorem get?_exchangeForm_grant (config : OAuthConfig) {fields : Record}
    (h : ∀ f ∈ fields, f.1 ≠ ("grant_type" : Text)) :
    (exchangeForm config fields).get? "grant_type" = some (.text config.grantType.name) := by
  have hgrant : (putAll (grantForm config) fields).get? "grant_type" =
      some (.text config.grantType.name) := get?_putAll h
  exact get?_tokenForm_grant config hgrant

theorem forall_ne_grant {first second : Text} (d e : Datum) (hfirst : first ≠ "grant_type")
    (hsecond : second ≠ "grant_type") :
    ∀ f ∈ [(first, d), (second, e)], f.1 ≠ ("grant_type" : Text) := by
  simp only [List.forall_mem_cons, List.not_mem_nil, false_imp_iff, implies_true, and_true]
  exact ⟨hfirst, hsecond⟩

/-! ## Where the token comes from -/

/-- States are equal or not, if both have a UTF-8 form. -/
theorem stateMatches_eq (pending : PendingLogin) (returned : Text) :
    stateMatches pending returned =
      if Utf8.encodable pending.state && Utf8.encodable returned then
        .ok (decide (returned = pending.state))
      else .error .unencodable := by
  have hswap : decide (returned = pending.state) = decide (pending.state = returned) :=
    decide_eq_decide.2 eq_comm
  rw [hswap]
  exact Utf8.compare_encode? pending.state returned Fault.unencodable

/-- What the state that came back is worth, given what was stored. -/
def stateCheck (request : Request) : Datum → Except Failure PendingLogin
  | .null => .error (.auth (.invalidState .nothingPending))
  | stored =>
    match PendingLogin.ofStored stored with
    | .invalid _ => .error (.auth (.invalidState .corrupt))
    | .overflow => .error (.fault .overflow)
    | .valid pending =>
      match request.get "state" with
      | none => .error (.auth (.invalidState .mismatch))
      | some returned =>
        match stateMatches pending returned with
        | .ok true => .ok pending
        | .ok false => .error (.auth (.invalidState .mismatch))
        | .error fault => .error (.fault fault)

/-- Where a completing call gets its token from. -/
inductive TokenSource where
  /-- There is none. -/
  | fails (failure : Failure)
  /-- The request carries it. -/
  | carries (token : AccessToken)
  /-- The token endpoint is asked for it by a form. -/
  | asks (form : Record)

/-- Asking for a token with a user name and a password. -/
def passwordSource (config : OAuthConfig) (request : Request) : TokenSource :=
  match (request.get "username").or (nonEmpty? config.username),
    (request.get "password").or (nonEmpty? config.password) with
  | some u, some p =>
    .asks (exchangeForm config [("username", .text u), ("password", .text p)])
  | _, _ => .fails (.auth (.invalidConfig .missingLogin))

def codeSource (config : OAuthConfig) (request : Request) (pending : PendingLogin) : TokenSource :=
  match request.get "code" with
  | none =>
    .fails (.auth (.providerDenied "invalid_request"
      (.text "Callback carries no authorization code")))
  | some code => .asks (codeForm config code pending.codeVerifier)

def carriedSource (request : Request) : TokenSource :=
  match (tokenOfPayload request.record).1 with
  | .error failure => .fails failure
  | .ok token => .carries token

/-- Where the token comes from, given what was stored. Only a grant with redirect looks at it. -/
def tokenSource (config : OAuthConfig) (request : Request) (stored : Datum) : TokenSource :=
  match config.grantType with
  | .clientCredentials => .asks (exchangeForm config [])
  | .password => passwordSource config request
  | .authorizationCode =>
    match stateCheck request stored with
    | .error failure => .fails failure
    | .ok pending => codeSource config request pending
  | .implicit =>
    match stateCheck request stored with
    | .error failure => .fails failure
    | .ok _ => carriedSource request

theorem tokenSource_eq_carries {config : OAuthConfig} {request : Request} {stored : Datum}
    {token : AccessToken} (h : tokenSource config request stored = .carries token) :
    config.grantType = .implicit ∧ (tokenOfPayload request.record).1 = .ok token ∧
      ∃ pending, stateCheck request stored = .ok pending := by
  unfold tokenSource passwordSource codeSource carriedSource at h
  cases hgrant : config.grantType with
  | clientCredentials =>
    rw [hgrant] at h
    cases h
  | password =>
    rw [hgrant] at h
    dsimp only at h
    split at h <;> cases h
  | authorizationCode =>
    rw [hgrant] at h
    dsimp only at h
    split at h
    · cases h
    · split at h <;> cases h
  | implicit =>
    rw [hgrant] at h
    dsimp only at h
    split at h
    · cases h
    · rename_i pending hpending
      split at h
      · cases h
      · rename_i other hother
        cases h
        exact ⟨rfl, hother, pending, hpending⟩

theorem tokenSource_eq_asks {config : OAuthConfig} {request : Request} {stored : Datum}
    {form : Record} (h : tokenSource config request stored = .asks form) :
    config.grantType ≠ .implicit ∧ (config.usesRedirect = true → ∃ pending code,
      stateCheck request stored = .ok pending ∧ request.get "code" = some code ∧
        form = codeForm config code pending.codeVerifier) := by
  unfold tokenSource codeSource carriedSource at h
  unfold OAuthConfig.usesRedirect
  cases hgrant : config.grantType with
  | clientCredentials => exact ⟨by simp, by simp [GrantType.usesRedirect]⟩
  | password => exact ⟨by simp, by simp [GrantType.usesRedirect]⟩
  | authorizationCode =>
    refine ⟨by simp, ?_⟩
    intro _
    rw [hgrant] at h
    dsimp only at h
    split at h
    · cases h
    · rename_i pending hpending
      split at h
      · cases h
      · rename_i code hcode
        cases h
        exact ⟨pending, code, hpending, hcode, rfl⟩
  | implicit =>
    rw [hgrant] at h
    dsimp only at h
    split at h
    · cases h
    · split at h <;> cases h

/-! ## The token -/

/-- A token that an answer to a form holds. -/
def Grants (config : OAuthConfig) (replies : List Reply) (form : Record) (token : AccessToken) :
    Prop :=
  ∃ payload, Answers replies (tokenCall config.tokenUrl form) payload ∧
    (tokenOfPayload payload).1 = .ok token

/-- What obtaining a token from a source comes to. -/
def Obtains (config : OAuthConfig) (replies : List Reply) (source : TokenSource)
    (es : List Event) (rest : List Reply) (result : Except Failure AccessToken) : Prop :=
  match source with
  | .fails failure => es = [] ∧ result = .error failure
  | .carries token => es = [] ∧ rest = replies ∧ result = .ok token
  | .asks form =>
    es = deedsOf (tokenCall config.tokenUrl form) ∧
      ∀ token, result = .ok token → Grants config replies form token ∧ rest = replies.tail

theorem does_tokenOfPayload (payload : Record) (replies : List Reply) :
    Does (Action.logAll (tokenOfPayload payload).2 >>= fun _ =>
      Action.ofExcept (tokenOfPayload payload).1) replies fun es rest result =>
        es = [] ∧ rest = replies ∧ result = (tokenOfPayload payload).1 :=
  .logAll_bind (.of_runIn (Action.runIn_ofExcept _) ⟨rfl, rfl, rfl⟩)

theorem does_exchange (config : OAuthConfig) (fields : Record) (replies : List Reply)
    (h : ∀ f ∈ fields, f.1 ≠ ("grant_type" : Text)) :
    Does (exchange config fields) replies
      (Obtains config replies (.asks (exchangeForm config fields))) := by
  have hgrant := get?_exchangeForm_grant config h
  unfold exchangeForm at hgrant
  simp only [exchange, requestToken, hgrant]
  refine .log_bind ((does_requestRecord _ replies).bind (by simp [Obtains, exchangeForm]) ?_)
  rintro _ _ payload ⟨rfl, h⟩
  obtain ⟨hanswers, rfl⟩ := h payload rfl
  apply (does_tokenOfPayload payload replies.tail).weaken
  rintro _ _ _ ⟨rfl, rfl, rfl⟩
  exact ⟨List.append_nil _, fun token htoken => ⟨⟨payload, hanswers, htoken⟩, rfl⟩⟩

/-- Reads the stored login and compares the state. -/
def judgeState (config : OAuthConfig) (request : Request) (stored : Datum) : Action PendingLogin :=
  match stored with
  | .null => do
    Action.log .warning .oauthEngine
      ["OAuth2 callback rejected: no pending state for ", config.platform]
    Action.fail (.invalidState .nothingPending)
  | stored =>
    match PendingLogin.ofStored stored with
    | .invalid _ => Action.fail (.invalidState .corrupt)
    | .overflow => Action.faulty .overflow
    | .valid pending => do
      let matched ← match request.get "state" with
        | none => pure false
        | some returned => Action.ofFault (stateMatches pending returned)
      if matched then return pending
      else
        Action.log .warning .oauthEngine
          ["OAuth2 callback rejected: state mismatch for ", config.platform]
        Action.fail (.invalidState .mismatch)

theorem consumeState_eq (config : OAuthConfig) (request : Request) :
    consumeState config request =
      Action.cacheTake (.text (stateKey config request)) >>= judgeState config request := rfl

theorem does_judgeState (config : OAuthConfig) (request : Request) (stored : Datum)
    (replies : List Reply) :
    Does (judgeState config request stored) replies fun es rest result =>
      es = [] ∧ rest = replies ∧ result = stateCheck request stored := by
  unfold judgeState stateCheck
  split
  · exact .log_bind (.of_runIn (fun w => rfl) ⟨rfl, rfl, rfl⟩)
  · cases hstored : PendingLogin.ofStored stored with
    | invalid issues => exact .of_runIn (fun w => rfl) ⟨rfl, rfl, rfl⟩
    | overflow => exact .of_runIn (fun w => rfl) ⟨rfl, rfl, rfl⟩
    | valid pending =>
      have hmismatch : Does (Action.log .warning .oauthEngine
          ["OAuth2 callback rejected: state mismatch for ", config.platform] >>= fun _ =>
          (Action.fail (.invalidState .mismatch) : Action PendingLogin)) replies
          fun es rest result => es = [] ∧ rest = replies ∧
            result = .error (.auth (.invalidState .mismatch)) :=
        .log_bind (.of_runIn (fun w => rfl) ⟨rfl, rfl, rfl⟩)
      cases hget : request.get "state" with
      | none => exact hmismatch
      | some returned =>
        rcases hmatches : stateMatches pending returned with fault | matched
        · simp only [hmatches]
          exact .of_runIn (fun w => rfl) ⟨rfl, rfl, rfl⟩
        · cases matched
          · simp only [hmatches]
            exact hmismatch
          · simp only [hmatches]
            exact .of_runIn (fun w => rfl) ⟨rfl, rfl, rfl⟩

def tokenAfter (config : OAuthConfig) (request : Request) (stored : Datum) : Action AccessToken :=
  match config.grantType with
  | .clientCredentials => exchange config []
  | .password => passwordToken config request
  | .authorizationCode => do
    let pending ← judgeState config request stored
    match request.get "code" with
    | none =>
      Action.fail (.providerDenied "invalid_request"
        (.text "Callback carries no authorization code"))
    | some code =>
      exchange config [("code", .text code), ("code_verifier", Datum.ofText? pending.codeVerifier)]
  | .implicit => do
    let _ ← judgeState config request stored
    Action.logAll (tokenOfPayload request.record).2
    Action.ofExcept (tokenOfPayload request.record).1

theorem does_passwordToken (config : OAuthConfig) (request : Request) (replies : List Reply) :
    Does (passwordToken config request) replies
      (Obtains config replies (passwordSource config request)) := by
  unfold passwordToken passwordSource
  cases (request.get "username").or (nonEmpty? config.username) with
  | none => exact .of_runIn (fun w => rfl) ⟨rfl, rfl⟩
  | some username =>
    cases (request.get "password").or (nonEmpty? config.password) with
    | none => exact .of_runIn (fun w => rfl) ⟨rfl, rfl⟩
    | some password =>
      apply does_exchange
      exact forall_ne_grant _ _ (by decide) (by decide)

/-- A grant with redirect goes on if the state is right, and fails otherwise. -/
theorem does_judged {config : OAuthConfig} {request : Request} {stored : Datum}
    {replies : List Reply} {next : PendingLogin → Action AccessToken}
    (source : PendingLogin → TokenSource)
    (h : ∀ pending, Does (next pending) replies (Obtains config replies (source pending))) :
    Does (judgeState config request stored >>= next) replies
      (Obtains config replies
        (match stateCheck request stored with
        | .error failure => .fails failure
        | .ok pending => source pending)) := by
  apply (does_judgeState config request stored replies).bind
  · rintro _ _ failure ⟨rfl, rfl, hcheck⟩
    rw [← hcheck]
    exact ⟨rfl, rfl⟩
  · rintro _ _ pending ⟨rfl, rfl, hcheck⟩
    rw [← hcheck]
    exact h pending

theorem does_tokenAfter (config : OAuthConfig) (request : Request) (stored : Datum)
    (replies : List Reply) :
    Does (tokenAfter config request stored) replies
      (Obtains config replies (tokenSource config request stored)) := by
  unfold tokenAfter tokenSource
  split
  · exact does_exchange config [] replies (by simp)
  · exact does_passwordToken config request replies
  · apply does_judged (codeSource config request)
    intro pending
    unfold codeSource
    split
    · exact .of_runIn (fun w => rfl) ⟨rfl, rfl⟩
    · apply does_exchange
      exact forall_ne_grant _ _ (by decide) (by decide)
  · apply does_judged fun _ => carriedSource request
    intro pending
    apply (does_tokenOfPayload request.record replies).weaken
    rintro _ _ _ ⟨rfl, rfl, rfl⟩
    unfold carriedSource
    cases htoken : (tokenOfPayload request.record).1 with
    | error failure => exact ⟨rfl, rfl⟩
    | ok token => exact ⟨rfl, rfl, rfl⟩

/-! ## The claims and the user -/

theorem does_fetchUserInfo (url : Option Text) (accessToken : Text) (replies : List Reply) :
    Does (fetchUserInfo url accessToken) replies fun es _ result =>
      es = deedsOf (userInfoCall url accessToken) ∧ ∀ claims, result = .ok claims →
        Answers replies (userInfoCall url accessToken) claims ∧ refusalIn? claims = none := by
  refine (does_requestRecord _ replies).bind (by simp) ?_
  rintro _ _ claims ⟨rfl, h⟩
  obtain ⟨hanswers, rfl⟩ := h claims rfl
  cases hrefusal : refusalIn? claims with
  | some refusal => exact .log_bind (.of_runIn (fun w => rfl) ⟨by simp, by simp⟩)
  | none =>
    refine .of_runIn (fun w => rfl) ⟨by simp, ?_⟩
    intro other hother
    obtain rfl := Except.ok.inj hother
    exact ⟨hanswers, hrefusal⟩

def userOf (config : OAuthConfig) : Except Failure (Option User) → Except Failure User
  | .error failure => .error failure
  | .ok none => .error (.auth (.userMapping (.unmapped config.platform)))
  | .ok (some user) => .ok user

/-- What a token comes to: the claims are fetched with it, and they are handed to the mapper if they
are no refusal. -/
inductive Identifies (mapper : Mapper) (config : OAuthConfig) (replies : List Reply)
    (token : AccessToken) : List Event → Except Failure User → Prop
  | unclaimed (failure : Failure) :
    Identifies mapper config replies token
      (deedsOf (userInfoCall config.userInfoUrl token.accessToken)) (.error failure)
  | mapped {claims : Record}
    (answers : Answers replies (userInfoCall config.userInfoUrl token.accessToken) claims)
    (accepted : refusalIn? claims = none) :
    Identifies mapper config replies token
      (deedsOf (userInfoCall config.userInfoUrl token.accessToken) ++
        [.mapped config.platform claims token])
      (userOf config (mapper config.platform claims token))

def identify (mapper : Mapper) (config : OAuthConfig) (token : AccessToken) : Action User := do
  let claims ← fetchUserInfo config.userInfoUrl token.accessToken
  Action.note (.mapped config.platform claims token)
  match ← Action.ofExcept (mapper config.platform claims token) with
  | none => Action.fail (.userMapping (.unmapped config.platform))
  | some user =>
    Action.log .info .oauthEngine
      ["OAuth2 login completed: ", config.platform, " (", user.externalId, ")"]
    return user

theorem does_identify (mapper : Mapper) (config : OAuthConfig) (token : AccessToken)
    (replies : List Reply) :
    Does (identify mapper config token) replies fun es _ result =>
      Identifies mapper config replies token es result := by
  apply (does_fetchUserInfo config.userInfoUrl token.accessToken replies).bind
  · rintro _ _ failure ⟨rfl, -⟩
    exact .unclaimed failure
  · rintro _ rest claims ⟨rfl, h⟩
    obtain ⟨hanswers, haccepted⟩ := h claims rfl
    have hmapped : Identifies mapper config replies token _ _ := .mapped hanswers haccepted
    apply Does.note_bind
    cases huser : mapper config.platform claims token with
    | error failure =>
      rw [huser] at hmapped
      exact .of_runIn (fun w => rfl) hmapped
    | ok found =>
      rw [huser] at hmapped
      cases found with
      | none => exact .of_runIn (fun w => rfl) hmapped
      | some user => exact .log_bind (.of_runIn (fun w => rfl) hmapped)

/-! ## The whole course -/

/-- The deeds and the result of a completing call after the cache has been asked. -/
inductive Course (mapper : Mapper) (config : OAuthConfig) (replies : List Reply) :
    TokenSource → List Event → Except Failure User → Prop
  | refused (failure : Failure) : Course mapper config replies (.fails failure) [] (.error failure)
  | carried {token : AccessToken} {es : List Event} {result : Except Failure User}
    (identifies : Identifies mapper config replies token es result) :
    Course mapper config replies (.carries token) es result
  | unobtained (form : Record) (failure : Failure) :
    Course mapper config replies (.asks form) (deedsOf (tokenCall config.tokenUrl form))
      (.error failure)
  | obtained {form : Record} {token : AccessToken} {es : List Event}
    {result : Except Failure User} (grants : Grants config replies form token)
    (identifies : Identifies mapper config replies.tail token es result) :
    Course mapper config replies (.asks form) (deedsOf (tokenCall config.tokenUrl form) ++ es)
      result

theorem course_of_error {mapper : Mapper} {config : OAuthConfig} {replies rest : List Reply}
    {source : TokenSource} {es : List Event} {failure : Failure}
    (h : Obtains config replies source es rest (.error failure)) :
    Course mapper config replies source es (.error failure) := by
  cases source with
  | fails other =>
    obtain ⟨rfl, hother⟩ := h
    rw [Except.error.inj hother]
    exact .refused other
  | carries token =>
    obtain ⟨-, -, hother⟩ := h
    cases hother
  | asks form =>
    obtain ⟨rfl, -⟩ := h
    exact .unobtained form failure

theorem course_of_ok {mapper : Mapper} {config : OAuthConfig} {replies rest : List Reply}
    {source : TokenSource} {es es' : List Event} {token : AccessToken}
    {result : Except Failure User} (h : Obtains config replies source es rest (.ok token))
    (hidentifies : Identifies mapper config rest token es' result) :
    Course mapper config replies source (es ++ es') result := by
  cases source with
  | fails failure =>
    obtain ⟨-, hother⟩ := h
    cases hother
  | carries other =>
    obtain ⟨rfl, rfl, hother⟩ := h
    obtain rfl := Except.ok.inj hother
    exact .carried hidentifies
  | asks form =>
    obtain ⟨rfl, htoken⟩ := h
    obtain ⟨hgrants, rfl⟩ := htoken token rfl
    exact .obtained hgrants hidentifies

def completeAfter (mapper : Mapper) (config : OAuthConfig) (request : Request) (stored : Datum) :
    Action User :=
  tokenAfter config request stored >>= identify mapper config

theorem does_completeAfter (mapper : Mapper) (config : OAuthConfig) (request : Request)
    (stored : Datum) (replies : List Reply) :
    Does (completeAfter mapper config request stored) replies fun es _ result =>
      Course mapper config replies (tokenSource config request stored) es result := by
  apply (does_tokenAfter config request stored replies).bind
  · intro es rest failure hobtains
    exact course_of_error hobtains
  · intro es rest token hobtains
    apply (does_identify mapper config token rest).weaken
    intro es' _ result hidentifies
    exact course_of_ok hobtains hidentifies

end OAuth

end SignIn
