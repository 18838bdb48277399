import SignIn.Proofs.OAuth.Legs

/-!
# What completing a sign-in comes to

The result of a completing call as a function of the replies to come: what a reply makes of a call,
which token and which claims follow, and the user that the mapper makes of them.
-/

namespace SignIn

namespace OAuth

/-! ## Calls and replies -/

def nextOf (replies : List Reply) : Reply := replies.headD (.answer Answer.notFound)

/-- A failure that quotes the body of an answer, whose text must be known for that. -/
def quoting (answer : Answer) (error : Text → AuthError) : Except Failure Record :=
  match answer.text with
  | .error fault => .error (.fault fault)
  | .ok body => .error (.auth (error body))

def recordIn (url : Text) (answer : Answer) : Except Failure Record :=
  if Json.isTooDeep answer.body then .error (.fault .tooDeep)
  else
    match Json.readOctets? answer.body with
    | some (.record fields) => .ok fields
    | some _ => quoting answer fun body =>
      .providerCommunication url (.notObject answer.status body)
    | none => quoting answer fun body => .providerCommunication url (.notJson answer.status body)

def recordOfReply (url : Text) : Reply → Except Failure Record
  | .answer answer =>
    if answer.isSuccess then recordIn url answer
    else quoting answer fun body => .providerCommunication url (.status answer.status body)
  | .failure (.http reason) => .error (.auth (.providerCommunication url (.transport reason)))
  | .failure .invalidUrl => .error (.fault .invalidUrl)
  | .failure .unencodable => .error (.fault .unencodable)
  | .failure .collaborator => .error (.fault .collaborator)

/-- What comes back of a call that is replied to. -/
def replied (call : Call) (reply : Reply) : Except Failure Reply :=
  match WireRequest.ofCall call with
  | .error fault => .error (.fault fault)
  | .ok request => replyTo request reply

/-- The record that comes of a call that is replied to. -/
def recordOfCall (call : Call) (reply : Reply) : Except Failure Record :=
  (replied call reply).bind (recordOfReply (Datum.ofText? call.url).display)

/-! ## Actions that come to a result -/

/-- An action comes to a result, and leaves some replies if it succeeds. -/
def ComesTo {α : Type} (action : Action α) (replies : List Reply) (expected : Except Failure α)
    (left : List Reply) : Prop :=
  Does action replies fun _ rest result =>
    result = expected ∧ ∀ a, expected = .ok a → rest = left

namespace ComesTo

variable {α β : Type} {action : Action α} {next : α → Action β} {replies left last : List Reply}
  {expected : Except Failure α} {f : α → Except Failure β}

theorem bind (h : ComesTo action replies expected left)
    (hnext : ∀ a, expected = .ok a → ComesTo (next a) left (f a) last) :
    ComesTo (action >>= next) replies (expected.bind f) last := by
  apply Does.bind h
  · rintro _ rest failure ⟨rfl, -⟩
    exact ⟨rfl, by simp [Except.bind]⟩
  · rintro _ rest a ⟨rfl, hrest⟩
    obtain rfl := hrest a rfl
    exact hnext a rfl

theorem of_runIn (hrun : ∀ w, action.runIn w = (expected, w)) :
    ComesTo action replies expected replies :=
  Does.of_runIn hrun ⟨rfl, fun _ _ => rfl⟩

theorem of_error {failure : Failure} (hrun : ∀ w, action.runIn w = (.error failure, w)) :
    ComesTo action replies (.error failure) left :=
  Does.of_runIn hrun ⟨rfl, by simp⟩

theorem log_bind {severity : Severity} {source : LogSource} {parts : List Text}
    (h : ComesTo action replies expected left) :
    ComesTo (Action.log severity source parts >>= fun _ => action) replies expected left :=
  Does.log_bind h

theorem note_bind {e : Event} (h : ComesTo action replies expected left) :
    ComesTo (Action.note e >>= fun _ => action) replies expected left :=
  Does.note_bind h

theorem logAll_bind {records : List LogRecord} (h : ComesTo action replies expected left) :
    ComesTo (Action.logAll records >>= fun _ => action) replies expected left :=
  Does.logAll_bind h

/-- The result of a run that comes to it. -/
theorem result_eq (h : ComesTo action replies expected left) {w : World}
    (hw : w.replies = replies) : (action.runIn w).1 = expected := by
  obtain ⟨result, events, rest, ⟨rfl, -⟩, hrun⟩ := h
  rw [hrun w hw]

end ComesTo

section calls

variable {replies left : List Reply}

theorem comesTo_fail {α : Type} (error : AuthError) :
    ComesTo (Action.fail error : Action α) replies (.error (.auth error)) left :=
  .of_error fun _ => rfl

theorem comesTo_quoting (answer : Answer) {error : Text → AuthError} {next : Text → Action Record}
    (hnext : ∀ body, ComesTo (next body) replies (.error (.auth (error body))) left) :
    ComesTo (Action.ofFault answer.text >>= next) replies (quoting answer error) left := by
  unfold quoting
  cases answer.text with
  | error fault => exact .of_error fun w => rfl
  | ok body => exact hnext body

theorem comesTo_send (call : Call) :
    ComesTo (send call) replies (replied call (nextOf replies)) replies.tail := by
  unfold replied
  apply ComesTo.note_bind
  cases hcall : WireRequest.ofCall call with
  | error fault => exact .of_error fun w => rfl
  | ok request =>
    have hnext : ComesTo Action.nextReply replies (.ok (nextOf replies)) replies.tail :=
      Does.nextReply ⟨rfl, fun _ _ => rfl⟩
    simp only [Action.ofFault, pure_bind]
    apply ComesTo.note_bind
    apply hnext.bind (f := replyTo request)
    rintro reply -
    cases reply with
    | failure failure => exact .of_runIn fun w => rfl
    | answer answer =>
      apply ComesTo.of_runIn
      intro w
      simp only [replyTo]
      split <;> rfl

theorem comesTo_recordOf (url : Text) (answer : Answer) :
    ComesTo (recordOf url answer) replies (recordIn url answer) replies := by
  unfold recordOf recordIn
  cases Json.isTooDeep answer.body with
  | true => exact .of_error fun w => rfl
  | false =>
    cases Json.readOctets? answer.body with
    | none => exact comesTo_quoting answer fun body => comesTo_fail _
    | some d =>
      cases d with
      | record fields => exact .of_runIn fun w => rfl
      | _ => exact comesTo_quoting answer fun body => comesTo_fail _

theorem comesTo_requestRecord (call : Call) :
    ComesTo (requestRecord call) replies (recordOfCall call (nextOf replies)) replies.tail := by
  apply (comesTo_send call).bind
  rintro reply -
  cases reply with
  | failure failure =>
    cases failure with
    | http reason => exact .log_bind (.of_error fun w => rfl)
    | invalidUrl => exact .of_error fun w => rfl
    | unencodable => exact .of_error fun w => rfl
    | collaborator => exact .of_error fun w => rfl
  | answer answer =>
    simp only [recordOfReply]
    cases answer.isSuccess with
    | true => exact comesTo_recordOf _ answer
    | false => exact comesTo_quoting answer fun body => .log_bind (comesTo_fail _)

end calls

/-! ## Tokens -/

def tokenOfSource (config : OAuthConfig) (replies : List Reply) :
    TokenSource → Except Failure AccessToken
  | .fails failure => .error failure
  | .carries token => .ok token
  | .asks form =>
    (recordOfCall (tokenCall config.tokenUrl form) (nextOf replies)).bind fun payload =>
      (tokenOfPayload payload).1

/-- The replies that are left once a source has given its token. -/
def TokenSource.repliesAfter (replies : List Reply) : TokenSource → List Reply
  | .asks _ => replies.tail
  | _ => replies

section tokens

variable {config : OAuthConfig} {request : Request} {replies : List Reply}

theorem comesTo_tokenOfPayload (payload : Record) :
    ComesTo (Action.logAll (tokenOfPayload payload).2 >>= fun _ =>
      Action.ofExcept (tokenOfPayload payload).1) replies (tokenOfPayload payload).1 replies :=
  .logAll_bind (.of_runIn (Action.runIn_ofExcept _))

def ObtainsFrom (action : Action AccessToken) (config : OAuthConfig) (replies : List Reply)
    (source : TokenSource) : Prop :=
  ComesTo action replies (tokenOfSource config replies source) (source.repliesAfter replies)

theorem obtainsFrom_exchange {fields : Record} (h : ∀ f ∈ fields, f.1 ≠ ("grant_type" : Text)) :
    ObtainsFrom (exchange config fields) config replies (.asks (exchangeForm config fields)) := by
  have hgrant := get?_exchangeForm_grant config h
  unfold exchangeForm at hgrant
  simp only [exchange, requestToken, hgrant]
  refine .log_bind ((comesTo_requestRecord _).bind ?_)
  intro payload _
  exact comesTo_tokenOfPayload payload

theorem comesTo_judgeState (stored : Datum) :
    ComesTo (judgeState config request stored) replies (stateCheck request stored) replies := by
  apply (does_judgeState config request stored replies).weaken
  rintro es rest result ⟨-, hrest, hresult⟩
  exact ⟨hresult, fun _ _ => hrest⟩

/-- A grant with redirect obtains its token once the state is right. -/
theorem obtainsFrom_judged {stored : Datum} {next : PendingLogin → Action AccessToken}
    {source : PendingLogin → TokenSource}
    (h : ∀ pending, ObtainsFrom (next pending) config replies (source pending)) :
    ObtainsFrom (judgeState config request stored >>= next) config replies
      (match stateCheck request stored with
      | .error failure => .fails failure
      | .ok pending => source pending) := by
  have hjudged : ComesTo (judgeState config request stored) replies _ replies :=
    comesTo_judgeState stored
  cases hcheck : stateCheck request stored with
  | error failure =>
    rw [hcheck] at hjudged
    exact hjudged.bind (f := fun pending => tokenOfSource config replies (source pending))
      fun pending hpending => absurd hpending (by simp)
  | ok pending =>
    rw [hcheck] at hjudged
    refine hjudged.bind (f := fun pending => tokenOfSource config replies (source pending)) ?_
    intro other hother
    obtain rfl := Except.ok.inj hother
    exact h pending

theorem obtainsFrom_fail (error : AuthError) :
    ObtainsFrom (Action.fail error) config replies (.fails (.auth error)) :=
  comesTo_fail error

theorem obtainsFrom_passwordToken :
    ObtainsFrom (passwordToken config request) config replies (passwordSource config request) := by
  unfold passwordToken passwordSource
  cases (request.get "username").or (nonEmpty? config.username) with
  | none => exact obtainsFrom_fail _
  | some username =>
    cases (request.get "password").or (nonEmpty? config.password) with
    | none => exact obtainsFrom_fail _
    | some password =>
      apply obtainsFrom_exchange
      exact forall_ne_grant _ _ (by decide) (by decide)

/-- Every grant obtains its token from its source. -/
theorem obtainsFrom_tokenAfter (stored : Datum) :
    ObtainsFrom (tokenAfter config request stored) config replies
      (tokenSource config request stored) := by
  unfold tokenAfter tokenSource
  cases config.grantType with
  | clientCredentials => exact obtainsFrom_exchange (by simp)
  | password => exact obtainsFrom_passwordToken
  | authorizationCode =>
    apply obtainsFrom_judged
    intro pending
    unfold codeSource
    cases request.get "code" with
    | none => exact obtainsFrom_fail _
    | some code =>
      apply obtainsFrom_exchange
      exact forall_ne_grant _ _ (by decide) (by decide)
  | implicit =>
    apply obtainsFrom_judged
    intro pending
    have htoken : ComesTo (Action.logAll (tokenOfPayload request.record).2 >>= fun _ =>
        Action.ofExcept (tokenOfPayload request.record).1) replies _ replies :=
      comesTo_tokenOfPayload request.record
    unfold carriedSource
    cases hpayload : (tokenOfPayload request.record).1 with
    | error failure => rwa [hpayload] at htoken
    | ok token => rwa [hpayload] at htoken

end tokens

/-! ## Users -/

/-- Claims, unless they are a refusal. -/
def accepted (claims : Record) : Except Failure Record :=
  match refusalIn? claims with
  | some refusal => .error (.auth refusal)
  | none => .ok claims

def claimsOf (url : Option Text) (accessToken : Text) (reply : Reply) : Except Failure Record :=
  (recordOfCall (userInfoCall url accessToken) reply).bind accepted

def identified (mapper : Mapper) (config : OAuthConfig) (reply : Reply) (token : AccessToken) :
    Except Failure User :=
  (claimsOf config.userInfoUrl token.accessToken reply).bind fun claims =>
    userOf config (mapper config.platform claims token)

def completed (mapper : Mapper) (config : OAuthConfig) (replies : List Reply)
    (source : TokenSource) : Except Failure User :=
  (tokenOfSource config replies source).bind fun token =>
    identified mapper config (nextOf (source.repliesAfter replies)) token

section users

variable {mapper : Mapper} {config : OAuthConfig} {request : Request} {replies : List Reply}

theorem comesTo_fetchUserInfo (url : Option Text) (accessToken : Text) :
    ComesTo (fetchUserInfo url accessToken) replies (claimsOf url accessToken (nextOf replies))
      replies.tail := by
  apply (comesTo_requestRecord _).bind
  intro claims _
  unfold accepted
  cases refusalIn? claims with
  | some refusal => exact .log_bind (comesTo_fail _)
  | none => exact .of_runIn fun w => rfl

theorem comesTo_identify (token : AccessToken) :
    ComesTo (identify mapper config token) replies
      (identified mapper config (nextOf replies) token) replies.tail := by
  apply (comesTo_fetchUserInfo _ _).bind
  intro claims _
  apply ComesTo.note_bind
  cases mapper config.platform claims token with
  | error failure => exact .of_error fun w => rfl
  | ok found =>
    cases found with
    | none => exact comesTo_fail _
    | some user => exact .log_bind (.of_runIn fun w => rfl)

theorem comesTo_completeAfter (stored : Datum) :
    ComesTo (completeAfter mapper config request stored) replies
      (completed mapper config replies (tokenSource config request stored))
      ((tokenSource config request stored).repliesAfter replies).tail := by
  apply ComesTo.bind (obtainsFrom_tokenAfter stored)
  intro token _
  exact comesTo_identify token

end users

/-! ## Completing calls -/

/-- What a completing call has to compare the state with: what the cache shows, for a grant with
redirect. -/
def takenBy (config : OAuthConfig) (request : Request) (w : World) : Datum :=
  if config.usesRedirect then shown w.cache w.clock config request else .null

/-- A call that has made its access settles with what it has taken. -/
theorem result_of_access {settings : Settings} {mapper : Mapper} {request : Request}
    (opening : Opening) {taken : Datum} {expected : Except Failure Outcome} {left : List Reply}
    {w : World}
    (htouch : (opening.touch settings request w.clock w.cache).result = .ok taken)
    (hsettle : ComesTo (opening.settle mapper request taken) w.replies expected left) :
    ((opening.access settings request >>= fun taken =>
      opening.settle mapper request taken).runIn w).1 = expected := by
  have haccess := runIn_access settings request opening w
  rw [htouch] at haccess
  rw [Action.runIn_bind_ok haccess]
  exact hsettle.result_eq rfl

theorem comesTo_user {mapper : Mapper} {config : OAuthConfig} {request : Request}
    {replies : List Reply} (stored : Datum) :
    ComesTo (completeAfter mapper config request stored >>= fun user => pure (Outcome.user user))
      replies ((completed mapper config replies (tokenSource config request stored)).map .user)
      ((tokenSource config request stored).repliesAfter replies).tail :=
  (comesTo_completeAfter stored).bind fun _ _ => .of_runIn fun _ => rfl

/-- A call that does not pass the checks fails with their error. -/
theorem result_of_refused {engine : Engine} {config : AnyConfig} {request : Request}
    {failure : Failure} (hcheck : checkAll config request = .error failure) (w : World) :
    ((authenticate engine config request).runIn w).1 = .error failure := by
  rw [authenticate_eq, openCall, hcheck]
  rfl

/-- The result of a completing call. -/
theorem result_of_completing {engine : Engine} {config : AnyConfig} {request : Request}
    {c : OAuthConfig} (hcheck : checkAll config request = .ok c)
    (hstage : stage c request = .completing) (w : World) :
    ((authenticate engine config request).runIn w).1 =
      (completed engine.mapper c w.replies (tokenSource c request (takenBy c request w))).map
        .user := by
  have hopen : openCall engine config request =
      pure (if c.usesRedirect then .takes c else .passes c) := by
    simp only [openCall, hcheck, Action.ofExcept, pure_bind, hstage]
  rw [authenticate_eq, hopen, pure_bind]
  unfold takenBy
  cases c.usesRedirect with
  | true => exact result_of_access (.takes c) rfl (comesTo_user _)
  | false => exact result_of_access (.passes c) rfl (comesTo_user _)

end OAuth

end SignIn
