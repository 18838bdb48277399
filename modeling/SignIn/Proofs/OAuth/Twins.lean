import SignIn.Proofs.OAuth.Results
import SignIn.Proofs.OAuth.Secrets

/-!
# Twins

Two actions are twins if they write the same log and come to the same kind of end. What a completing
call does once the cache has been asked has a twin for every other choice of the secrets.
-/

namespace SignIn

namespace OAuth

/-! ## Logs -/

def Event.record? : Event → Option LogRecord
  | .logged record => some record
  | _ => none

def logs (events : List Event) : List LogRecord := events.filterMap Event.record?

theorem logs_append (first second : List Event) :
    logs (first ++ second) = logs first ++ logs second :=
  List.filterMap_append

/-! ## Rules -/

variable {α β γ δ : Type}

/-- Two actions that depend on nothing but the replies that are left, and change nothing else but
the journal. They write the same log. Both fail, or their results are in a relation, together with
the replies that they leave. -/
def Twins (action : Action α) (other : Action β) (r s : List Reply)
    (R : α → β → List Reply → List Reply → Prop) : Prop :=
  ∃ result result' events events' rest rest',
    logs events = logs events' ∧ EndAlike (fun a b => R a b rest rest') result result' ∧
    (∀ w : World, w.replies = r → action.runIn w = (result, w.advance rest events)) ∧
    ∀ w : World, w.replies = s → other.runIn w = (result', w.advance rest' events')

namespace Twins

variable {action : Action α} {other : Action β} {next : α → Action γ} {next' : β → Action δ}
  {r s : List Reply} {R : α → β → List Reply → List Reply → Prop}
  {S : γ → δ → List Reply → List Reply → Prop}

theorem bind (h : Twins action other r s R)
    (hnext : ∀ a b r' s', R a b r' s' → Twins (next a) (next' b) r' s' S) :
    Twins (action >>= next) (other >>= next') r s S := by
  obtain ⟨result, result', events, events', rest, rest', hlogs, hends, hrun, hrun'⟩ := h
  rcases hends with ⟨e, e', rfl, rfl⟩ | ⟨a, b, rfl, rfl, hab⟩
  · exact ⟨_, _, events, events', rest, rest', hlogs, .error e e',
      fun w hw => Action.runIn_bind_error (hrun w hw),
      fun w hw => Action.runIn_bind_error (hrun' w hw)⟩
  · obtain ⟨result, result', later, later', last, last', hlater, hends, hnext, hnext'⟩ :=
      hnext a b rest rest' hab
    refine ⟨result, result', events ++ later, events' ++ later', last, last', ?_, hends, ?_, ?_⟩
    · rw [logs_append, logs_append, hlogs, hlater]
    · intro w hw
      rw [Action.runIn_bind_ok (hrun w hw), hnext (w.advance rest events) rfl,
        World.advance_advance]
    · intro w hw
      rw [Action.runIn_bind_ok (hrun' w hw), hnext' (w.advance rest' events') rfl,
        World.advance_advance]

/-- Two actions that come to results without doing anything. -/
theorem of_runIn {result : Except Failure α} {result' : Except Failure β}
    (hrun : ∀ w, action.runIn w = (result, w)) (hrun' : ∀ w, other.runIn w = (result', w))
    (hends : EndAlike (fun a b => R a b r s) result result') : Twins action other r s R := by
  refine ⟨result, result', [], [], r, s, rfl, hends, ?_, ?_⟩
  · rintro w rfl
    rw [hrun, World.advance_self]
  · rintro w rfl
    rw [hrun', World.advance_self]

theorem fail (error error' : AuthError) :
    Twins (Action.fail error : Action α) (Action.fail error' : Action β) r s R :=
  of_runIn (fun _ => rfl) (fun _ => rfl) (.error _ _)

theorem faulty (fault fault' : Fault) :
    Twins (Action.faulty fault : Action α) (Action.faulty fault' : Action β) r s R :=
  of_runIn (fun _ => rfl) (fun _ => rfl) (.error _ _)

/-- Two events are written down before the actions; both are the same log record, or none is
one. -/
theorem note_bind {e f : Event} (hrecord : e.record? = f.record?) (h : Twins action other r s R) :
    Twins (Action.note e >>= fun _ => action) (Action.note f >>= fun _ => other) r s R := by
  have hnote : Twins (Action.note e) (Action.note f) r s fun _ _ r' s' => r' = r ∧ s' = s := by
    refine ⟨.ok (), .ok (), [e], [f], r, s, ?_, .ok ⟨rfl, rfl⟩, ?_, ?_⟩
    · simp only [logs, List.filterMap_cons, hrecord]
    · rintro w rfl
      exact Action.runIn_note e w
    · rintro w rfl
      exact Action.runIn_note f w
  apply hnote.bind
  rintro _ _ _ _ ⟨rfl, rfl⟩
  exact h

theorem log_bind {severity : Severity} {source : LogSource} {parts : List Text}
    (h : Twins action other r s R) :
    Twins (Action.log severity source parts >>= fun _ => action)
      (Action.log severity source parts >>= fun _ => other) r s R :=
  note_bind rfl h

theorem logAll_bind (records : List LogRecord) (h : Twins action other r s R) :
    Twins (Action.logAll records >>= fun _ => action) (Action.logAll records >>= fun _ => other) r s
      R := by
  induction records with
  | nil => exact h
  | cons record records ih =>
    simp only [Action.logAll, bind_assoc]
    exact note_bind rfl ih

theorem nextReply : Twins Action.nextReply Action.nextReply r s fun x y r' s' =>
    x = nextOf r ∧ y = nextOf s ∧ r' = r.tail ∧ s' = s.tail := by
  refine ⟨.ok (nextOf r), .ok (nextOf s), [], [], r.tail, s.tail, rfl, .ok ⟨rfl, rfl, rfl, rfl⟩,
    ?_, ?_⟩
  · rintro w rfl
    exact Action.runIn_nextReply w
  · rintro w rfl
    exact Action.runIn_nextReply w

end Twins

/-! ## Exchanges -/

section exchange

variable {R : Record → Record → Prop} {r s : List Reply}

theorem twins_send {call other : Call} (hcalls : SentAlike call other)
    (hreplies : RepliesMatch R (nextOf r) (nextOf s)) :
    Twins (send call) (send other) r s fun x y r' s' =>
      RepliesMatch R x y ∧ r' = r.tail ∧ s' = s.tail := by
  apply Twins.note_bind (by rfl)
  rcases hcalls with ⟨fault, fault', hcall, hother⟩ | ⟨request, request', hcall, hother, horigin⟩
  · rw [hcall, hother]
    exact .of_runIn (fun w => rfl) (fun w => rfl) (.error _ _)
  · rw [hcall, hother]
    simp only [Action.ofFault, pure_bind]
    apply Twins.note_bind (by rfl)
    apply Twins.nextReply.bind
    rintro x y _ _ ⟨rfl, rfl, rfl, rfl⟩
    generalize nextOf r = x, nextOf s = y at hreplies
    have hanswers {answer answer' : Answer}
        (h : RepliesMatch R (.answer answer) (.answer answer')) :
        Twins (if request.hasOrigin then return .answer answer else Action.faulty .badValue)
          (if request'.hasOrigin then return .answer answer' else Action.faulty .badValue)
          r.tail s.tail fun x y r' s' => RepliesMatch R x y ∧ r' = r.tail ∧ s' = s.tail := by
      rw [horigin]
      split
      · exact .of_runIn (fun w => rfl) (fun w => rfl) (.ok ⟨h, rfl, rfl⟩)
      · exact .faulty _ _
    cases hreplies with
    | same =>
      cases x with
      | answer answer => exact hanswers (.same _)
      | failure failure =>
        exact .of_runIn (fun w => rfl) (fun w => rfl) (.ok ⟨.same _, rfl, rfl⟩)
    | records success status depth read read' related =>
      exact hanswers (.records success status depth read read' related)
    | unreadable success status unread unread' =>
      exact hanswers (.unreadable success status unread unread')

theorem quoting_eq_error (answer : Answer) (error : Text → AuthError) :
    ∃ failure, quoting answer error = .error failure := by
  unfold quoting
  cases answer.text with
  | error fault => exact ⟨_, rfl⟩
  | ok body => exact ⟨_, rfl⟩

theorem runIn_recordOf (url : Text) (answer : Answer) (w : World) :
    (recordOf url answer).runIn w = (recordIn url answer, w) := by
  unfold recordOf recordIn
  cases Json.isTooDeep answer.body with
  | true => rfl
  | false =>
    have hquoting (error : Text → AuthError) :
        (Action.ofFault answer.text >>= fun body =>
          (Action.fail (error body) : Action Record)).runIn w = (quoting answer error, w) := by
      unfold quoting
      cases answer.text <;> rfl
    simp only [Bool.false_eq_true, if_false]
    cases Json.readOctets? answer.body with
    | none => exact hquoting _
    | some value =>
      cases value with
      | record fields => rfl
      | _ => exact hquoting _

/-- Answers that match come to records in the relation, or neither comes to a record. -/
theorem recordIn_alike (hR : ∀ payload, R payload payload) (url : Text) {answer other : Answer}
    (h : RepliesMatch R (.answer answer) (.answer other)) :
    EndAlike R (recordIn url answer) (recordIn url other) := by
  have hunread {a : Answer} (ha : ∀ payload, Json.readOctets? a.body ≠ some (.record payload)) :
      ∃ failure, recordIn url a = .error failure := by
    unfold recordIn
    split
    · exact ⟨_, rfl⟩
    · split
      · rename_i payload hread
        exact absurd hread (ha payload)
      · exact quoting_eq_error _ _
      · exact quoting_eq_error _ _
  cases h with
  | same =>
    exact (EndAlike.refl (recordIn url answer)).imp fun payload _ hsame => hsame ▸ hR payload
  | records success status depth read read' related =>
    unfold recordIn
    rw [depth, read, read']
    split
    · exact .error _ _
    · exact .ok related
  | unreadable success status unread unread' =>
    obtain ⟨failure, hfailure⟩ := hunread unread
    obtain ⟨failure', hfailure'⟩ := hunread unread'
    rw [hfailure, hfailure']
    exact .error _ _

theorem twins_requestRecord (hR : ∀ payload, R payload payload) {call other : Call}
    (hcalls : SentAlike call other) (hmethod : call.method = other.method)
    (hurl : call.url = other.url) (hreplies : RepliesMatch R (nextOf r) (nextOf s))
    (hrest : r.tail = s.tail) :
    Twins (requestRecord call) (requestRecord other) r s fun p q r' s' => R p q ∧ r' = s' := by
  unfold requestRecord
  rw [hmethod, hurl]
  apply (twins_send hcalls hreplies).bind
  rintro x y _ _ ⟨hmatch, rfl, rfl⟩
  have hsuccess {answer answer' : Answer} (h : RepliesMatch R (.answer answer) (.answer answer')) :
      Twins (recordOf (Datum.ofText? other.url).display answer)
        (recordOf (Datum.ofText? other.url).display answer') r.tail s.tail
        fun p q r' s' => R p q ∧ r' = s' :=
    .of_runIn (runIn_recordOf _ _) (runIn_recordOf _ _)
      ((recordIn_alike hR _ h).imp fun _ _ hrelated => ⟨hrelated, hrest⟩)
  cases hmatch with
  | same =>
    cases x with
    | failure failure =>
      cases failure with
      | http reason => exact .log_bind (.fail _ _)
      | _ => exact .faulty _ _
    | answer answer =>
      dsimp only
      split
      · exact hsuccess (.same _)
      · cases answer.text with
        | error fault => exact .of_runIn (fun w => rfl) (fun w => rfl) (.error _ _)
        | ok body => exact .log_bind (.fail _ _)
  | @records answer answer' payload payload' success status depth read read' related =>
    have success' : answer'.isSuccess = true := by rwa [Answer.isSuccess, ← status]
    simp only [success, success', if_true]
    exact hsuccess (.records success status depth read read' related)
  | @unreadable answer answer' success status unread unread' =>
    have success' : answer'.isSuccess = true := by rwa [Answer.isSuccess, ← status]
    simp only [success, success', if_true]
    exact hsuccess (.unreadable success status unread unread')

end exchange

/-! ## Tokens -/

/-- Two access tokens are interchangeable, and the same replies are left. -/
def TokensMatch (token other : AccessToken) (r s : List Reply) : Prop :=
  Interchangeable (fun t => t) token.accessToken other.accessToken ∧ r = s

/-- What the provider replies to a token request and later, in two runs. -/
structure TrafficMatch (r s : List Reply) : Prop where
  first : RepliesMatch PayloadsMatch (nextOf r) (nextOf s)
  rest : r.tail = s.tail

section token

variable {c d : OAuthConfig} {request other : Request} {r s : List Reply}

theorem fieldsMatch_tokenForm (hconfigs : ConfigsMatch c d) {draft draft' : Record}
    (hdrafts : FieldsMatch draft draft') :
    FieldsMatch (tokenForm c draft) (tokenForm d draft') := by
  obtain ⟨hsecrets, -⟩ := hconfigs
  apply FieldsMatch.filled
  have hclient := hdrafts.put "client_id" (.refl (Datum.ofText? c.clientId))
  rcases hsecrets.nonEmpty?.none_or_some with ⟨hnone, hnone'⟩ | ⟨t, u, ht, hu, htu⟩
  · simp only [hnone, hnone']
    exact hclient
  · simp only [ht, hu]
    exact hclient.put _ (htu.map Datum.text)

theorem twins_tokenOfPayload {payload payload' : Record} (h : TokensAlike payload payload')
    (replies : List Reply) :
    Twins
      (Action.logAll (tokenOfPayload payload).2 >>= fun _ =>
        Action.ofExcept (tokenOfPayload payload).1)
      (Action.logAll (tokenOfPayload payload').2 >>= fun _ =>
        Action.ofExcept (tokenOfPayload payload').1)
      replies replies TokensMatch := by
  obtain ⟨hlogs, hends⟩ := tokenOfPayload_alike h
  rw [hlogs]
  apply Twins.logAll_bind
  exact .of_runIn (Action.runIn_ofExcept _) (Action.runIn_ofExcept _)
    (hends.imp fun _ _ htokens => ⟨htokens, rfl⟩)

theorem twins_requestToken (hconfigs : ConfigsMatch c d) {draft draft' : Record}
    (hdrafts : FieldsMatch draft draft') {grant : Datum}
    (hgrant : (tokenForm c draft).get? "grant_type" = some grant)
    (hgrant' : (tokenForm d draft').get? "grant_type" = some grant) (htraffic : TrafficMatch r s) :
    Twins (requestToken c draft) (requestToken d draft') r s TokensMatch := by
  have hforms := fieldsMatch_tokenForm hconfigs hdrafts
  simp only [requestToken, hgrant, hgrant']
  -- the configurations differ in nothing that is read from here on
  obtain ⟨-, -⟩ := hconfigs
  apply Twins.log_bind
  apply (twins_requestRecord AgreeBut.refl (sentAlike_tokenCall _ hforms) rfl rfl
    htraffic.first htraffic.rest).bind
  rintro payload payload' replies _ ⟨hpayloads, rfl⟩
  exact twins_tokenOfPayload (PayloadsMatch.tokensAlike hpayloads) replies

theorem twins_exchange (hconfigs : ConfigsMatch c d) {fields fields' : Record}
    (hfields : FieldsMatch fields fields') (hnames : ∀ f ∈ fields, f.1 ≠ ("grant_type" : Text))
    (htraffic : TrafficMatch r s) :
    Twins (exchange c fields) (exchange d fields') r s TokensMatch := by
  have hnames' : ∀ f ∈ fields', f.1 ≠ ("grant_type" : Text) :=
    hfields.forall_name (fun name => name ≠ "grant_type") hnames
  have hgrant := get?_exchangeForm_grant c hnames
  have hgrant' := get?_exchangeForm_grant d hnames'
  obtain ⟨secrets, passwords⟩ := hconfigs
  have hdrafts := (FieldsMatch.refl (grantForm c)).putAll hfields
  exact twins_requestToken (.intro secrets passwords) hdrafts hgrant hgrant' htraffic

theorem twins_passwordToken (hconfigs : ConfigsMatch c d) (hrequests : RequestsMatch request other)
    (htraffic : TrafficMatch r s) :
    Twins (passwordToken c request) (passwordToken d other) r s TokensMatch := by
  have hconfigs' := hconfigs
  obtain ⟨-, hpasswords⟩ := hconfigs'
  have husername : request.get "username" = other.get "username" := hrequests.get_eq (by decide)
  have hpassword := (hrequests.get "password").or hpasswords.nonEmpty?
  unfold passwordToken
  rw [husername]
  dsimp only
  cases (other.get "username").or (nonEmpty? c.username) with
  | none => exact .fail _ _
  | some username =>
    rcases hpassword.none_or_some with ⟨hnone, hnone'⟩ | ⟨t, u, ht, hu, htu⟩
    · rw [hnone, hnone']
      exact .fail _ _
    · rw [ht, hu]
      refine twins_exchange hconfigs ?_ ?_ htraffic
      · exact .cons ⟨rfl, .refl _⟩ (.cons ⟨rfl, htu.map Datum.text⟩ .nil)
      · exact forall_ne_grant _ _ (by decide) (by decide)

end token

/-! ## The state -/

/-- Two stored values are the same, or logins with interchangeable states and verifiers. -/
inductive StoredMatch : Datum → Datum → Prop
  | same (stored : Datum) : StoredMatch stored stored
  | logins {stored stored' : Datum} {pending pending' : PendingLogin}
    (read : PendingLogin.ofStored stored = .valid pending)
    (read' : PendingLogin.ofStored stored' = .valid pending')
    (states : Interchangeable (fun t => t) pending.state pending'.state)
    (verifiers : Interchangeable some pending.codeVerifier pending'.codeVerifier) :
    StoredMatch stored stored'

/-- Whether a request brings back the state of a stored login. -/
def returnsState (request : Request) (stored : Datum) : Bool :=
  match PendingLogin.ofStored stored with
  | .valid pending => request.get "state" = some pending.state
  | _ => false

section state

variable {c d : OAuthConfig} {request other : Request} {r s : List Reply}

def judgePending (config : OAuthConfig) (request : Request) (pending : PendingLogin) :
    Action PendingLogin := do
  let matched ← match request.get "state" with
    | none => pure false
    | some returned => Action.ofFault (stateMatches pending returned)
  if matched then return pending
  else
    Action.log .warning .oauthEngine
      ["OAuth2 callback rejected: state mismatch for ", config.platform]
    Action.fail (.invalidState .mismatch)

theorem judgeState_of_valid {stored : Datum} {pending : PendingLogin}
    (h : PendingLogin.ofStored stored = .valid pending) :
    judgeState c request stored = judgePending c request pending := by
  cases stored with
  | null => cases h
  | _ =>
    simp only [judgeState, h]
    rfl

theorem twins_judgePending (hconfigs : ConfigsMatch c d) (hrequests : RequestsMatch request other)
    {pending pending' : PendingLogin}
    (hstates : Interchangeable (fun t => t) pending.state pending'.state)
    (hverifiers : Interchangeable some pending.codeVerifier pending'.codeVerifier)
    (hreturns : request.get "state" = some pending.state ↔
      other.get "state" = some pending'.state) :
    Twins (judgePending c request pending) (judgePending d other pending') r s
      fun p q r' s' => Interchangeable some p.codeVerifier q.codeVerifier ∧ r' = r ∧ s' = s := by
  obtain ⟨-, -⟩ := hconfigs
  unfold judgePending
  have hmismatch : Twins
      (Action.log .warning .oauthEngine
        ["OAuth2 callback rejected: state mismatch for ", c.platform] >>= fun _ =>
          (Action.fail (.invalidState .mismatch) : Action PendingLogin))
      (Action.log .warning .oauthEngine
        ["OAuth2 callback rejected: state mismatch for ", c.platform] >>= fun _ =>
          (Action.fail (.invalidState .mismatch) : Action PendingLogin)) r s
      fun p q r' s' => Interchangeable some p.codeVerifier q.codeVerifier ∧ r' = r ∧ s' = s :=
    .log_bind (.fail _ _)
  rcases (hrequests.get "state").none_or_some with ⟨hnone, hnone'⟩ | ⟨t, u, ht, hu, htu⟩
  · rw [hnone, hnone']
    exact hmismatch
  · rw [ht, hu, Option.some.injEq, Option.some.injEq] at hreturns
    rw [ht, hu]
    simp only [stateMatches_eq, hstates.encodable_eq, htu.encodable_eq, hreturns]
    split
    · simp only [Action.ofFault, pure_bind, decide_eq_true_eq]
      split
      · exact .of_runIn (fun w => rfl) (fun w => rfl) (.ok ⟨hverifiers, rfl, rfl⟩)
      · exact hmismatch
    · exact .of_runIn (fun w => rfl) (fun w => rfl) (.error _ _)

theorem twins_judgeState (hconfigs : ConfigsMatch c d) (hrequests : RequestsMatch request other)
    {stored stored' : Datum} (hstored : StoredMatch stored stored')
    (hreturns : returnsState request stored = returnsState other stored') :
    Twins (judgeState c request stored) (judgeState d other stored') r s
      fun p q r' s' => Interchangeable some p.codeVerifier q.codeVerifier ∧ r' = r ∧ s' = s := by
  have hvalid {pending pending' : PendingLogin}
      (hread : PendingLogin.ofStored stored = .valid pending)
      (hread' : PendingLogin.ofStored stored' = .valid pending')
      (hstates : Interchangeable (fun t => t) pending.state pending'.state)
      (hverifiers : Interchangeable some pending.codeVerifier pending'.codeVerifier) :
      Twins (judgeState c request stored) (judgeState d other stored') r s
        fun p q r' s' => Interchangeable some p.codeVerifier q.codeVerifier ∧ r' = r ∧ s' = s := by
    rw [judgeState_of_valid hread, judgeState_of_valid hread']
    simp only [returnsState, hread, hread', decide_eq_decide] at hreturns
    exact twins_judgePending hconfigs hrequests hstates hverifiers hreturns
  cases hstored with
  | logins read read' states verifiers => exact hvalid read read' states verifiers
  | same =>
    cases hread : PendingLogin.ofStored stored with
    | valid pending => exact hvalid hread hread (.refl _) (.refl _)
    | _ =>
      obtain ⟨-, -⟩ := hconfigs
      cases stored with
      | null => exact .log_bind (.fail _ _)
      | _ =>
        simp only [judgeState, hread]
        exact .of_runIn (fun w => rfl) (fun w => rfl) (.error _ _)

/-- Two completing calls obtain interchangeable tokens, or neither obtains any. -/
theorem twins_tokenAfter (hconfigs : ConfigsMatch c d) (hrequests : RequestsMatch request other)
    {stored stored' : Datum} (hstored : StoredMatch stored stored')
    (hreturns : returnsState request stored = returnsState other stored')
    (htraffic : TrafficMatch r s) (himplicit : c.grantType = .implicit → r = s) :
    Twins (tokenAfter c request stored) (tokenAfter d other stored') r s TokensMatch := by
  have hgrants : d.grantType = c.grantType := by cases hconfigs; rfl
  have hjudged : Twins (judgeState c request stored) (judgeState d other stored') r s _ :=
    twins_judgeState hconfigs hrequests hstored hreturns
  unfold tokenAfter
  rw [hgrants]
  cases hgrant : c.grantType with
  | clientCredentials => exact twins_exchange hconfigs .nil (by simp) htraffic
  | password => exact twins_passwordToken hconfigs hrequests htraffic
  | authorizationCode =>
    apply hjudged.bind
    rintro pending pending' _ _ ⟨hverifiers, rfl, rfl⟩
    rcases (hrequests.get "code").none_or_some with ⟨hnone, hnone'⟩ | ⟨t, u, ht, hu, htu⟩
    · rw [hnone, hnone']
      exact .fail _ _
    · rw [ht, hu]
      refine twins_exchange hconfigs ?_ ?_ htraffic
      · exact .cons ⟨rfl, htu.map Datum.text⟩ (.cons ⟨rfl, hverifiers.map Datum.ofText?⟩ .nil)
      · exact forall_ne_grant _ _ (by decide) (by decide)
  | implicit =>
    obtain rfl := himplicit hgrant
    apply hjudged.bind
    rintro pending pending' _ _ ⟨-, rfl, rfl⟩
    exact twins_tokenOfPayload hrequests.tokensAlike _

end state

/-! ## The claims and the user -/

def externalId? : Except Failure (Option User) → Option Text
  | .ok (some user) => some user.externalId
  | _ => none

/-- A mapper tells from the platform and the claims alone whether there is a user, and which
external id the user has. -/
def Mapper.ByClaims (mapper : Mapper) : Prop :=
  ∀ platform claims token token',
    externalId? (mapper platform claims token) = externalId? (mapper platform claims token')

section claims

variable {c d : OAuthConfig} {mapper : Mapper}

theorem twins_fetchUserInfo (url : Option Text) {t u : Text}
    (htokens : Interchangeable (fun t => t) t u) (replies : List Reply) :
    Twins (fetchUserInfo url t) (fetchUserInfo url u) replies replies
      fun claims claims' r s => claims = claims' ∧ r = s := by
  unfold fetchUserInfo
  apply (twins_requestRecord (fun _ => rfl) (sentAlike_userInfoCall url htokens) rfl rfl
    (.same (nextOf replies)) rfl).bind
  rintro claims _ rest _ ⟨rfl, rfl⟩
  cases refusalIn? claims with
  | some refusal => exact .log_bind (.fail _ _)
  | none => exact .of_runIn (fun w => rfl) (fun w => rfl) (.ok ⟨rfl, rfl⟩)

def report (config : OAuthConfig) (found : Except Failure (Option User)) : Action User := do
  match ← Action.ofExcept found with
  | none => Action.fail (.userMapping (.unmapped config.platform))
  | some user =>
    Action.log .info .oauthEngine
      ["OAuth2 login completed: ", config.platform, " (", user.externalId, ")"]
    return user

theorem runIn_report_of_none {found : Except Failure (Option User)}
    (h : externalId? found = none) :
    ∃ failure, ∀ w, (report c found).runIn w = (.error failure, w) := by
  cases found with
  | error failure => exact ⟨failure, fun w => rfl⟩
  | ok user =>
    cases user with
    | none => exact ⟨_, fun w => rfl⟩
    | some user => cases h

theorem eq_of_externalId? {found : Except Failure (Option User)} {id : Text}
    (h : externalId? found = some id) : ∃ user, found = .ok (some user) ∧ user.externalId = id := by
  unfold externalId? at h
  split at h
  · exact ⟨_, rfl, Option.some.inj h⟩
  · cases h

theorem twins_report {found found' : Except Failure (Option User)}
    (h : externalId? found = externalId? found') (r s : List Reply) :
    Twins (report c found) (report c found') r s fun _ _ _ _ => True := by
  cases hid : externalId? found' with
  | none =>
    obtain ⟨failure, hrun⟩ := runIn_report_of_none (h.trans hid)
    obtain ⟨failure', hrun'⟩ := runIn_report_of_none hid
    exact .of_runIn hrun hrun' (.error _ _)
  | some id =>
    obtain ⟨user, rfl, huser⟩ := eq_of_externalId? (h.trans hid)
    obtain ⟨user', rfl, huser'⟩ := eq_of_externalId? hid
    simp only [report, Action.ofExcept, pure_bind, huser, huser']
    exact .log_bind (.of_runIn (fun w => rfl) (fun w => rfl) (.ok trivial))

theorem twins_identify (hmapper : mapper.ByClaims) (hconfigs : ConfigsMatch c d)
    {token other : AccessToken}
    (htokens : Interchangeable (fun t => t) token.accessToken other.accessToken)
    (replies : List Reply) :
    Twins (identify mapper c token) (identify mapper d other) replies replies
      fun _ _ _ _ => True := by
  obtain ⟨-, -⟩ := hconfigs
  apply (twins_fetchUserInfo c.userInfoUrl htokens replies).bind
  rintro claims _ rest _ ⟨rfl, rfl⟩
  apply Twins.note_bind (by rfl)
  exact twins_report (c := c) (hmapper c.platform claims token other) rest rest

/-- Two completing calls write the same log once the cache has been asked. -/
theorem twins_completeAfter (hmapper : mapper.ByClaims) (hconfigs : ConfigsMatch c d)
    {request other : Request} (hrequests : RequestsMatch request other) {stored stored' : Datum}
    (hstored : StoredMatch stored stored')
    (hreturns : returnsState request stored = returnsState other stored') {r s : List Reply}
    (htraffic : TrafficMatch r s) (himplicit : c.grantType = .implicit → r = s) :
    Twins (completeAfter mapper c request stored) (completeAfter mapper d other stored') r s
      fun _ _ _ _ => True := by
  apply (twins_tokenAfter hconfigs hrequests hstored hreturns htraffic himplicit).bind
  rintro token token' replies _ ⟨htokens, rfl⟩
  exact twins_identify hmapper hconfigs htokens replies

end claims

/-! ## Refreshes -/

/-- Two refreshes write the same log. -/
theorem twins_refresh {c d : OAuthConfig} (hconfigs : ConfigsMatch c d) {token other : Datum}
    (htokens : Interchangeable .text token other) {r s : List Reply} (htraffic : TrafficMatch r s) :
    Twins (refresh c token) (refresh d other) r s TokensMatch := by
  have hexchange : Twins (exchangeRefresh c token) (exchangeRefresh d other) r s TokensMatch :=
    twins_requestToken hconfigs (.cons ⟨rfl, .refl _⟩ (.cons ⟨rfl, htokens⟩ .nil))
      (get?_tokenForm_grant c rfl) (get?_tokenForm_grant d rfl) htraffic
  have htruthy : token.truthy = other.truthy :=
    htokens.eq_of_plain true fun t ht => by simp [Datum.truthy, ht.ne_nil]
  have htext := htokens.map Datum.text?
  have hconfigs' := hconfigs
  obtain ⟨-, -⟩ := hconfigs'
  unfold refresh
  rw [htruthy]
  dsimp only
  split
  · split
    · exact .fail _ _
    · rcases htext.none_or_some with ⟨hnone, hnone'⟩ | ⟨t, u, ht, hu, htu⟩
      · rw [hnone, hnone']
        exact .faulty _ _
      · have hblank : t.isBlank = u.isBlank := htu.eq_of_plain false fun _ hplain => hplain.notBlank
        simp only [ht, hu, hblank]
        split
        · exact .fail _ _
        · exact hexchange
  · exact .fail _ _

end OAuth

end SignIn
