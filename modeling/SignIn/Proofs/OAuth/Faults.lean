import SignIn.Proofs.OAuth.Beginning

/-!
# Calls that end in a fault

A call that does not succeed is meant to fail with an error of the library, which tells its cause.
Some inputs make it end in a fault instead. Which ones these are can be told exactly: texts that
cannot be written, addresses and answers that cannot be read, and lives that are too long.
-/

namespace SignIn

namespace OAuth

/-! ## Results without a fault -/

/-- A result is a value or an error of the library. -/
def Typed {α : Type} (result : Except Failure α) : Prop := ∀ fault, result ≠ .error (.fault fault)

section Typed

variable {α β : Type} {result : Except Failure α} {f : α → Except Failure β}

theorem typed_ok (a : α) : Typed (.ok a : Except Failure α) := by
  intro fault h
  cases h

theorem typed_auth (error : AuthError) : Typed (.error (.auth error) : Except Failure α) := by
  intro fault h
  cases h

theorem not_typed_fault (fault : Fault) : ¬ Typed (.error (.fault fault) : Except Failure α) :=
  fun h => h fault rfl

theorem typed_iff_fault? : Typed result ↔ fault? result = none := by
  cases result with
  | ok a => exact iff_of_true (typed_ok a) rfl
  | error failure =>
    cases failure with
    | auth error => exact iff_of_true (typed_auth error) rfl
    | fault fault => exact iff_of_false (not_typed_fault fault) (by simp [fault?])

/-- A computation of two parts comes to no fault if neither part does. -/
theorem typed_bind_iff :
    Typed (result.bind f) ↔ Typed result ∧ ∀ a, result = .ok a → Typed (f a) := by
  cases result with
  | ok a => simp [Except.bind, typed_ok]
  | error failure =>
    have herror : Typed (.error failure : Except Failure β) ↔
        Typed (.error failure : Except Failure α) := by
      rw [typed_iff_fault?, typed_iff_fault?]
      cases failure <;> rfl
    simp [Except.bind, herror]

theorem typed_map_iff {g : α → β} : Typed (result.map g) ↔ Typed result := by
  cases result with
  | ok a => exact iff_of_true (typed_ok (g a)) (typed_ok a)
  | error failure =>
    rw [typed_iff_fault?, typed_iff_fault?]
    cases failure <;> rfl

end Typed

/-! ## Calls to the provider -/

/-- A reply of a provider: an answer, or a failure of the exchange. -/
def IsProvided : Reply → Prop
  | .answer _ => True
  | .failure (.http _) => True
  | .failure _ => False

/-- An answer whose body is quoted, because it is no success or holds no record. -/
def IsQuoted (answer : Answer) : Prop :=
  answer.isSuccess = false ∨ Json.isTooDeep answer.body = false ∧
    ∀ fields, Json.readOctets? answer.body ≠ some (.record fields)

/-- A call that ends in a fault with a reply. -/
inductive CallHazard (call : Call) : Reply → Prop
  /-- The call cannot be written as a request. -/
  | unwritable {reply : Reply} (unsent : call.request? = none) : CallHazard call reply
  /-- The request names no host. -/
  | nowhere {request : WireRequest} {answer : Answer} (sent : call.request? = some request)
    (rootless : request.hasOrigin = false) : CallHazard call (.answer answer)
  /-- The body is nested too deep. -/
  | tooDeep {answer : Answer} (success : answer.isSuccess = true)
    (deep : Json.isTooDeep answer.body = true) : CallHazard call (.answer answer)
  /-- The body is no text in its character set. -/
  | undecodable {answer : Answer} {fault : Fault} (quoted : IsQuoted answer)
    (text : answer.text = .error fault) : CallHazard call (.answer answer)

theorem typed_quoting_iff {answer : Answer} {error : Text → AuthError} :
    Typed (quoting answer error) ↔ ∀ fault, answer.text ≠ .error fault := by
  unfold quoting
  cases answer.text with
  | error fault => exact iff_of_false (not_typed_fault fault) fun h => h fault rfl
  | ok body => exact iff_of_true (typed_auth _) (by simp)

/-- Reading an answer comes to no fault if a record that succeeds is not too deep and a body that is
quoted has a text. -/
theorem typed_recordOfReply_iff {url : Text} {answer : Answer} :
    Typed (recordOfReply url (.answer answer)) ↔
      ¬ (answer.isSuccess = true ∧ Json.isTooDeep answer.body = true) ∧
        (IsQuoted answer → ∀ fault, answer.text ≠ .error fault) := by
  unfold IsQuoted
  simp only [recordOfReply]
  cases answer.isSuccess with
  | false => simp [typed_quoting_iff]
  | true =>
    simp only [if_true, recordIn]
    cases Json.isTooDeep answer.body with
    | true => simpa using not_typed_fault Fault.tooDeep
    | false =>
      cases Json.readOctets? answer.body with
      | none => simp [typed_quoting_iff]
      | some d =>
        cases d with
        | record fields => simpa using typed_ok fields
        | _ => simp [typed_quoting_iff]

/-- A call to a provider comes to no fault unless it meets a hazard. -/
theorem typed_recordOfCall_iff {call : Call} {reply : Reply} (hreply : IsProvided reply) :
    Typed (recordOfCall call reply) ↔ ¬ CallHazard call reply := by
  rw [recordOfCall, replied]
  cases hcall : WireRequest.ofCall call with
  | error fault =>
    have hunsent : call.request? = none := by rw [Call.request?, hcall]; rfl
    exact iff_of_false (not_typed_fault fault) fun h => h (.unwritable hunsent)
  | ok request =>
    have hsent : call.request? = some request := by rw [Call.request?, hcall]; rfl
    have hwritable : ∀ {reply}, call.request? = none → ¬ IsProvided reply := by simp [hsent]
    cases reply with
    | failure failure =>
      cases failure with
      | http reason =>
        refine iff_of_true (typed_auth _) ?_
        rintro ⟨hunsent⟩
        exact hwritable hunsent hreply
      | _ => exact hreply.elim
    | answer answer =>
      cases horigin : request.hasOrigin with
      | false =>
        have hfault : replyTo request (.answer answer) = .error (.fault .badValue) := by
          simp [replyTo, horigin]
        dsimp only
        rw [hfault]
        exact iff_of_false (not_typed_fault _) fun h => h (.nowhere hsent horigin)
      | true =>
        have hanswer : replyTo request (.answer answer) = .ok (.answer answer) := by
          simp [replyTo, horigin]
        dsimp only
        rw [hanswer]
        refine typed_recordOfReply_iff.trans ?_
        constructor
        · rintro ⟨hdeep, htext⟩ hhazard
          cases hhazard with
          | unwritable hunsent => exact hwritable hunsent hreply
          | nowhere hother hrootless =>
            obtain rfl := Option.some.inj (hsent.symm.trans hother)
            rw [horigin] at hrootless
            cases hrootless
          | tooDeep hsuccess hisDeep => exact hdeep ⟨hsuccess, hisDeep⟩
          | undecodable hquoted hfault => exact htext hquoted _ hfault
        · intro hnone
          exact ⟨fun h => hnone (.tooDeep h.1 h.2),
            fun hquoted fault hfault => hnone (.undecodable hquoted hfault)⟩

/-! ## Tokens -/

/-- A payload that holds a usable token with a life too long for one. -/
structure LifeHazard (payload : Record) : Prop where
  accepted : refusalIn? payload = none
  usable : (usableToken? payload).isSome = true
  excessive : StatedLife.ofDatum ((payload.get? "expires_in").getD .null) = .excessive

theorem typed_tokenOfPayload_iff {payload : Record} :
    Typed (tokenOfPayload payload).1 ↔ ¬ LifeHazard payload := by
  unfold tokenOfPayload
  cases hrefusal : refusalIn? payload with
  | some refusal =>
    refine iff_of_true (typed_auth refusal) ?_
    rintro ⟨haccepted, -, -⟩
    rw [hrefusal] at haccepted
    cases haccepted
  | none =>
    cases husable : usableToken? payload with
    | none =>
      refine iff_of_true (typed_auth _) ?_
      rintro ⟨-, hpresent, -⟩
      rw [husable] at hpresent
      cases hpresent
    | some accessToken =>
      have hhazard : LifeHazard payload ↔
          StatedLife.ofDatum ((payload.get? "expires_in").getD .null) = .excessive :=
        ⟨LifeHazard.excessive, fun h => ⟨hrefusal, by rw [husable]; rfl, h⟩⟩
      rw [hhazard]
      dsimp only
      cases StatedLife.ofDatum ((payload.get? "expires_in").getD .null) with
      | absent => exact iff_of_true (typed_ok _) nofun
      | seconds n => exact iff_of_true (typed_ok _) nofun
      | ignored => exact iff_of_true (typed_ok _) nofun
      | excessive => exact iff_of_false (not_typed_fault _) fun h => h rfl

/-- A callback whose state cannot be compared with the pending one. -/
def StateHazard (request : Request) (stored : Datum) : Prop :=
  ∃ pending returned, PendingLogin.ofStored stored = .valid pending ∧
    request.get "state" = some returned ∧
    ¬ (Utf8.encodable pending.state = true ∧ Utf8.encodable returned = true)

/-- Two states can be compared if and only if both have a UTF-8 form. -/
theorem exists_stateMatches_iff {pending : PendingLogin} {returned : Text} :
    (∃ matched, stateMatches pending returned = .ok matched) ↔
      Utf8.encodable pending.state = true ∧ Utf8.encodable returned = true := by
  rw [stateMatches_eq, ← Bool.and_eq_true]
  split
  · rename_i hencodable
    exact iff_of_true ⟨_, rfl⟩ hencodable
  · rename_i hencodable
    exact iff_of_false (by simp) hencodable

theorem typed_stateCheck_iff {request : Request} {stored : Datum} :
    Typed (stateCheck request stored) ↔ ¬ StateHazard request stored := by
  unfold stateCheck
  split
  · refine iff_of_true (typed_auth _) ?_
    rintro ⟨pending, returned, hread, -⟩
    cases hread
  · cases hread : PendingLogin.ofStored stored with
    | overflow => exact absurd hread (PendingLogin.ofStored_ne_overflow stored)
    | invalid issues =>
      refine iff_of_true (typed_auth _) ?_
      rintro ⟨pending, returned, hvalid, -⟩
      rw [hread] at hvalid
      cases hvalid
    | valid pending =>
      cases hget : request.get "state" with
      | none =>
        refine iff_of_true (typed_auth _) ?_
        rintro ⟨other, returned, -, hreturned, -⟩
        rw [hget] at hreturned
        cases hreturned
      | some returned =>
        have hhazard : StateHazard request stored ↔
            ¬ ∃ matched, stateMatches pending returned = .ok matched := by
          rw [exists_stateMatches_iff]
          constructor
          · rintro ⟨other, returned', hother, hreturned, h⟩
            obtain rfl := Validated.valid.inj (hread.symm.trans hother)
            obtain rfl := Option.some.inj (hget.symm.trans hreturned)
            exact h
          · exact fun h => ⟨pending, returned, hread, hget, h⟩
        rw [hhazard, Classical.not_not]
        dsimp only
        cases stateMatches pending returned with
        | error fault => exact iff_of_false (not_typed_fault fault) (by simp)
        | ok matched =>
          refine iff_of_true ?_ ⟨matched, rfl⟩
          cases matched with
          | true => exact typed_ok pending
          | false => exact typed_auth _

/-- Where the token comes from is told without a fault if the state can be compared and, for a token
in the callback, its life is not too long. -/
theorem forall_tokenSource_iff {config : OAuthConfig} {request : Request} {stored : Datum} :
    (∀ fault, tokenSource config request stored ≠ .fails (.fault fault)) ↔
      (config.usesRedirect = true → ¬ StateHazard request stored) ∧
        (config.grantType = .implicit → ∀ pending, stateCheck request stored = .ok pending →
          ¬ LifeHazard request.record) := by
  have hstate : Typed (stateCheck request stored) ↔ _ := typed_stateCheck_iff
  have hlife : Typed (tokenOfPayload request.record).1 ↔ _ := typed_tokenOfPayload_iff
  unfold tokenSource OAuthConfig.usesRedirect
  cases hgrant : config.grantType with
  | clientCredentials => simp [GrantType.usesRedirect]
  | password =>
    refine iff_of_true ?_ (by simp [GrantType.usesRedirect])
    intro fault
    dsimp only
    unfold passwordSource
    split <;> simp
  | authorizationCode =>
    simp only [GrantType.usesRedirect, forall_const, reduceCtorEq, false_imp_iff, and_true]
    rw [← hstate]
    cases stateCheck request stored with
    | error failure => simp [Typed]
    | ok pending =>
      refine iff_of_true ?_ (typed_ok pending)
      intro fault
      dsimp only
      unfold codeSource
      split <;> simp
  | implicit =>
    simp only [GrantType.usesRedirect, forall_const]
    rw [← hstate, ← hlife]
    cases stateCheck request stored with
    | error failure => simp [Typed]
    | ok pending =>
      unfold carriedSource
      cases (tokenOfPayload request.record).1 with
      | error failure => simp [Typed]
      | ok token => simp [typed_ok]

/-! ## Completing calls -/

theorem isProvided_nextOf {replies : List Reply} (h : ∀ reply ∈ replies, IsProvided reply) :
    IsProvided (nextOf replies) := by
  cases replies with
  | nil => trivial
  | cons reply rest => exact h reply List.mem_cons_self

theorem isProvided_repliesAfter {replies : List Reply} (h : ∀ reply ∈ replies, IsProvided reply)
    (source : TokenSource) : ∀ reply ∈ source.repliesAfter replies, IsProvided reply := by
  cases source with
  | asks form => exact fun reply hreply => h reply (List.mem_of_mem_tail hreply)
  | _ => exact h

/-- A completing call that ends in a fault. -/
inductive CompletionHazard (config : OAuthConfig) (request : Request) (stored : Datum)
    (replies : List Reply) : Prop
  /-- The states cannot be compared. -/
  | state (redirects : config.usesRedirect = true) (hazard : StateHazard request stored)
  /-- The token in the callback lives too long. -/
  | carriedLife {pending : PendingLogin} (implicit : config.grantType = .implicit)
    (right : stateCheck request stored = .ok pending) (hazard : LifeHazard request.record)
  /-- The token request meets a hazard. -/
  | tokenCall {form : Record} (asks : tokenSource config request stored = .asks form)
    (hazard : CallHazard (tokenCall config.tokenUrl form) (nextOf replies))
  /-- The token in the answer lives too long. -/
  | answeredLife {form payload : Record} (asks : tokenSource config request stored = .asks form)
    (answered : recordOfCall (tokenCall config.tokenUrl form) (nextOf replies) = .ok payload)
    (hazard : LifeHazard payload)
  /-- The request for the claims meets a hazard. -/
  | claimsCall {token : AccessToken}
    (obtained : tokenOfSource config replies (tokenSource config request stored) = .ok token)
    (hazard : CallHazard (userInfoCall config.userInfoUrl token.accessToken)
      (nextOf ((tokenSource config request stored).repliesAfter replies)))

section completing

variable {mapper : Mapper} {config : OAuthConfig} {request : Request} {stored : Datum}
  {replies : List Reply}

theorem typed_tokenOfSource_iff (hreplies : ∀ reply ∈ replies, IsProvided reply)
    (source : TokenSource) :
    Typed (tokenOfSource config replies source) ↔
      (∀ fault, source ≠ .fails (.fault fault)) ∧ ∀ form, source = .asks form →
        ¬ CallHazard (tokenCall config.tokenUrl form) (nextOf replies) ∧
        ∀ payload, recordOfCall (tokenCall config.tokenUrl form) (nextOf replies) = .ok payload →
          ¬ LifeHazard payload := by
  cases source with
  | fails failure => simp [tokenOfSource, Typed]
  | carries token => simp [tokenOfSource, typed_ok]
  | asks form =>
    simp [tokenOfSource, typed_bind_iff, typed_recordOfCall_iff (isProvided_nextOf hreplies),
      typed_tokenOfPayload_iff]

/-- The claims are made a user of without a fault if their call meets no hazard. -/
theorem typed_identified_iff
    (hmapper : ∀ platform claims token, Typed (mapper platform claims token))
    {reply : Reply} (hreply : IsProvided reply) (token : AccessToken) :
    Typed (identified mapper config reply token) ↔
      ¬ CallHazard (userInfoCall config.userInfoUrl token.accessToken) reply := by
  have huser (claims : Record) : Typed (userOf config (mapper config.platform claims token)) := by
    have hmapped := hmapper config.platform claims token
    cases hfound : mapper config.platform claims token with
    | error failure =>
      intro fault hfault
      exact hmapped fault (hfound.trans (congrArg Except.error (Except.error.inj hfault)))
    | ok found =>
      cases found with
      | none => exact typed_auth _
      | some user => exact typed_ok user
  have hclaims (claims : Record) : Typed (accepted claims) := by
    unfold accepted
    cases refusalIn? claims with
    | some refusal => exact typed_auth refusal
    | none => exact typed_ok claims
  simp only [identified, claimsOf, typed_bind_iff, typed_recordOfCall_iff hreply, hclaims, huser,
    implies_true, and_true]

/-- A completing call comes to no fault unless it meets a hazard. -/
theorem typed_completed_iff
    (hmapper : ∀ platform claims token, Typed (mapper platform claims token))
    (hreplies : ∀ reply ∈ replies, IsProvided reply) :
    Typed (completed mapper config replies (tokenSource config request stored)) ↔
      ¬ CompletionHazard config request stored replies := by
  have hlater := isProvided_nextOf
    (isProvided_repliesAfter hreplies (tokenSource config request stored))
  simp only [completed, typed_bind_iff, typed_tokenOfSource_iff hreplies, forall_tokenSource_iff,
    typed_identified_iff hmapper hlater]
  constructor
  · rintro ⟨⟨⟨hstate, hcarried⟩, hasks⟩, hclaims⟩ hhazard
    cases hhazard with
    | state hredirects hhazard => exact hstate hredirects hhazard
    | carriedLife himplicit hright hhazard => exact hcarried himplicit _ hright hhazard
    | tokenCall hform hhazard => exact (hasks _ hform).1 hhazard
    | answeredLife hform hanswered hhazard => exact (hasks _ hform).2 _ hanswered hhazard
    | claimsCall hobtained hhazard => exact hclaims _ hobtained hhazard
  · intro hnone
    refine ⟨⟨⟨?_, ?_⟩, ?_⟩, ?_⟩
    · exact fun hredirects hhazard => hnone (.state hredirects hhazard)
    · exact fun himplicit _ hright hhazard => hnone (.carriedLife himplicit hright hhazard)
    · exact fun form hform => ⟨fun hhazard => hnone (.tokenCall hform hhazard),
        fun _ hanswered hhazard => hnone (.answeredLife hform hanswered hhazard)⟩
    · exact fun token hobtained hhazard => hnone (.claimsCall hobtained hhazard)

end completing

/-! ## Calls -/

/-- A call that ends in a fault. -/
inductive Hazard (engine : Engine) (config : AnyConfig) (request : Request) (w : World) : Prop
  /-- The login cannot begin. -/
  | beginning {c : OAuthConfig} (admitted : Admitted config request c .initiating)
    (hazard : ¬ CanBegin engine.settings c request w.clock) : Hazard engine config request w
  /-- The sign-in cannot be completed. -/
  | completing {c : OAuthConfig} (admitted : Admitted config request c .completing)
    (hazard : CompletionHazard c request (takenBy c request w) w.replies) :
    Hazard engine config request w

section calls

variable {engine : Engine} {config : AnyConfig} {request : Request} {w : World}

/-- A call that meets a hazard passes the checks. -/
theorem Hazard.exists_checkAll (h : Hazard engine config request w) :
    ∃ c, checkAll config request = .ok c := by
  cases h with
  | beginning hadmitted hazard => exact ⟨_, (admitted_iff.1 hadmitted).1⟩
  | completing hadmitted hazard => exact ⟨_, (admitted_iff.1 hadmitted).1⟩

/-- The checks fail with errors of the library only. -/
theorem typed_checkAll (config : AnyConfig) (request : Request) :
    Typed (checkAll config request) := by
  unfold checkAll
  cases refusal? request with
  | some error => exact typed_auth error
  | none =>
    cases config with
    | oauth c =>
      dsimp only
      cases configProblem? c with
      | some problem => exact typed_auth _
      | none => exact typed_ok c
    | _ => exact typed_auth _

/-- The only hazards of a call are those of its leg. -/
theorem hazard_iff {c : OAuthConfig} (hcheck : checkAll config request = .ok c) :
    Hazard engine config request w ↔
      match stage c request with
      | .initiating => ¬ CanBegin engine.settings c request w.clock
      | .completing => CompletionHazard c request (takenBy c request w) w.replies := by
  constructor
  · intro h
    cases h with
    | beginning hadmitted hazard =>
      obtain ⟨hother, hstage⟩ := admitted_iff.1 hadmitted
      obtain rfl := Except.ok.inj (hcheck.symm.trans hother)
      rwa [hstage]
    | completing hadmitted hazard =>
      obtain ⟨hother, hstage⟩ := admitted_iff.1 hadmitted
      obtain rfl := Except.ok.inj (hcheck.symm.trans hother)
      rwa [hstage]
  · intro h
    cases hstage : stage c request with
    | initiating =>
      rw [hstage] at h
      exact .beginning (admitted_iff.2 ⟨hcheck, hstage⟩) h
    | completing =>
      rw [hstage] at h
      exact .completing (admitted_iff.2 ⟨hcheck, hstage⟩) h

/-- A call ends with a value or an error of the library, if its mapper does and the provider replies
as one, unless it meets a hazard. -/
theorem authenticate_typed_iff
    (hmapper : ∀ platform claims token, Typed (engine.mapper platform claims token))
    (hreplies : ∀ reply ∈ w.replies, IsProvided reply) :
    Typed ((authenticate engine config request).runIn w).1 ↔
      ¬ Hazard engine config request w := by
  cases hcheck : checkAll config request with
  | error failure =>
    rw [result_of_refused hcheck w]
    constructor
    · intro _ hhazard
      obtain ⟨c, hok⟩ := hhazard.exists_checkAll
      rw [hcheck] at hok
      cases hok
    · intro _ fault hfault
      obtain rfl := Except.error.inj hfault
      exact typed_checkAll config request fault hcheck
  | ok c =>
    rw [hazard_iff hcheck]
    cases hstage : stage c request with
    | initiating =>
      rcases result_of_initiating hcheck hstage w with
        ⟨hcan, url, hresult⟩ | ⟨hcannot, fault, hresult⟩
      · rw [hresult]
        exact iff_of_true (typed_ok _) (not_not_intro hcan)
      · rw [hresult]
        exact iff_of_false (not_typed_fault fault) (not_not_intro hcannot)
    | completing =>
      rw [result_of_completing hcheck hstage w, typed_map_iff]
      exact typed_completed_iff hmapper hreplies

end calls

/-- An engine that takes everyone for one user. -/
def hostEngine : Engine :=
  { claimEngine with
    mapper := fun platform claims token => .ok (some ⟨platform, "u1", claims, some token⟩) }

/-- A sign-in that ends with a user meets no hazard. -/
theorem credentialsWorld_meets_no_hazard :
    (∀ platform claims token, Typed (hostEngine.mapper platform claims token)) ∧
      (∀ reply ∈ credentialsWorld.replies, IsProvided reply) ∧
      ¬ Hazard hostEngine (.oauth credentialsConfig) ⟨[], none⟩ credentialsWorld := by
  have hmapper (platform : Text) (claims : Record) (token : AccessToken) :
      Typed (hostEngine.mapper platform claims token) := typed_ok _
  have hreplies : ∀ reply ∈ credentialsWorld.replies, IsProvided reply := by
    simp [credentialsWorld, IsProvided]
  refine ⟨hmapper, hreplies, (authenticate_typed_iff hmapper hreplies).1 (typed_iff_fault?.2 ?_)⟩
  decide +kernel

/-- A provider that answers with a token whose life is too long for one. -/
def longLifeWorld : World :=
  { credentialsWorld with
    replies := [.answer ⟨200, none,
      "\x7b\"access_token\":\"t0ken\",\"expires_in\":1e20\x7d".toUTF8.toList⟩] }

/-- Not every call ends with a value or an error of the library: a token may live too long. -/
theorem longLife_not_typed :
    ¬ ∀ (engine : Engine) (c : OAuthConfig) (request : Request) (w : World),
      (∀ platform claims token, Typed (engine.mapper platform claims token)) →
      (∀ reply ∈ w.replies, IsProvided reply) →
      Typed ((authenticate engine (.oauth c) request).runIn w).1 := by
  intro h
  have htyped := h hostEngine credentialsConfig ⟨[], none⟩ longLifeWorld (fun _ _ _ => typed_ok _)
    (by simp [longLifeWorld, IsProvided])
  have hfault : fault? ((authenticate hostEngine (.oauth credentialsConfig) ⟨[], none⟩).runIn
      longLifeWorld).1 = some .overflow := by decide +kernel
  exact htyped _ (eq_of_fault? hfault)

end OAuth

end SignIn
