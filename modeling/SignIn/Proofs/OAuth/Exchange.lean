import SignIn.OAuth.Engine
import SignIn.Proofs.Http.Wire
import SignIn.Proofs.OAuth.Action

/-!
# Exchanges with a provider

What one call to the provider does, apart from log records: the call is handed to the client, and a
request goes out for it if the call can be written as one. It comes to a record only by an answer of
success that holds one.
-/

namespace SignIn

/-! ## Calls -/

/-- A call posts a form to an address. -/
structure Call.PostsForm (call : Call) (url : Option Text) (form : Record) : Prop where
  method_eq : call.method = some (Text.ofString "POST")
  url_eq : call.url = url
  payload_eq : call.payload = .ok (.form form)
  headers_eq : call.headers =
    Headers.ofTexts [("Content-Type", "application/x-www-form-urlencoded")]

/-- A call gets an address, with an access token as bearer token. -/
structure Call.GetsAsBearer (call : Call) (url : Option Text) (accessToken : Text) : Prop where
  method_eq : call.method = some (Text.ofString "GET")
  url_eq : call.url = url
  payload_eq : call.payload = .ok .nothing
  headers_eq : call.headers =
    Headers.ofTexts [("Authorization", ("Bearer " : Text) ++ accessToken)]

namespace OAuth

theorem postsForm_tokenCall (url : Option Text) (form : Record) :
    (tokenCall url form).PostsForm url form := ⟨rfl, rfl, rfl, rfl⟩

theorem getsAsBearer_userInfoCall (url : Option Text) (accessToken : Text) :
    (userInfoCall url accessToken).GetsAsBearer url accessToken := ⟨rfl, rfl, rfl, rfl⟩

def deedsOf (call : Call) : List Event := .called call :: call.request?.toList.map .sent

/-- A record answers a call: a request went out, and the next reply is an answer with a status of
success whose body holds the record. -/
structure Answers (replies : List Reply) (call : Call) (fields : Record) : Prop where
  isSent : call.request?.isSome = true
  exists_answer : ∃ answer, replies.head? = some (.answer answer) ∧
    200 ≤ answer.status ∧ answer.status ≤ 299 ∧
    Json.readOctets? answer.body = some (.record fields)

/-- Where nothing is left to reply, the answer is no success. -/
theorem head?_of_headD {replies : List Reply} {answer : Answer}
    (h : replies.headD (.answer Answer.notFound) = .answer answer)
    (hsuccess : answer.isSuccess = true) : replies.head? = some (.answer answer) := by
  cases replies with
  | nil =>
    cases h
    exact absurd hsuccess (by decide)
  | cons reply rest => rw [List.head?_cons, ← h, List.headD_cons]

/-- What comes of waiting for the reply to a request. -/
def replyTo (request : WireRequest) : Reply → Except Failure Reply
  | .answer answer => if request.hasOrigin then .ok (.answer answer) else .error (.fault .badValue)
  | .failure failure => .ok (.failure failure)

theorem replyTo_eq_ok {request : WireRequest} {reply other : Reply}
    (h : replyTo request reply = .ok other) : reply = other := by
  unfold replyTo at h
  split at h
  · split at h
    · exact Except.ok.inj h
    · cases h
  · exact Except.ok.inj h

theorem does_send (call : Call) (replies : List Reply) :
    Does (send call) replies fun es rest result => es = deedsOf call ∧
      ∀ reply, result = .ok reply → call.request?.isSome = true ∧ rest = replies.tail ∧
        reply = replies.headD (.answer Answer.notFound) := by
  apply Does.note_bind
  cases hcall : WireRequest.ofCall call with
  | error fault =>
    have hdeeds : deedsOf call = [.called call] := by
      simp [deedsOf, Call.request?, hcall, Except.toOption]
    exact .of_runIn (fun w => rfl) ⟨hdeeds.symm, by simp⟩
  | ok request =>
    have hdeeds : deedsOf call = [.called call, .sent request] := by
      simp [deedsOf, Call.request?, hcall, Except.toOption]
    have hsent : call.request?.isSome = true := by simp [Call.request?, hcall, Except.toOption]
    simp only [Action.ofFault, pure_bind]
    have hreplied : Does Action.nextReply replies fun es rest result =>
        es = [] ∧ rest = replies.tail ∧
          result = .ok (replies.headD (.answer Answer.notFound)) :=
      Does.nextReply ⟨rfl, rfl, rfl⟩
    apply Does.note_bind
    apply hreplied.bind (by simp)
    rintro _ _ reply ⟨rfl, rfl, hreply⟩
    obtain rfl := Except.ok.inj hreply
    have hrun (w : World) : (match replies.headD (.answer Answer.notFound) with
        | .answer answer =>
          if request.hasOrigin then return .answer answer else Action.faulty .badValue
        | .failure failure => return .failure failure : Action Reply).runIn w =
          (replyTo request (replies.headD (.answer Answer.notFound)), w) := by
      cases replies.headD (.answer Answer.notFound) with
      | answer answer =>
        simp only [replyTo]
        split <;> rfl
      | failure failure => rfl
    exact .of_runIn hrun
      ⟨hdeeds.symm, fun reply hreply => ⟨hsent, rfl, (replyTo_eq_ok hreply).symm⟩⟩

/-- The record in an answer is read without any deed. -/
theorem does_recordOf (url : Text) (answer : Answer) (replies : List Reply) :
    Does (recordOf url answer) replies fun es rest result => es = [] ∧ rest = replies ∧
      ∀ fields, result = .ok fields → Json.readOctets? answer.body = some (.record fields) := by
  cases hdeep : Json.isTooDeep answer.body with
  | true => exact .of_runIn (fun w => by rw [recordOf, hdeep]; rfl) ⟨rfl, rfl, by simp⟩
  | false =>
    have hbody (problem : Text → CallProblem) {p : Record → Prop} :
        Does (Action.ofFault answer.text >>= fun body =>
          (Action.fail (.providerCommunication url (problem body)) : Action Record)) replies
          fun es rest result =>
            es = [] ∧ rest = replies ∧ ∀ fields, result = .ok fields → p fields := by
      cases htext : answer.text with
      | error fault => exact .of_runIn (fun w => rfl) ⟨rfl, rfl, by simp⟩
      | ok body => exact .of_runIn (fun w => rfl) ⟨rfl, rfl, by simp⟩
    simp only [recordOf, hdeep, Bool.false_eq_true, if_false]
    split
    · rename_i fields hread
      exact .of_runIn (fun w => rfl)
        ⟨rfl, rfl, fun other hother => by rw [hread, Except.ok.inj hother]⟩
    · exact hbody (.notObject answer.status)
    · exact hbody (.notJson answer.status)

/-- A call comes to a record only if the record answers it. -/
theorem does_requestRecord (call : Call) (replies : List Reply) :
    Does (requestRecord call) replies fun es rest result => es = deedsOf call ∧
      ∀ fields, result = .ok fields → Answers replies call fields ∧ rest = replies.tail := by
  apply (does_send call replies).bind (by simp)
  rintro _ rest reply ⟨rfl, hreply⟩
  obtain ⟨hsent, rfl, rfl⟩ := hreply reply rfl
  have hfailed (parts : List Text) (failure : AuthError) :
      Does (Action.log .error .oauthHttp parts >>= fun _ => (Action.fail failure : Action Record))
        replies.tail fun es rest result => deedsOf call ++ es = deedsOf call ∧
          ∀ fields, result = .ok fields → Answers replies call fields ∧ rest = replies.tail :=
    .log_bind (.of_runIn (fun w => rfl) ⟨by simp, by simp⟩)
  cases hhead : replies.headD (.answer Answer.notFound) with
  | failure failure =>
    cases failure with
    | http reason => exact hfailed _ _
    | invalidUrl => exact .of_runIn (fun w => rfl) ⟨by simp, by simp⟩
    | unencodable => exact .of_runIn (fun w => rfl) ⟨by simp, by simp⟩
    | collaborator => exact .of_runIn (fun w => rfl) ⟨by simp, by simp⟩
  | answer answer =>
    dsimp only
    split
    · rename_i hsuccess
      apply (does_recordOf _ answer _).weaken
      rintro _ _ result ⟨rfl, rfl, hfields⟩
      have hstatus : 200 ≤ answer.status ∧ answer.status ≤ 299 := by
        simpa [Answer.isSuccess] using hsuccess
      exact ⟨by simp, fun fields h => ⟨⟨hsent, answer, head?_of_headD hhead hsuccess, hstatus.1,
        hstatus.2, hfields fields h⟩, rfl⟩⟩
    · cases htext : answer.text with
      | error fault => exact .of_runIn (fun w => rfl) ⟨by simp, by simp⟩
      | ok body => exact hfailed _ _

end OAuth

end SignIn
