import SignIn.Json.Encoding
import SignIn.OAuth.World

/-!
# Calling the provider

A call succeeds when the provider answers with a status of success and a JSON record. A failed
exchange, another status and another body are failures of communication, which keep the text of the
answer for the caller.
-/

namespace SignIn

namespace OAuth

/-- Sends a call and waits for the reply. Nothing but a named host can answer. -/
def send (call : Call) : Action Reply := do
  Action.note (.called call)
  let request ← Action.ofFault (WireRequest.ofCall call)
  Action.note (.sent request)
  match ← Action.nextReply with
  | .answer answer => if request.hasOrigin then return .answer answer else Action.faulty .badValue
  | .failure failure => return .failure failure

def recordOf (url : Text) (answer : Answer) : Action Record := do
  if Json.isTooDeep answer.body then Action.faulty .tooDeep
  match Json.readOctets? answer.body with
  | some (.record fields) => return fields
  | some _ =>
    let body ← Action.ofFault answer.text
    Action.fail (.providerCommunication url (.notObject answer.status body))
  | none =>
    let body ← Action.ofFault answer.text
    Action.fail (.providerCommunication url (.notJson answer.status body))

/-- Sends a call and reads the record in the answer. -/
def requestRecord (call : Call) : Action Record := do
  let method := (Datum.ofText? call.method).display
  let url := (Datum.ofText? call.url).display
  match ← send call with
  | .failure (.http reason) =>
    Action.log .error .oauthHttp [method, " ", url, " failed: ", reason]
    Action.fail (.providerCommunication url (.transport reason))
  | .failure .invalidUrl => Action.faulty .invalidUrl
  | .failure .unencodable => Action.faulty .unencodable
  | .failure .collaborator => Action.faulty .collaborator
  | .answer answer =>
    if answer.isSuccess then recordOf url answer
    else
      let body ← Action.ofFault answer.text
      Action.log .error .oauthHttp
        [method, " ", url, " returned ", Text.ofInt answer.status, ": ", body]
      Action.fail (.providerCommunication url (.status answer.status body))

end OAuth

end SignIn
