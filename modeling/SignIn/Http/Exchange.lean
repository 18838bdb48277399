import SignIn.Codec.Base64
import SignIn.Codec.Form
import SignIn.Datum.Pairs
import SignIn.Http.ContentType
import SignIn.Text.Upper
import SignIn.Url.Address

/-!
# Calls to a provider and their answers

A call is what a part of the library asks for; a wire request is what goes out for it. The address
is normalised, headers and the host must be ASCII, and the fields of a form become the body. User
information in the address takes the place of an authorization header.
-/

namespace SignIn

inductive Payload where
  | nothing
  | form (fields : Record)
  /-- A text as it is. -/
  | plain (content : Text)

namespace Payload

/-- The payload that a value gives. A list gives its items one after the other, which must be
octets; no value has such items. -/
def ofDatum : Datum → Except Fault Payload
  | .null => .ok .nothing
  | .list [] => .ok .nothing
  | .record fields => .ok (.form fields)
  | .text content => .ok (.plain content)
  | _ => .error .wrongType

/-- The body of a payload, if its texts have a UTF-8 form. -/
def body? : Payload → Option Text
  | .nothing => some []
  | .form fields => Form.encode? (Form.ofRecord fields)
  | .plain content => if Utf8.encodable content then some content else none

def contentType? : Payload → Option Text
  | .form (_ :: _) => some "application/x-www-form-urlencoded"
  | _ => none

end Payload

namespace Headers

/-- A header of a name and a value, which must be texts of ASCII characters. -/
def header : Datum × Datum → Except Fault (Text × Text)
  | (.text name, value) =>
    if !name.all CodePoint.isAscii then .error .unencodable
    else
      match value with
      | .text value =>
        if value.all CodePoint.isAscii then .ok (name, value) else .error .unencodable
      | _ => .error .wrongType
  | _ => .error .notText

/-- The headers that a value gives: none, those of a record, or those of a list of pairs. -/
def ofDatum : Datum → Except Fault Fields
  | .null => .ok []
  | .record fields => fields.mapM fun f => header (.text f.1, f.2)
  | d => do (← d.items).mapM fun item => do header (← item.pair)

def ofTexts (fields : Fields) : Except Fault Fields :=
  fields.mapM fun f => header (.text f.1, .text f.2)

end Headers

/-- A call to a provider. What is not of the right kind makes the request fail. -/
structure Call where
  /-- The method; none where a value stands in its place that is no text. -/
  method : Option Text
  /-- The address; none where a value stands in its place that is no text. -/
  url : Option Text
  payload : Except Fault Payload
  headers : Except Fault Fields

structure WireRequest where
  method : Text
  url : Text
  contentType : Option Text
  authorization : Option Text
  body : Text
deriving DecidableEq

/-- Whether a request names the host that is to answer it. An address without one begins at the
root. -/
def WireRequest.hasOrigin (w : WireRequest) : Bool := w.url.head? ≠ some (CodePoint.ofChar '/')

inductive TransportFailure where
  /-- A failure of the exchange, with its reason. -/
  | http (reason : Text)
  | invalidUrl
  /-- What comes back cannot be put into octets. -/
  | unencodable
  /-- A failure that has nothing to do with the exchange. -/
  | collaborator
deriving DecidableEq

structure Answer where
  status : Int
  contentType : Option Text
  body : Octets
deriving DecidableEq

/-- What comes of a request. -/
inductive Reply where
  | answer (answer : Answer)
  | failure (failure : TransportFailure)
deriving DecidableEq

namespace Answer

/-- The answer of a provider that has nothing to say. -/
def notFound : Answer := ⟨404, none, "not found".toUTF8.toList⟩

def isSuccess (a : Answer) : Bool := 200 ≤ a.status && a.status ≤ 299

/-- The text of the body by the character set of the content type. No body has the empty text. -/
def text (a : Answer) : Except Fault Text := do
  if a.body = [] then return []
  (← ContentType.charset a.contentType).text a.body

end Answer

/-- The reply of a provider that answers with a content type and a body. A content type must be
ASCII, and a body must have octets. -/
def Reply.ofAnswer (status : Int) (contentType : Option Text) (body : Option Octets) : Reply :=
  match body with
  | some body =>
    if contentType.all fun t => t.all CodePoint.isAscii then .answer ⟨status, contentType, body⟩
    else .failure .unencodable
  | none => .failure .unencodable

namespace WireRequest

/-- The value of a header, whose name may be in any case. Several values are joined. -/
def header? (name : String) (headers : Fields) : Option Text :=
  match headers.filter fun h => h.1.toAsciiLower = Text.ofString name with
  | [] => none
  | found => some (Text.joinWith ", " (found.map (·.2)))

def basic (login : Text × Text) : Except Fault Text :=
  match Utf8.encode? login.1, Utf8.encode? login.2 with
  | some name, some password => .ok (("Basic " : Text) ++ Base64.encode (name ++ 0x3A :: password))
  | _, _ => .error .unencodable

def ofCall (call : Call) : Except Fault WireRequest := do
  let url ←
    match call.url with
    | some url => Url.parse url
    | none => .error .wrongType
  let url := url.fromRoot
  let headers ← call.headers
  let method ←
    match call.method with
    | some method => .ok method.toUpper
    | none => .error .notText
  let payload ← call.payload
  let body ←
    match payload.body? with
    | some body => .ok body
    | none => .error .unencodable
  if !url.host.all CodePoint.isAscii then throw .unencodable
  let authorization ←
    match url.login? with
    | some login => (basic login).map some
    | none => .ok (header? "authorization" headers)
  return {
    method := method
    url := url.toText
    contentType := (header? "content-type" headers).or payload.contentType?
    authorization := authorization
    body := body }

end WireRequest

end SignIn
