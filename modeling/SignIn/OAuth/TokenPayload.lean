import SignIn.Datum.Display
import SignIn.Error
import SignIn.Identity
import SignIn.Log
import SignIn.Number.Numeral
import SignIn.Text.Blank

/-!
# Token payloads

A token endpoint answers with a record, an implicit callback carries one in its parameters. A record
with an error is a refusal, one without a usable access token is malformed, and any other is brought
into the normal form of a token.
-/

namespace SignIn

namespace OAuth

/-- What the life of a token in a payload comes to. -/
inductive StatedLife where
  | absent
  | seconds (count : Int)
  /-- The value is no number. -/
  | ignored
  /-- The number is too large for a life. -/
  | excessive
deriving DecidableEq

namespace StatedLife

def ofInt (n : Int) : StatedLife :=
  if minSeconds ≤ n ∧ n ≤ maxSeconds then .seconds n else .excessive

/-- The life that a value states. Fractions are dropped; texts are read as integers. -/
def ofDatum : Datum → StatedLife
  | .null => .absent
  | .bool b => ofInt (if b then 1 else 0)
  | .int n => ofInt n
  | .real x =>
    match x with
    | .nan => .ignored
    | .infinite _ => .excessive
    | .finite _ _ =>
      match x.truncate? with
      | some n => ofInt n
      | none => .ignored
  | .text t =>
    if t = [] then .absent
    else
      match Numeral.integer? t with
      | some n => ofInt n
      | none => .ignored
  | _ => .ignored

end StatedLife

/-- A field of a payload as a text: the text of its value unless it is absent or null. -/
def payloadText (payload : Record) (name : String) : Option Text :=
  match (payload.get? name).getD .null with
  | .null => none
  | d => some d.display

/-- The refusal in a record: an error that counts as true, with its description as it is. -/
def refusalIn? (payload : Record) : Option AuthError :=
  let error := (payload.get? "error").getD .null
  if error.truthy then
    some (.providerDenied error.display ((payload.get? "error_description").getD .null))
  else none

/-- The access token of a payload, which must be a text that is not blank. -/
def usableToken? (payload : Record) : Option Text :=
  Text.present? ((payload.get? "access_token").bind Datum.text?)

def ignoredLife (value : Datum) : LogRecord :=
  .of .warning .oauthToken ["Ignoring non-numeric expires_in: ", value.quoted]

/-- The token of a payload with a given access token and life. -/
def tokenOf (payload : Record) (accessToken : Text) (life : Option Int) : AccessToken where
  accessToken := accessToken
  tokenType := payloadText payload "token_type"
  expiresIn := life
  refreshToken := payloadText payload "refresh_token"
  scope := payloadText payload "scope"
  idToken := payloadText payload "id_token"
  raw := payload

/-- The token of a payload, and what is logged on the way. -/
def tokenOfPayload (payload : Record) : Except Failure AccessToken × List LogRecord :=
  match refusalIn? payload with
  | some refusal => (.error (.auth refusal), [])
  | none =>
    match usableToken? payload with
    | none => (.error (.auth (.malformedToken payload)), [])
    | some accessToken =>
      let life := (payload.get? "expires_in").getD .null
      match StatedLife.ofDatum life with
      | .absent => (.ok (tokenOf payload accessToken none), [])
      | .seconds n => (.ok (tokenOf payload accessToken (some n)), [])
      | .ignored => (.ok (tokenOf payload accessToken none), [ignoredLife life])
      | .excessive => (.error (.fault .overflow), [])

/-- The token of a value, which must be a record. -/
def tokenOfDatum : Datum → Except Failure AccessToken × List LogRecord
  | .record payload => tokenOfPayload payload
  | _ => (.error (.fault .notText), [])

end OAuth

end SignIn
