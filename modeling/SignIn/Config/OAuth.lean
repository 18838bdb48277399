import SignIn.Error
import SignIn.Text.Blank
import SignIn.Validation.Reading

/-!
# Configuration of an OAuth provider

Everything about one provider and one client. Only the shape is validated on reading; which fields a
grant needs is checked when a sign-in begins.
-/

namespace SignIn

namespace Scopes

/-- Leaves out the later occurrences of every scope. -/
def distinct : List Text → List Text
  | [] => []
  | s :: rest => s :: (distinct rest).filter (· ≠ s)

/-- The scopes that are not blank, each at its first occurrence. -/
def normalize (scopes : List Text) : List Text := distinct (scopes.filter fun s => !s.isBlank)

/-- The texts among the items of a list, without the items that count as false. An item that counts
as true and is no text is a fault. -/
def texts : List Datum → Except Fault (List Text)
  | [] => .ok []
  | .text t :: rest => (texts rest).map fun ts => if t.isEmpty then ts else t :: ts
  | d :: rest => if d.truthy then .error .notText else texts rest

/-- The scopes of a value: a text of words, a list, the names of a record, or null for none. -/
def ofDatum : Datum → Except Fault (List Text)
  | .null => .ok []
  | .text t => .ok (normalize t.words)
  | .list items => (texts items).map normalize
  | .record fields => .ok (normalize (fields.map (·.1)))
  | _ => .error .wrongType

end Scopes

structure OAuthConfig where
  platform : Text
  clientId : Option Text
  clientSecret : Option Text
  authorizationUrl : Option Text
  tokenUrl : Option Text
  userInfoUrl : Option Text
  /-- Where the provider sends the user back. -/
  callbackUrl : Option Text
  scopes : List Text
  grantType : GrantType
  responseType : ResponseType
  enablePkce : Bool
  challengeMethod : ChallengeMethod
  /-- The state of the caller, which is used instead of a random one when it is not blank. -/
  state : Option Text
  /-- How many seconds a login may stay pending. -/
  verifierTimeout : Option { n : Nat // 0 < n }
  username : Option Text
  password : Option Text
deriving DecidableEq

namespace OAuthConfig

def usesRedirect (c : OAuthConfig) : Bool := c.grantType.usesRedirect

open Reading in
/-- The configuration of a record whose scopes have been read. -/
def validate (fields : Record) (scopes : List Text) : Validated OAuthConfig :=
  OAuthConfig.mk <$> field fields "platform" "oauth2" text
    <*> optionalText fields "client_id"
    <*> optionalText fields "client_secret"
    <*> optionalText fields "authorization_url"
    <*> optionalText fields "token_url"
    <*> optionalText fields "userinfo_url"
    <*> optionalText fields "callback_url"
    <*> .valid scopes
    <*> field fields "grant_type" .authorizationCode (choice .enum GrantType.name GrantType.all)
    <*> field fields "response_type" .code (choice .enum ResponseType.name ResponseType.all)
    <*> field fields "enable_pkce" false bool
    <*> field fields "code_challenge_method" .s256
      (choice .enum ChallengeMethod.name ChallengeMethod.all)
    <*> optionalText fields "state"
    <*> field fields "code_verifier_timeout" none (optional positive)
    <*> optionalText fields "username"
    <*> optionalText fields "password"

/-- Reads a configuration. A fault in the scopes comes before all issues. -/
def ofRecord (fields : Record) : Except Failure OAuthConfig :=
  match Scopes.ofDatum ((fields.get? "scopes").getD .null) with
  | .error fault => .error (.fault fault)
  | .ok scopes => (validate fields scopes).orFail

end OAuthConfig

end SignIn
