import SignIn.Config.OAuth
import SignIn.OAuth.AuthorizationUrl
import SignIn.OAuth.Provider
import SignIn.OAuth.TokenPayload

/-!
# The token endpoint

A token is requested by a form. Its fields come from the configuration and from the grant; a field
without a value is left out, and a field that is given again keeps its place.
-/

namespace SignIn

namespace OAuth

def putAll (form fields : Record) : Record := fields.foldl (fun f p => Record.put f p.1 p.2) form

/-- The fields of a form that have a value. -/
def filled (form : Record) : Record :=
  form.filter fun p => match p.2 with
    | .null => false
    | _ => true

def nonEmpty? : Option Text → Option Text
  | some t => if t = [] then none else some t
  | none => none

/-- The fields that the configuration gives for its grant. -/
def grantForm (config : OAuthConfig) : Record :=
  let redirect : Record :=
    if config.grantType = .authorizationCode then
      match nonEmpty? config.callbackUrl with
      | some url => [("redirect_uri", .text url)]
      | none => []
    else []
  let scope : Record :=
    if config.grantType = .password ∨ config.grantType = .clientCredentials then
      if config.scopes = [] then [] else [("scope", .text (scopeText config.scopes))]
    else []
  let grant : Record := [("grant_type", .text config.grantType.name)]
  grant ++ redirect ++ scope

def tokenForm (config : OAuthConfig) (draft : Record) : Record :=
  let form := draft.put "client_id" (Datum.ofText? config.clientId)
  let form := match nonEmpty? config.clientSecret with
    | some secret => form.put "client_secret" (.text secret)
    | none => form
  filled form

def tokenCall (url : Option Text) (form : Record) : Call :=
  ⟨some "POST", url, .ok (.form form),
    Headers.ofTexts [("Content-Type", "application/x-www-form-urlencoded")]⟩

def requestToken (config : OAuthConfig) (draft : Record) : Action AccessToken := do
  let form := tokenForm config draft
  match form.get? "grant_type" with
  | none => Action.faulty .missingField
  | some grant =>
    Action.log .info .oauthToken
      ["Requesting ", grant.display, " token from ", config.platform]
    let payload ← requestRecord (tokenCall config.tokenUrl form)
    let (token, records) := tokenOfPayload payload
    Action.logAll records
    Action.ofExcept token

/-- Requests a token for the configured grant with some more fields. -/
def exchange (config : OAuthConfig) (fields : Record) : Action AccessToken :=
  requestToken config (putAll (grantForm config) fields)

/-- Requests a token for the configured grant with the fields of a value, if it counts as true. -/
def exchangeWith (config : OAuthConfig) (fields : Datum) : Action AccessToken := do
  if fields.truthy then exchange config (← Action.ofFault fields.asRecord)
  else exchange config []

/-- The fields of a request for a new token. -/
def refreshForm (refreshToken : Datum) : Record :=
  [("grant_type", .text "refresh_token"), ("refresh_token", refreshToken)]

def exchangeRefresh (config : OAuthConfig) (refreshToken : Datum) : Action AccessToken :=
  requestToken config (refreshForm refreshToken)

end OAuth

end SignIn
