import SignIn.Codec.Form
import SignIn.Config.OAuth
import SignIn.OAuth.Pkce

/-!
# The authorization address

A sign-in with a redirect sends the user agent to the authorization endpoint, with the parameters of
the request appended to its address.
-/

namespace SignIn

namespace OAuth

/-- The scopes in one text, separated by single spaces. -/
def scopeText (scopes : List Text) : Text := Text.joinWith " " scopes

/-- The parameters of an authorization request, in order. -/
def authorizationParameters (config : OAuthConfig) (state : Text)
    (challenge : Option PkceChallenge) : Fields :=
  let redirect : Fields := match Text.present? config.callbackUrl with
    | some url => [("redirect_uri", url)]
    | none => []
  let scope : Fields :=
    if config.scopes = [] then [] else [("scope", scopeText config.scopes)]
  let pkce : Fields := match challenge with
    | some c => [("code_challenge", c.challenge), ("code_challenge_method", c.method.name)]
    | none => []
  let client : Fields :=
    [("response_type", config.responseType.name),
      ("client_id", (Datum.ofText? config.clientId).display)]
  let own : Fields := [("state", state)]
  client ++ redirect ++ scope ++ own ++ pkce

/-- The sign between an address and the parameters appended to it. -/
def parameterSeparator (url : Text) : CodePoint :=
  if url.contains (CodePoint.ofChar '?') then CodePoint.ofChar '&' else CodePoint.ofChar '?'

/-- The address to which the user agent is sent. -/
def authorizationUrl (config : OAuthConfig) (state : Text) (challenge : Option PkceChallenge) :
    Except Fault Text :=
  match config.authorizationUrl with
  | none => .error .wrongType
  | some url =>
    match Form.query? (authorizationParameters config state challenge) with
    | some query => .ok (url ++ parameterSeparator url :: query)
    | none => .error .unencodable

end OAuth

end SignIn
