import SignIn.Text.Basic

/-!
# Grants

The four grants of RFC 6749, what the authorization endpoint answers with, and the ways in which a
PKCE challenge is made from a verifier (RFC 7636).
-/

namespace SignIn

/-- A way to obtain a token. -/
inductive GrantType where
  | authorizationCode
  | implicit
  | password
  | clientCredentials
deriving DecidableEq

namespace GrantType

/-- The name of a grant on the wire. -/
def name : GrantType → String
  | .authorizationCode => "authorization_code"
  | .implicit => "implicit"
  | .password => "password"
  | .clientCredentials => "client_credentials"

def all : List GrantType := [.authorizationCode, .implicit, .password, .clientCredentials]

/-- Whether a grant sends the user to the provider and back. -/
def usesRedirect : GrantType → Bool
  | .authorizationCode => true
  | .implicit => true
  | .password => false
  | .clientCredentials => false

end GrantType

/-- What the authorization endpoint is asked for. -/
inductive ResponseType where
  | code
  | token
deriving DecidableEq

namespace ResponseType

/-- The name of a response type on the wire. -/
def name : ResponseType → String
  | .code => "code"
  | .token => "token"

def all : List ResponseType := [.code, .token]

/-- The parameter that carries the grant when the provider sends the user back. -/
def callbackParameter : ResponseType → String
  | .code => "code"
  | .token => "access_token"

end ResponseType

/-- How a PKCE challenge is made from a verifier. -/
inductive ChallengeMethod where
  | s256
  | plain
deriving DecidableEq

namespace ChallengeMethod

/-- The name of a method on the wire. -/
def name : ChallengeMethod → String
  | .s256 => "S256"
  | .plain => "plain"

def all : List ChallengeMethod := [.s256, .plain]

def ofName? (t : Text) : Option ChallengeMethod :=
  all.find? fun m => Text.ofString m.name == t

end ChallengeMethod

end SignIn
