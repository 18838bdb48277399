import SignIn.Config.Grant
import SignIn.Datum.Display
import SignIn.Validation.Issue

/-!
# Failures

A sign-in fails with an `AuthError`, which names its cause and from which the message is made. Where
a value cannot be processed at all, the failure is a `Fault`: a text without a UTF-8 form, a number
out of range, a value of the wrong kind, or a failure of a collaborator that is passed on.
-/

namespace SignIn

inductive ConfigKind where
  | oauth
  | directory
  | local
  | absent
deriving DecidableEq

def ConfigKind.name : ConfigKind → String
  | .oauth => "OAuthConfig"
  | .directory => "LdapConfig"
  | .local => "LocalConfig"
  | .absent => "NoneType"

inductive StrategyKind where
  | oauth
  | directory
  | local
deriving DecidableEq

def StrategyKind.name : StrategyKind → String
  | .oauth => "OAuth2Strategy"
  | .directory => "LdapStrategy"
  | .local => "LocalStrategy"

def StrategyKind.configKind : StrategyKind → ConfigKind
  | .oauth => .oauth
  | .directory => .directory
  | .local => .local

/-- Why the state that comes back with the user is refused. -/
inductive StateProblem where
  | nothingPending
  | corrupt
  | mismatch
deriving DecidableEq

inductive ConfigProblem where
  | wrongKind (strategy : StrategyKind) (given : ConfigKind)
  | missingClientId
  | codeGrantNeedsCode
  | implicitGrantNeedsToken
  | missingAuthorizationUrl (grant : GrantType)
  | missingTokenUrl (grant : GrantType)
  | missingUserInfoUrl
  | missingLogin
  | missingRefreshEndpoint
  | missingRefreshToken
  | unknownScheme (scheme : Option Text) (known : List Text)
deriving DecidableEq

/-- What went wrong in a call to the provider; an answer comes with its text and status. -/
inductive CallProblem where
  | transport (reason : Text)
  | status (code : Int) (body : Text)
  | notJson (code : Int) (body : Text)
  | notObject (code : Int) (body : Text)
deriving DecidableEq

/-- Why no user is made of the provider's claims. -/
inductive MappingProblem where
  | unmapped (platform : Text)
  | refused (reason : Text)
deriving DecidableEq

/-- Why a user name and a password are refused. -/
inductive CredentialProblem where
  | missing
  | mismatch
  | inactive
deriving DecidableEq

/-- The ways in which signing in fails. -/
inductive AuthError where
  | providerDenied (error : Text) (description : Datum)
  | invalidState (problem : StateProblem)
  | invalidConfig (problem : ConfigProblem)
  | providerCommunication (url : Text) (problem : CallProblem)
  | malformedToken (payload : Record)
  | userMapping (problem : MappingProblem)
  | invalidCredentials (problem : CredentialProblem)

def StateProblem.message : StateProblem → Text
  | .nothingPending => "No pending authorization for this client; restart the login"
  | .corrupt => "Pending authorization state is corrupt"
  | .mismatch => "State parameter does not match the pending authorization"

def ConfigProblem.message : ConfigProblem → Text
  | .wrongKind strategy given =>
    Text.concat [strategy.name, " requires ", strategy.configKind.name, ", got ", given.name]
  | .missingClientId => "OAuthConfig.client_id is required"
  | .codeGrantNeedsCode => "grant_type=authorization_code requires response_type=code"
  | .implicitGrantNeedsToken => "grant_type=implicit requires response_type=token"
  | .missingAuthorizationUrl grant =>
    Text.concat ["OAuthConfig.authorization_url is required for grant_type=", grant.name]
  | .missingTokenUrl grant =>
    Text.concat ["OAuthConfig.token_url is required for grant_type=", grant.name]
  | .missingUserInfoUrl => "OAuthConfig.userinfo_url is required"
  | .missingLogin => "grant_type=password requires username and password"
  | .missingRefreshEndpoint => "Refreshing a token requires client_id and token_url"
  | .missingRefreshToken => "refresh_token is required"
  | .unknownScheme scheme known =>
    Text.concat ["Unknown LDAP password scheme: ", (Datum.ofText? scheme).display,
      ". Valid options: ", Text.joinWith ", " known]

/-- How a call to an endpoint failed, in words. The status is named, the answer is not. -/
def CallProblem.message (url : Text) : CallProblem → Text
  | .transport reason => Text.concat ["Request to ", url, " failed: ", reason]
  | .status code _ => Text.concat ["Request to ", url, " failed: ", Text.ofInt code]
  | .notJson _ _ => Text.concat ["Response from ", url, " is not valid JSON"]
  | .notObject _ _ => Text.concat ["Response from ", url, " is not a JSON object"]

/-- The text of the answer in which a call ended. -/
def CallProblem.body? : CallProblem → Option Text
  | .transport _ => none
  | .status _ body => some body
  | .notJson _ body => some body
  | .notObject _ body => some body

def CallProblem.statusCode? : CallProblem → Option Int
  | .transport _ => none
  | .status code _ => some code
  | .notJson code _ => some code
  | .notObject code _ => some code

/-- Why an account was not mapped to a user, in words. A refusal has words of its own. -/
def MappingProblem.message : MappingProblem → Text
  | .unmapped platform => Text.concat ["Unable to map ", platform, " user"]
  | .refused reason => reason

/-- What is wrong with credentials, in words that never contain a password. -/
def CredentialProblem.message : CredentialProblem → Text
  | .missing => "Username and password are required"
  | .mismatch => "Invalid username or password"
  | .inactive => "User account is inactive"

def AuthError.message : AuthError → Text
  | .providerDenied error description =>
    let detail : Text :=
      if description.truthy then Text.concat [" (", description.display, ")"] else []
    Text.concat ["Provider denied the request: ", error, detail]
  | .invalidState problem => problem.message
  | .invalidConfig problem => problem.message
  | .providerCommunication url problem => problem.message url
  | .malformedToken _ => "Token response missing access_token"
  | .userMapping problem => problem.message
  | .invalidCredentials problem => problem.message

/-- The ways in which a value cannot be processed at all. -/
inductive Fault where
  /-- A text has no form in the encoding that is needed. -/
  | unencodable
  /-- Octets are no text. -/
  | undecodable
  /-- Octets cannot be read in the way that is asked for. -/
  | unreadable
  /-- A conversion admits no malformed octets. -/
  | strictOnly
  /-- A value is nested too deep. -/
  | tooDeep
  /-- A number is too large. -/
  | overflow
  /-- A value is out of its range. -/
  | badValue
  /-- A value is missing, left over or of the wrong kind. -/
  | wrongType
  /-- A value lacks the operation asked of it, mostly because it is no text. -/
  | notText
  /-- A field that is needed is absent. -/
  | missingField
  /-- A value does not pass validation. -/
  | invalid (issues : List Issue)
  /-- A text is no address. -/
  | invalidUrl
  /-- A record cannot be stored as text. -/
  | unserializable
  /-- A collaborator fails on its own account. -/
  | collaborator
  /-- The operating system fails. -/
  | system
  /-- No strategy has the name asked for. -/
  | unknownProtocol (name : Text)
deriving DecidableEq

def Fault.message? : Fault → Option Text
  | .unknownProtocol name =>
    some (Text.concat ["Unknown authentication protocol: ", name,
      ". Valid options: oauth2, ldap, local"])
  | _ => none

/-- A failure of either kind. -/
inductive Failure where
  | auth (error : AuthError)
  | fault (fault : Fault)

/-- A validated value, with what stands in its way as a failure. -/
def Validated.orFail {α : Type} : Validated α → Except Failure α
  | .valid a => .ok a
  | .invalid issues => .error (.fault (.invalid issues))
  | .overflow => .error (.fault .overflow)

end SignIn
