import SignIn.Config.OAuth
import SignIn.Request

/-!
# Checks before a sign-in

What can be told from the request and the configuration alone: whether the provider has refused,
which mandatory field is missing, and whether the request begins a sign-in or completes one.
-/

namespace SignIn

namespace OAuth

/-- The leg of a sign-in to which a request belongs. -/
inductive Stage where
  | initiating
  | completing
deriving DecidableEq

def Stage.name : Stage → String
  | .initiating => "initiating"
  | .completing => "completing"

/-- The refusal that a request reports, if it reports one. -/
def refusal? (request : Request) : Option AuthError :=
  let error := request.get "error"
  let description := request.get "error_description"
  if error.isSome || description.isSome then
    some (.providerDenied (error.getD "unknown_error") (Datum.ofText? description))
  else none

/-- The first problem of a configuration, in the order in which fields are needed. -/
def configProblem? (config : OAuthConfig) : Option ConfigProblem :=
  if !Text.isPresent config.clientId then some .missingClientId
  else if config.grantType = .authorizationCode ∧ config.responseType ≠ .code then
    some .codeGrantNeedsCode
  else if config.grantType = .implicit ∧ config.responseType ≠ .token then
    some .implicitGrantNeedsToken
  else if config.usesRedirect ∧ !Text.isPresent config.authorizationUrl then
    some (.missingAuthorizationUrl config.grantType)
  else if config.grantType ≠ .implicit ∧ !Text.isPresent config.tokenUrl then
    some (.missingTokenUrl config.grantType)
  else if !Text.isPresent config.userInfoUrl then some .missingUserInfoUrl
  else none

/-- Whether the provider has sent the user back: a request with a state or with what the response
type asks for. -/
def isCallback (config : OAuthConfig) (request : Request) : Bool :=
  (request.get config.responseType.callbackParameter).isSome || (request.get "state").isSome

/-- The leg of a request. A grant without redirect is always completed directly. -/
def stage (config : OAuthConfig) (request : Request) : Stage :=
  if !config.usesRedirect || isCallback config request then .completing else .initiating

def checkRefusal (request : Request) : Except Failure Unit :=
  match refusal? request with
  | some error => .error (.auth error)
  | none => .ok ()

/-- Fails on the first problem of a configuration. -/
def checkConfig (config : OAuthConfig) : Except Failure Unit :=
  match configProblem? config with
  | some problem => .error (.auth (.invalidConfig problem))
  | none => .ok ()

end OAuth

end SignIn
