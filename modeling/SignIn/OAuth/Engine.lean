import SignIn.Config.Any
import SignIn.Config.Settings
import SignIn.OAuth.Checks
import SignIn.OAuth.Pending
import SignIn.OAuth.TokenEndpoint
import SignIn.OAuth.UserInfo

/-!
# The OAuth engine

One call of the engine is one leg of a sign-in. The first leg stores a pending login and answers
with the address to send the user agent to. The second leg takes the pending login out of the cache,
compares the state, obtains a token, fetches the claims and has them mapped to a user. A grant
without redirect has the second leg only, and no state.
-/

namespace SignIn

namespace OAuth

/-- What makes a user of the claims of a provider. It may find no user, and it may fail. -/
abbrev Mapper := Text → Record → AccessToken → Except Failure (Option User)

structure Engine where
  settings : Settings
  mapper : Mapper

/-- The key under which the login of a platform and a client is pending. A newer login replaces the
older one. -/
def platformKey (config : OAuthConfig) : Text :=
  Text.concat ["oauth2:state:", config.platform, ":", (Datum.ofText? config.clientId).display]

/-- The key under which a login is pending: the key of the request, if it has one. -/
def stateKey (config : OAuthConfig) (request : Request) : Text :=
  match nonEmpty? request.cacheKey with
  | some key => key
  | none => platformKey config

/-- The state of a new login: the state of the caller unless it is blank, or else a random one. -/
def newState (config : OAuthConfig) (entropy : Int) : Action Text := do
  match Text.present? config.state with
  | some state => return state
  | none =>
    let w ← get
    match w.random.token? entropy with
    | none => Action.faulty .badValue
    | some (state, random) =>
      set { w with random := random }
      return state

def entropyOf : Datum → Except Fault Int
  | .null => .ok 32
  | .int n => .ok n
  | .bool b => .ok (if b then 1 else 0)
  | _ => .error .wrongType

/-- The state of a new login with as much randomness as a value asks for. -/
def newStateBy (config : OAuthConfig) (entropy : Datum) : Action Text := do
  match Text.present? config.state with
  | some state => return state
  | none => newState config (← Action.ofFault (entropyOf entropy))

/-- The PKCE challenge of a new login, if there is to be one. It makes sense for codes only. -/
def newChallenge (config : OAuthConfig) : Action (Option PkceChallenge) := do
  if config.enablePkce && config.responseType = .code then
    let challenge ← Action.draw (Pkce.generate config.challengeMethod)
    return some (← Action.ofFault challenge)
  else return none

/-- How long a new login stays pending. -/
def pendingLifetime (config : OAuthConfig) (settings : Settings) : Lifetime :=
  .whole ((config.verifierTimeout.getD settings.stateTtl).val : Nat)

/-- The first leg: stores a pending login and answers with the authorization address. -/
def initiate (settings : Settings) (config : OAuthConfig) (request : Request) : Action Text := do
  let state ← newState config settings.stateEntropy
  let challenge ← newChallenge config
  let key := stateKey config request
  let pending : PendingLogin := ⟨key, state, challenge.map PkceChallenge.verifier⟩
  let stored ← match pending.toJson? with
    | some t => pure t
    | none => Action.faulty .unserializable
  Action.cacheSet (.text key) (.text stored) (some (pendingLifetime config settings))
  Action.log .info .oauthEngine ["OAuth2 flow initiated: ", config.platform, " (response_type=",
    config.responseType.name, ", pkce=", (Datum.bool challenge.isSome).display, ")"]
  Action.ofFault (authorizationUrl config state challenge)

/-- Whether the state that came back is the pending one. Both are compared in their UTF-8 form. -/
def stateMatches (pending : PendingLogin) (returned : Text) : Except Fault Bool :=
  match Utf8.encode? pending.state, Utf8.encode? returned with
  | some a, some b => .ok (decide (a = b))
  | _, _ => .error .unencodable

/-- Takes the pending login of a callback out of the cache and compares the state. -/
def consumeState (config : OAuthConfig) (request : Request) : Action PendingLogin := do
  match ← Action.cacheTake (.text (stateKey config request)) with
  | .null =>
    Action.log .warning .oauthEngine
      ["OAuth2 callback rejected: no pending state for ", config.platform]
    Action.fail (.invalidState .nothingPending)
  | stored =>
    match PendingLogin.ofStored stored with
    | .invalid _ => Action.fail (.invalidState .corrupt)
    | .overflow => Action.faulty .overflow
    | .valid pending =>
      let matched ← match request.get "state" with
        | none => pure false
        | some returned => Action.ofFault (stateMatches pending returned)
      if matched then return pending
      else
        Action.log .warning .oauthEngine
          ["OAuth2 callback rejected: state mismatch for ", config.platform]
        Action.fail (.invalidState .mismatch)

def passwordToken (config : OAuthConfig) (request : Request) : Action AccessToken := do
  let username := (request.get "username").or (nonEmpty? config.username)
  let password := (request.get "password").or (nonEmpty? config.password)
  match username, password with
  | some u, some p => exchange config [("username", .text u), ("password", .text p)]
  | _, _ => Action.fail (.invalidConfig .missingLogin)

def codeToken (config : OAuthConfig) (request : Request) : Action AccessToken := do
  let pending ← consumeState config request
  match request.get "code" with
  | none =>
    Action.fail (.providerDenied "invalid_request"
      (.text "Callback carries no authorization code"))
  | some code =>
    exchange config [("code", .text code), ("code_verifier", Datum.ofText? pending.codeVerifier)]

/-- Reads the token that a callback carries. -/
def implicitToken (config : OAuthConfig) (request : Request) : Action AccessToken := do
  let _ ← consumeState config request
  let (token, records) := tokenOfPayload request.record
  Action.logAll records
  Action.ofExcept token

def obtainToken (config : OAuthConfig) (request : Request) : Action AccessToken :=
  match config.grantType with
  | .clientCredentials => exchange config []
  | .password => passwordToken config request
  | .authorizationCode => codeToken config request
  | .implicit => implicitToken config request

/-- The second leg: obtains a token, fetches the claims and maps them to a user. -/
def complete (mapper : Mapper) (config : OAuthConfig) (request : Request) : Action User := do
  let token ← obtainToken config request
  let claims ← fetchUserInfo config.userInfoUrl token.accessToken
  Action.note (.mapped config.platform claims token)
  match ← Action.ofExcept (mapper config.platform claims token) with
  | none => Action.fail (.userMapping (.unmapped config.platform))
  | some user =>
    Action.log .info .oauthEngine
      ["OAuth2 login completed: ", config.platform, " (", user.externalId, ")"]
    return user

def authenticateWith (engine : Engine) (config : OAuthConfig) (request : Request) :
    Action Outcome := do
  Action.ofExcept (checkConfig config)
  match stage config request with
  | .initiating => return .redirect (← initiate engine.settings config request)
  | .completing => return .user (← complete engine.mapper config request)

/-- One leg of a sign-in. A refusal by the provider comes before everything else. -/
def authenticate (engine : Engine) (config : AnyConfig) (request : Request) : Action Outcome := do
  Action.ofExcept (checkRefusal request)
  match config with
  | .oauth config => authenticateWith engine config request
  | other => Action.fail (.invalidConfig (.wrongKind .oauth other.kind))

def refresh (config : OAuthConfig) (refreshToken : Datum) : Action AccessToken :=
  match nonEmpty? config.clientId, nonEmpty? config.tokenUrl with
  | some _, some _ =>
    if !refreshToken.truthy then Action.fail (.invalidConfig .missingRefreshToken)
    else
      match refreshToken.text? with
      | some token =>
        if token.isBlank then Action.fail (.invalidConfig .missingRefreshToken)
        else exchangeRefresh config refreshToken
      | none => Action.faulty .notText
  | _, _ => Action.fail (.invalidConfig .missingRefreshEndpoint)

end OAuth

end SignIn
