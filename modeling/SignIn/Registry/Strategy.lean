import SignIn.Registry.SharedCache

/-!
# Choosing a strategy

A strategy is made by the name of its protocol, in any case, with the collaborators it needs. The
strategy for OAuth takes the shared cache unless it is given one, and makes its own client for
calls to providers unless it is given one; what it makes it closes.
-/

namespace SignIn

/-- What a client for calls to providers is set up with. -/
structure ClientSetup where
  accept : Text
  timeout : Datum
  verify : Bool

/-- The setup of a client and its log records. Every client accepts JSON; one that does not verify
certificates is worth a warning. -/
def ClientSetup.make (verify : Bool) (timeout : Datum) : ClientSetup × List LogRecord :=
  let records : List LogRecord :=
    if verify then []
    else [.of .warning .oauthHttp ["TLS verification disabled for OAuth provider calls"]]
  (⟨"application/json", timeout, verify⟩, records)

namespace Registry

inductive CacheChoice where
  | given
  | shared (cache : NumberedCache)

inductive Strategy where
  | oauth (cache : CacheChoice) (ownsClient : Bool)
  | directory
  | local

def Strategy.kind : Strategy → StrategyKind
  | .oauth _ _ => .oauth
  | .directory => .directory
  | .local => .local

/-- The kind of strategy for a protocol. The names have no letter to which the lower case of a
character outside ASCII could lead. -/
def protocolKind? (protocol : Text) : Option StrategyKind :=
  let name := protocol.toAsciiLower
  if name = ("oauth2" : Text) then some .oauth
  else if name = ("ldap" : Text) then some .directory
  else if name = ("local" : Text) then some .local
  else none

/-- A collaborator that is given by name, with nothing behind the name if it is null. -/
structure Collaborator where
  name : Text
  isNull : Bool
deriving DecidableEq

/-- Whether there is something behind one of the given names. The last one of a name counts. -/
def provides (given : List Collaborator) (name : String) : Bool :=
  (given.reverse.find? fun c => c.name = Text.ofString name).any fun c => !c.isNull

def collaboratorsOf : StrategyKind → List String
  | .oauth => ["user_mapper", "cache", "http_client", "settings"]
  | .directory => ["directory"]
  | .local => ["user_store"]

def neededBy : StrategyKind → String
  | .oauth => "user_mapper"
  | .directory => "directory"
  | .local => "user_store"

/-- Whether a strategy can be made with some collaborators: each is known and none is missing. -/
def accepts (kind : StrategyKind) (given : List Collaborator) : Bool :=
  (given.all fun c => (collaboratorsOf kind).any fun known => Text.ofString known == c.name) &&
    given.any fun c => Text.ofString (neededBy kind) == c.name

/-- Makes a client unless one is given. -/
def makeClient (given : Bool) (settings : Settings) : Action Unit :=
  if given then pure ()
  else (ClientSetup.make settings.httpVerifyTls .null).2.forM log

def checkCollaborators (kind : StrategyKind) (given : List Collaborator) : Action Unit :=
  if accepts kind given then pure () else throw (.fault .wrongType)

/-- Makes the strategy for OAuth. Settings that are given do not reach the shared cache. -/
def createOAuth (given : List Collaborator) (settings : Option Settings) : Action Strategy := do
  let cache ← if provides given "cache" then pure CacheChoice.given
    else CacheChoice.shared <$> sharedCache none
  checkCollaborators .oauth given
  let settings ← settingsOr settings
  let hasClient := provides given "http_client"
  makeClient hasClient settings
  return .oauth cache (!hasClient)

def createStrategy (protocol : Text) (given : List Collaborator) (settings : Option Settings) :
    Action Strategy := do
  match protocolKind? protocol with
  | none => throw (.fault (.unknownProtocol protocol))
  | some kind =>
    let strategy ← match kind with
      | .oauth => createOAuth given settings
      | .directory => do
        checkCollaborators .directory given
        pure .directory
      | .local => do
        checkCollaborators .local given
        pure .local
    log (.of .info .factory ["Auth strategy initialized: ", kind.name])
    return strategy

/-- Makes the strategy for a protocol, which must be a text. -/
def createStrategyBy (protocol : Datum) (given : List Collaborator) (settings : Option Settings) :
    Action Strategy :=
  match protocol with
  | .text protocol => createStrategy protocol given settings
  | _ => throw (.fault .notText)

end Registry

end SignIn
