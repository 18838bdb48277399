import SignIn.Cache.Redis
import SignIn.Cache.RedisAddress
import SignIn.Config.Settings

/-!
# The shared cache

A process has one cache for pending logins. It is made for whoever needs one first, by the settings
given then or else by the settings of the environment; a failure to make it leaves none behind.
-/

namespace SignIn

namespace Registry

inductive SharedCache where
  | memory
  | redis (address : RedisAddress) (keyPrefix : Text)

def SharedCache.kindName : SharedCache → String
  | .memory => "MemoryCredentialCache"
  | .redis _ _ => "RedisCredentialCache"

/-- A cache with the number that tells it apart from the caches made before it. -/
structure NumberedCache where
  number : Nat
  cache : SharedCache

structure State where
  environment : Environment
  /-- The cache in use. -/
  current : Option NumberedCache
  /-- How many caches have been made. -/
  made : Nat
  records : List LogRecord

def State.start (environment : Environment) : State := ⟨environment, none, 0, []⟩

/-- A step that reads and changes the state of a process and may fail. -/
abbrev Action (α : Type) := ExceptT Failure (StateM State) α

def log (record : LogRecord) : Action Unit :=
  modify fun s => { s with records := s.records ++ [record] }

def ofExcept {α : Type} : Except Failure α → Action α
  | .ok a => pure a
  | .error failure => throw failure

def environmentSettings : Action Settings := do
  let s ← get
  ofExcept (Settings.resolve s.environment []).orFail

def settingsOr : Option Settings → Action Settings
  | some settings => pure settings
  | none => environmentSettings

def makeCache (settings : Settings) : Action SharedCache := do
  log (.of .info .factory ["Initializing credential cache: ", settings.cacheBackend.name])
  match settings.cacheBackend with
  | .memory => return .memory
  | .redis =>
    let address ← ofExcept ((RedisAddress.parse settings.redisUrl).mapError .fault)
    log (RedisCache.configuredRecord settings.cacheKeyPrefix)
    return .redis address settings.cacheKeyPrefix

/-- The cache of the process, which is made if there is none. -/
def sharedCache (settings : Option Settings) : Action NumberedCache := do
  let s ← get
  match s.current with
  | some c => return c
  | none =>
    let settings ← settingsOr settings
    let cache ← makeCache settings
    let s ← get
    let c : NumberedCache := ⟨s.made, cache⟩
    set { s with current := some c, made := s.made + 1 }
    return c

def resetCache : Action Unit := modify fun s => { s with current := none }

def runIn {α : Type} (action : Action α) (s : State) : Except Failure α × State :=
  (ExceptT.run action).run s

end Registry

end SignIn
