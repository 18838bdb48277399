import SignIn.Text.Lower
import SignIn.Validation.Reading

/-!
# Settings

Settings hold for a whole process. A setting that is not given takes its value from the environment,
where its name is written behind `AUTH_STRATEGY_` in any case; failing that it has a default.
-/

namespace SignIn

/-- Where pending logins are kept. -/
inductive CacheBackend where
  | memory
  | redis
deriving DecidableEq

def CacheBackend.name : CacheBackend → String
  | .memory => "memory"
  | .redis => "redis"

inductive LogFormat where
  | json
  | text
deriving DecidableEq

def LogFormat.name : LogFormat → String
  | .json => "json"
  | .text => "text"

structure Settings where
  /-- How many seconds a login may stay pending. -/
  stateTtl : { n : Nat // 0 < n }
  /-- How many random octets a state is made from. -/
  stateEntropy : Int
  cacheBackend : CacheBackend
  redisUrl : Text
  cacheKeyPrefix : Text
  httpVerifyTls : Bool
  logLevel : Text
  logFormat : LogFormat
deriving DecidableEq

abbrev Environment := List (Text × Text)

namespace Settings

def names : List String :=
  ["state_ttl_seconds", "state_entropy_bytes", "cache_backend", "redis_url", "cache_key_prefix",
   "http_verify_tls", "log_level", "log_format"]

/-- The value of a setting in an environment. Of several spellings the last one counts. -/
def inEnvironment? (environment : Environment) (name : Text) : Option Text :=
  let wanted := ("auth_strategy_" : Text) ++ name
  (environment.reverse.find? fun v => v.1.toLower = wanted).map (·.2)

/-- The given fields, completed from an environment. -/
def complete (environment : Environment) (fields : Record) : Record :=
  fields ++ names.filterMap fun name : String =>
    if fields.has name then none
    else (inEnvironment? environment name).map fun v => (Text.ofString name, .text v)

open Reading in
def ofRecord (fields : Record) : Validated Settings :=
  Settings.mk <$> field fields "state_ttl_seconds" ⟨300, by decide⟩ positive
    <*> field fields "state_entropy_bytes" 32 int
    <*> field fields "cache_backend" .memory
      (choice .literalError CacheBackend.name [.memory, .redis])
    <*> field fields "redis_url" "redis://localhost:6379/0" text
    <*> field fields "cache_key_prefix" "auth-strategy" text
    <*> field fields "http_verify_tls" true bool
    <*> field fields "log_level" "INFO" text
    <*> field fields "log_format" .text (choice .literalError LogFormat.name [.json, .text])

def resolve (environment : Environment) (fields : Record) : Validated Settings :=
  ofRecord (complete environment fields)

end Settings

end SignIn
