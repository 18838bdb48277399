import SignIn.Text.Basic

/-!
# Log records

Every part of the library that logs has a name of its own. A record carries a severity, the name of
the part and a message that is already put together.
-/

namespace SignIn

inductive Severity where
  | debug
  | info
  | warning
  | error
deriving DecidableEq

def Severity.name : Severity → String
  | .debug => "DEBUG"
  | .info => "INFO"
  | .warning => "WARNING"
  | .error => "ERROR"

/-- The parts of the library that write to the log. -/
inductive LogSource where
  | factory
  | localLogin
  | directoryLogin
  | passwordScheme
  | oauthEngine
  | oauthHttp
  | oauthToken
  | oauthUserInfo
  | memoryCache
  | redisCache
deriving DecidableEq

def LogSource.name : LogSource → String
  | .factory => "auth_strategy.core.factory"
  | .localLogin => "auth_strategy.core.local"
  | .directoryLogin => "auth_strategy.core.ldap.strategy"
  | .passwordScheme => "auth_strategy.core.ldap.password"
  | .oauthEngine => "auth_strategy.core.oauth2.strategy"
  | .oauthHttp => "auth_strategy.core.oauth2.http"
  | .oauthToken => "auth_strategy.core.oauth2.token"
  | .oauthUserInfo => "auth_strategy.core.oauth2.userinfo"
  | .memoryCache => "auth_strategy.infrastructure.cache.memory"
  | .redisCache => "auth_strategy.infrastructure.cache.redis_cache"

structure LogRecord where
  severity : Severity
  source : LogSource
  message : Text
deriving DecidableEq

def LogRecord.of (severity : Severity) (source : LogSource) (parts : List Text) : LogRecord :=
  ⟨severity, source, Text.concat parts⟩

end SignIn
