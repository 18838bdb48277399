import SignIn.Config.Directory
import SignIn.Config.OAuth

/-!
# Any configuration

A strategy is called with a configuration of any kind and refuses the kinds that are not its own.
-/

namespace SignIn

/-- A configuration of one of the kinds, or none. -/
inductive AnyConfig where
  | oauth (config : OAuthConfig)
  | directory (config : DirectoryConfig)
  | local (config : LocalConfig)
  | absent

def AnyConfig.kind : AnyConfig → ConfigKind
  | .oauth _ => .oauth
  | .directory _ => .directory
  | .local _ => .local
  | .absent => .absent

def AnyConfig.ofRecord (kind : ConfigKind) (fields : Record) : Except Failure AnyConfig :=
  match kind with
  | .oauth => (OAuthConfig.ofRecord fields).map .oauth
  | .directory => (DirectoryConfig.ofRecord fields).orFail.map .directory
  | .local => (LocalConfig.ofRecord fields).orFail.map .local
  | .absent => .ok .absent

end SignIn
