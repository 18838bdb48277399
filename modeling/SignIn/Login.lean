import SignIn.Directory.Scheme
import SignIn.Identity

/-!
# Logins with a user name and a password

What logins by password have in common: they ask for users by name, check passwords and write to the
log. All of this is recorded, and what was recorded before a login fails stays.
-/

namespace SignIn

/-- What a login has at hand and what it has done. -/
structure LoginWorld where
  /-- The matchers that the logins share. -/
  pool : Directory.MatcherPool
  /-- The names of the users that were asked for. -/
  lookups : List Text
  records : List LogRecord

abbrev LoginAction (α : Type) := ExceptT Failure (StateM LoginWorld) α

namespace LoginAction

def log (severity : Severity) (source : LogSource) (parts : List Text) : LoginAction Unit :=
  modify fun w => { w with records := w.records ++ [.of severity source parts] }

def lookup {α : Type} (find : Text → α) (username : Text) : LoginAction α := do
  modify fun w => { w with lookups := w.lookups ++ [username] }
  return find username

/-- Asks for the matcher of a scheme. -/
def matcher (s : Directory.Scheme) : LoginAction Directory.Matcher := do
  modify fun w =>
    let (pool, records) := w.pool.ask s
    { w with pool := pool, records := w.records ++ records }
  return s.matcher

def fail {α : Type} (error : AuthError) : LoginAction α := throw (.auth error)

def ofFault {α : Type} : Except Fault α → LoginAction α
  | .ok a => pure a
  | .error fault => throw (.fault fault)

def ofAuth {α : Type} : Except AuthError α → LoginAction α
  | .ok a => pure a
  | .error error => fail error

def ofValidated {α : Type} : Validated α → LoginAction α
  | .valid a => pure a
  | .invalid issues => throw (.fault (.invalid issues))
  | .overflow => throw (.fault .overflow)

def runIn {α : Type} (action : LoginAction α) (w : LoginWorld) : Except Failure α × LoginWorld :=
  (ExceptT.run action).run w

end LoginAction

def LoginWorld.start : LoginWorld := ⟨Directory.MatcherPool.empty, [], []⟩

/-- The user of a platform with an external id, which must be a text. -/
def User.identified (platform : Text) (externalId : Datum) (claims : Record) : Validated User :=
  ((Reading.text externalId).below "external_id").map fun id => ⟨platform, id, claims, none⟩

end SignIn
