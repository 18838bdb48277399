import SignIn.Config.Any
import SignIn.Login
import SignIn.Request

/-!
# Login against a directory

The entry of a user is looked up in a directory and the submitted password is checked against the
stored one, by the scheme of the directory. Main rule: an unknown user, a missing password and a
wrong password are refused in the same words.
-/

namespace SignIn

namespace Directory

/-- A directory: the entry of a user name, null where there is none. -/
abbrev Lookup := DirectoryConfig → Text → Datum

/-- The first value of an attribute, in text. Attributes may have several values, and values may be
octets. -/
def firstValue (values : Datum) : Except Fault Datum :=
  let first : Datum := match values with
    | .list [] => .null
    | .list (d :: _) => d
    | d => d
  match first with
  | .octets o =>
    match Utf8.decode? o with
    | some t => .ok (.text t)
    | none => .error .undecodable
  | d => .ok d

/-- The fields of an entry; none for a user who is not there. -/
def fieldsOf? (entry : Datum) : Except Fault (Option Record) :=
  if !entry.truthy then .ok none
  else
    match entry with
    | .record fields => .ok (some fields)
    | _ => .error .notText

/-- The values of an attribute, null where it is missing. -/
def valuesOf (fields : Record) (name : Text) : Datum := (fields.get? name).getD .null

def userOf (config : DirectoryConfig) (username : Text) (fields : Record) :
    LoginAction User := do
  let first ← LoginAction.ofFault (firstValue (valuesOf fields config.idAttribute))
  let externalId := if first.truthy then first else .text username
  LoginAction.log .info .directoryLogin ["LDAP user authenticated: ", externalId.display]
  LoginAction.ofValidated
    (User.identified config.platform externalId (fields.without config.passwordAttribute))

def checkLogin (find : Lookup) (config : DirectoryConfig) (m : Matcher)
    (username password : Text) : LoginAction User := do
  let entry ← LoginAction.lookup (find config) username
  match ← LoginAction.ofFault (fieldsOf? entry) with
  | none =>
    LoginAction.log .warning .directoryLogin
      ["LDAP login failed: user not found (", username, ")"]
    LoginAction.fail (.invalidCredentials .mismatch)
  | some fields =>
    let stored ← LoginAction.ofFault (firstValue (valuesOf fields config.passwordAttribute))
    if ← LoginAction.ofFault (m.accepts (.text password) stored) then
      userOf config username fields
    else
      LoginAction.log .warning .directoryLogin
        ["LDAP login failed: invalid password (", username, ")"]
      LoginAction.fail (.invalidCredentials .mismatch)

def authenticateWith (find : Lookup) (config : DirectoryConfig) (request : Request) :
    LoginAction User := do
  let scheme ← LoginAction.ofAuth (Scheme.resolve (some config.passwordScheme))
  let m ← LoginAction.matcher scheme
  match request.get config.usernameParam, request.get config.passwordParam with
  | some username, some password => checkLogin find config m username password
  | _, _ => LoginAction.fail (.invalidCredentials .missing)

/-- A login with a configuration of any kind. -/
def authenticate (find : Lookup) (config : AnyConfig) (request : Request) :
    LoginAction Outcome :=
  match config with
  | .directory config => return .user (← authenticateWith find config request)
  | other => LoginAction.fail (.invalidConfig (.wrongKind .directory other.kind))

end Directory

end SignIn
