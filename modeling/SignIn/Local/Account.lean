import SignIn.Bcrypt.Hash
import SignIn.Config.Any
import SignIn.Login
import SignIn.Request

/-!
# Local accounts

Users of the host application, with passwords hashed by bcrypt. A store hands out an account without
looking at its values. That an account is inactive is told only to who knows its password.
-/

namespace SignIn

namespace Local

def hashPassword (bcryptSalt : Text) (password : Datum) : Except Fault Text :=
  match password with
  | .text p =>
    match Utf8.encode? p with
    | none => .error .unencodable
    | some octets =>
      match Bcrypt.hashWith? octets bcryptSalt with
      | some t => .ok t
      | none => .error .badValue
  | _ => .error .notText

/-- Whether a password belongs to a hash text. A text that is no hash belongs to no password, and a
password without a UTF-8 form belongs to no hash. -/
def verifyText (password hash : Text) : Bool :=
  match Utf8.encode? password with
  | some octets => (Bcrypt.check? octets hash).getD false
  | none => false

/-- Whether a password belongs to a hash, which both must be texts. -/
def verifyPassword (password hash : Datum) : Except Fault Bool :=
  match password with
  | .text p =>
    if !Utf8.encodable p then .ok false
    else
      match hash with
      | .text h => .ok (verifyText p h)
      | _ => .error .notText
  | _ => .error .notText

structure Account where
  userId : Datum
  username : Datum
  passwordHash : Datum
  isActive : Datum
  attributes : Datum

/-- The names of the parts of an account; the first three must be given. -/
def Account.parts : List String :=
  ["user_id", "username", "password_hash", "is_active", "attributes"]

/-- The account of some parts. A missing part and a part of another name are faults. -/
def Account.ofRecord (fields : Record) : Except Fault Account :=
  let known := fields.all fun f => Account.parts.any fun name => Text.ofString name == f.1
  match fields.get? "user_id", fields.get? "username", fields.get? "password_hash" with
  | some userId, some username, some passwordHash =>
    if known then
      .ok ⟨userId, username, passwordHash, (fields.get? "is_active").getD (.bool true),
        (fields.get? "attributes").getD (.record [])⟩
    else .error .wrongType
  | _, _, _ => .error .wrongType

/-- A store of accounts: the account of a user name, if there is one. Making it may fail. -/
abbrev Store := Text → Except Fault (Option Account)

/-- The claims of an account: the user name and the attributes, which may replace it. -/
def Account.claims (a : Account) : Except Fault Record :=
  match a.attributes with
  | .record fields => .ok (fields.foldl (fun r f => r.put f.1 f.2) [("username", a.username)])
  | _ => .error .wrongType

/-- Refuses a login for a reason that goes into the log. -/
def refuse {α : Type} (reason : String) (username : Text) (problem : CredentialProblem) :
    LoginAction α := do
  LoginAction.log .warning .localLogin ["Login failed: ", reason, " (", username, ")"]
  LoginAction.fail (.invalidCredentials problem)

def userOf (config : LocalConfig) (a : Account) : LoginAction User := do
  LoginAction.log .info .localLogin
    ["User authenticated successfully: ", a.username.display, " (", a.userId.display, ")"]
  let claims ← LoginAction.ofFault a.claims
  LoginAction.ofValidated (User.identified config.platform a.userId claims)

def checkLogin (store : Store) (config : LocalConfig) (username password : Text) :
    LoginAction User := do
  let found ← LoginAction.lookup store username
  match ← LoginAction.ofFault found with
  | none => refuse "User not found" username .mismatch
  | some a =>
    if ← LoginAction.ofFault (verifyPassword (.text password) a.passwordHash) then
      if a.isActive.truthy then userOf config a
      else refuse "User inactive" username .inactive
    else refuse "Invalid password" username .mismatch

def authenticateWith (store : Store) (config : LocalConfig) (request : Request) :
    LoginAction User :=
  match request.get config.usernameParam, request.get config.passwordParam with
  | some username, some password => checkLogin store config username password
  | _, _ => LoginAction.fail (.invalidCredentials .missing)

/-- A login with a configuration of any kind. -/
def authenticate (store : Store) (config : AnyConfig) (request : Request) :
    LoginAction Outcome :=
  match config with
  | .local config => return .user (← authenticateWith store config request)
  | other => LoginAction.fail (.invalidConfig (.wrongKind .local other.kind))

end Local

end SignIn
