import SignIn.Directory.Matcher
import SignIn.Log

/-!
# Password schemes

The schemes that a directory may be configured with. Each scheme has one matcher that all logins
share; it is made when the scheme is first asked for.
-/

namespace SignIn

namespace Directory

inductive Scheme where
  | bcrypt
  | k5key
  | md5
  | sha
  | sha256
  | sha512
  | smd5
  | ssha
  | ssha256
  | ssha512
deriving DecidableEq

namespace Scheme

def name : Scheme → String
  | .bcrypt => "BCRYPT"
  | .k5key => "K5KEY"
  | .md5 => "MD5"
  | .sha => "SHA"
  | .sha256 => "SHA256"
  | .sha512 => "SHA512"
  | .smd5 => "SMD5"
  | .ssha => "SSHA"
  | .ssha256 => "SSHA256"
  | .ssha512 => "SSHA512"

/-- All schemes in the order of their names. -/
def all : List Scheme :=
  [.bcrypt, .k5key, .md5, .sha, .sha256, .sha512, .smd5, .ssha, .ssha256, .ssha512]

def saltLength : Int := 8

def matcher : Scheme → Matcher
  | .bcrypt => .bcrypt
  | .k5key => .clear
  | .md5 => .digest "MD5" (some "md5")
  | .sha => .digest "SHA" (some "sha1")
  | .sha256 => .digest "SHA256" (some "sha256")
  | .sha512 => .digest "SHA512" (some "sha512")
  | .smd5 => .salted "SMD5" .md5 (some saltLength)
  | .ssha => .salted "SSHA" .sha1 (some saltLength)
  | .ssha256 => .salted "SSHA256" .sha256 (some saltLength)
  | .ssha512 => .salted "SSHA512" .sha512 (some saltLength)

/-- The name that a configured text means: without white space and braces around it, in upper
case. -/
def normalizeName (t : Text) : Text :=
  (Text.trimWhere (fun c => c.val = 123 || c.val = 125) t.trim).toUpper

def ofText? (t : Text) : Option Scheme :=
  all.find? fun s => Text.ofString s.name == normalizeName t

def names : List Text := all.map fun s => Text.ofString s.name

/-- The scheme of a configured text, with the problem where there is none. -/
def resolve (t : Option Text) : Except AuthError Scheme :=
  match ofText? (t.getD []) with
  | some s => .ok s
  | none => .error (.invalidConfig (.unknownScheme t names))

/-- The scheme of a configured value. One that counts as false is an empty text. -/
def ofDatum (d : Datum) : Except Failure Scheme :=
  match d with
  | .null => (resolve none).mapError .auth
  | .text t => (resolve (some t)).mapError .auth
  | d =>
    if d.truthy then .error (.fault .notText)
    else .error (.auth (.invalidConfig (.unknownScheme (some d.display) names)))

def creationRecords : Scheme → List LogRecord
  | .k5key => [.of .warning .passwordScheme
      ["K5KEY password scheme stores passwords in clear text; ",
        "use it only for legacy directories"]]
  | _ => []

end Scheme

/-- The schemes whose matchers have been made. -/
structure MatcherPool where
  made : List Scheme

namespace MatcherPool

def empty : MatcherPool := ⟨[]⟩

/-- Asks for the matcher of a scheme, which is made unless it has been made before. -/
def ask (pool : MatcherPool) (s : Scheme) : MatcherPool × List LogRecord :=
  if pool.made.contains s then (pool, []) else (⟨s :: pool.made⟩, s.creationRecords)

end MatcherPool

end Directory

end SignIn
