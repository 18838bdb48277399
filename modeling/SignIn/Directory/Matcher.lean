import SignIn.Bcrypt.Hash
import SignIn.Datum.Basic
import SignIn.Digest.Algorithm
import SignIn.Error
import SignIn.Random
import SignIn.Text.Blank
import SignIn.Text.Upper

/-!
# Stored passwords

A directory stores a password as a tag in braces, which names the scheme, and a payload: the
password itself, its digest, its digest with a salt, or a bcrypt hash. A matcher writes a password
in this form and checks a password against a stored value. The case of the tag does not matter.
-/

namespace SignIn

namespace Directory

/-- A way to store passwords. -/
inductive Matcher where
  /-- The password as it is, behind the tag `K5KEY`. -/
  | clear
  /-- The digest by an algorithm of a given name; none where there is no text in its place. -/
  | digest (scheme : Text) (algorithm : Option Text)
  /-- The digest of password and salt, followed by the salt. The length of salts is none where there
  is no integer in its place. -/
  | salted (scheme : Text) (algorithm : DigestAlgorithm) (saltLength : Option Int)
  /-- A bcrypt hash, behind the tag `BCRYPT`. -/
  | bcrypt
deriving DecidableEq

namespace Matcher

/-- The name in the tag. -/
def scheme : Matcher → Text
  | .clear => "K5KEY"
  | .digest scheme _ => scheme
  | .salted scheme _ _ => scheme
  | .bcrypt => "BCRYPT"

def tag (m : Matcher) : Text := Text.concat ["\x7b", m.scheme, "\x7d"]

def kindName : Matcher → String
  | .clear => "K5keyPasswordMatcher"
  | .digest _ _ => "DigestPasswordMatcher"
  | .salted _ _ _ => "SaltedDigestPasswordMatcher"
  | .bcrypt => "BcryptPasswordMatcher"

def octetsOf (password : Text) : Except Fault Octets :=
  match Utf8.encode? password with
  | some o => .ok o
  | none => .error .unencodable

def digestPayload (algorithm : Option Text) (password : Text) : Except Fault Text := do
  let octets ← octetsOf password
  match algorithm.map DigestAlgorithm.ofName? with
  | some (some a) => return Base64.encode (a.digest octets)
  | some none => throw .badValue
  | none => throw .wrongType

def saltedPayload (algorithm : DigestAlgorithm) (salt : Octets) (password : Text) :
    Except Fault Text :=
  (octetsOf password).map fun octets => Base64.encode (algorithm.digest (octets ++ salt) ++ salt)

def bcryptPayload (salt password : Text) : Except Fault Text := do
  let octets ← octetsOf password
  match Bcrypt.hashWith? octets salt with
  | some t => return t
  | none => throw .badValue

/-- The payload for a password. Salts come from the random stream, a bcrypt salt is given. -/
def payload (m : Matcher) (bcryptSalt : Text) (random : RandomStream) (password : Text) :
    Except Fault Text × RandomStream :=
  match m with
  | .clear => (.ok password, random)
  | .digest _ algorithm => (digestPayload algorithm password, random)
  | .salted _ _ none => (.error .wrongType, random)
  | .salted _ algorithm (some saltLength) =>
    if saltLength < 0 then (.error .badValue, random)
    else
      let (salt, random) := random.draw saltLength.toNat
      (saltedPayload algorithm salt password, random)
  | .bcrypt => (bcryptPayload bcryptSalt password, random)

/-- A text that is not blank; none where it is blank or missing. -/
def nonBlank? : Datum → Except Fault (Option Text)
  | .null => .ok none
  | .text t => .ok (Text.present? (some t))
  | _ => .error .notText

/-- The stored form of a password; a password that is blank or missing has none. -/
def encode (m : Matcher) (bcryptSalt : Text) (random : RandomStream) (password : Datum) :
    Except Fault (Option Text) × RandomStream :=
  match nonBlank? password with
  | .error fault => (.error fault, random)
  | .ok none => (.ok none, random)
  | .ok (some p) =>
    let (payload, random) := m.payload bcryptSalt random p
    (payload.map fun t => some (m.tag ++ t), random)

/-- Whether two texts are equal in their UTF-8 form, which both must have. -/
def sameOctets (a b : Text) : Except Fault Bool :=
  match Utf8.encode? a, Utf8.encode? b with
  | some x, some y => .ok (decide (x = y))
  | _, _ => .error .unencodable

def matchesPayload (m : Matcher) (password payload : Text) : Except Fault Bool :=
  match m with
  | .clear => sameOctets password payload
  | .digest _ algorithm => do sameOctets (← digestPayload algorithm password) payload
  | .salted _ algorithm _ =>
    match Base64.decode? payload with
    | none => .ok false
    | some raw =>
      if raw.length ≤ algorithm.size then .ok false
      else do
        let expected ← saltedPayload algorithm (raw.drop algorithm.size) password
        return decide (expected = payload)
  | .bcrypt =>
    match Utf8.encode? password with
    | some octets => .ok ((Bcrypt.check? octets payload).getD false)
    | none => .ok false

/-- Whether a stored value has the tag, and its payload. -/
def payloadOf? (m : Matcher) (stored : Text) : Option Text :=
  let size := m.tag.length
  if Text.toUpper (stored.take size) = m.tag.toUpper then some (stored.drop size) else none

def matchesText (m : Matcher) (password stored : Text) : Except Fault Bool :=
  if password.isBlank || stored.isBlank then .ok false
  else
    match m.payloadOf? stored with
    | none => .ok false
    | some payload => m.matchesPayload password payload

/-- Whether a password belongs to a stored value. A blank or missing one belongs to nothing. -/
def accepts (m : Matcher) (password stored : Datum) : Except Fault Bool := do
  match ← nonBlank? password with
  | none => return false
  | some p =>
    match ← nonBlank? stored with
    | none => return false
    | some s => m.matchesText p s

end Matcher

end Directory

end SignIn
