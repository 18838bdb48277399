import SignIn.Validation.Duration
import SignIn.Validation.Reading

/-!
# Tokens, users and outcomes

What a sign-in ends in: the token of the provider in a normal form, the user, and the outcome, which
is either an address to send the user agent to or a user who has signed in.
-/

namespace SignIn

/-- A token of a provider. The raw record keeps all that the provider sent. -/
structure AccessToken where
  accessToken : Text
  tokenType : Option Text
  /-- The life of the token in whole seconds. -/
  expiresIn : Option Int
  refreshToken : Option Text
  scope : Option Text
  idToken : Option Text
  raw : Record

structure User where
  platform : Text
  externalId : Text
  rawClaims : Record
  accessToken : Option AccessToken

/-- What one step of a sign-in leads to. -/
inductive Outcome where
  | redirect (url : Text)
  | user (user : User)

def Outcome.redirectUrl? : Outcome → Option Text
  | .redirect url => some url
  | .user _ => none

def Outcome.user? : Outcome → Option User
  | .redirect _ => none
  | .user u => some u

/-- The least count of seconds that a life may have: 999999999 days before its start. -/
def minSeconds : Int := -86399999913600

/-- The greatest count of seconds that a life may have: a second before 10^9 days are full. -/
def maxSeconds : Int := 86399999999999

namespace Reading

/-- The whole seconds of a life in microseconds, toward the past. A life of more days than can be
counted is misspelled; one that begins too early cannot be held. -/
def boundedMicros (micros : Int) : Validated Int :=
  let seconds := micros / Duration.microsPerSecond
  if Duration.maxDays < micros.natAbs / (Duration.secondsPerDay * Duration.microsPerSecond) then
    .issue .timeDeltaParsing
  else if seconds < minSeconds then .overflow
  else .valid seconds

/-- The microseconds of an integer of 64-bit size as seconds. Its days are counted in 32 bits. -/
def microsOfWord (n : Int) : Int :=
  let days := n.natAbs / Duration.secondsPerDay % 0x100000000
  let seconds := days * Duration.secondsPerDay + n.natAbs % Duration.secondsPerDay
  Numeral.signed (n < 0) (seconds * Duration.microsPerSecond)

/-- The microseconds of a number of seconds, rounded to the nearest. -/
def microsOfUnits (units : Nat) : Nat :=
  units / Binary64.one * Duration.microsPerSecond + Duration.microsOf (units % Binary64.one)

/-- A life in seconds, also as a duration in text. It is taken to the microsecond first. -/
def seconds : Datum → Validated Int
  | .bool b => .valid (if b then 1 else 0)
  | .int n =>
    if isWord n then boundedMicros (microsOfWord n)
    else if (Binary64.ofInt n).toUnits?.isSome then .issue .timeDeltaParsing
    else .issue .timeDeltaType
  | .real (.finite negative units) =>
    boundedMicros (Numeral.signed negative (microsOfUnits units))
  | .real _ => .issue .timeDeltaParsing
  | .text t =>
    if unparsable t then .issue .stringUnicode
    else
      match Duration.read? t with
      | some micros => boundedMicros micros
      | none => .issue .timeDeltaParsing
  | _ => .issue .timeDeltaType

def accessToken : Datum → Validated AccessToken
  | .record fields =>
    AccessToken.mk <$> required fields "access_token" text
      <*> optionalText fields "token_type"
      <*> field fields "expires_in" none (optional seconds)
      <*> optionalText fields "refresh_token"
      <*> optionalText fields "scope"
      <*> optionalText fields "id_token"
      <*> field fields "raw" [] record
  | _ => .issue .modelType

def user : Datum → Validated User
  | .record fields =>
    User.mk <$> required fields "platform" text
      <*> required fields "external_id" text
      <*> field fields "raw_claims" [] record
      <*> field fields "access_token" none (optional accessToken)
  | _ => .issue .modelType

end Reading

/-- Reads an outcome, which must have an address or a user and not both. -/
def Outcome.ofRecord (fields : Record) : Validated Outcome :=
  let parts : Validated (Option Text × Option User) :=
    Prod.mk <$> Reading.optionalText fields "redirect_url"
      <*> Reading.field fields "user" none (Reading.optional Reading.user)
  parts.andThen fun
    | (some url, none) => .valid (.redirect url)
    | (none, some u) => .valid (.user u)
    | _ => .issue .valueError

end SignIn
