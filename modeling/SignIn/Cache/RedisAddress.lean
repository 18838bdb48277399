import SignIn.Codec.Form
import SignIn.Error
import SignIn.Number.Numeral
import SignIn.Text.Lower
import SignIn.Url.Host

/-!
# The address of a Redis server

An address names a host, a port and the number of a database. The number may stand in the path or in
the query, and options in the query stand in for parts that the address leaves out.
-/

namespace SignIn

/-- How a server is reached. A part that the address does not give is null. -/
structure RedisAddress where
  host : Datum
  port : Datum
  database : Datum
  decodeResponses : Datum

namespace RedisAddress

def cutWhere (p : CodePoint → Bool) (t : Text) : Text × Text :=
  (t.takeWhile fun c => !p c, t.dropWhile fun c => !p c)

/-- The options of a query by name, the first value of each. One without a value is left out. -/
def options (query : Text) : Fields :=
  (Text.pieces (CodePoint.ofChar '&') query).filterMap fun piece =>
    match Text.cutAt? (CodePoint.ofChar '=') piece with
    | some (name, value) =>
      if value = [] then none
      else
        let decode (t : Text) := Percent.decodeLenient (Form.plusToSpace t)
        some (decode name, decode value)
    | none => none

def integerOptions : List String :=
  ["db", "max_connections", "health_check_interval", "protocol", "socket_read_size"]

/-- The options that are numbers of seconds. -/
def realOptions : List String := ["socket_timeout", "socket_connect_timeout", "timeout"]

/-- The options that are lists of flags for verifying certificates. -/
def flagOptions : List String := ["ssl_include_verify_flags", "ssl_exclude_verify_flags"]

def verifyFlags : List String :=
  ["VERIFY_DEFAULT", "VERIFY_CRL_CHECK_LEAF", "VERIFY_CRL_CHECK_CHAIN", "VERIFY_X509_STRICT",
   "VERIFY_ALLOW_PROXY_CERTS", "VERIFY_X509_TRUSTED_FIRST", "VERIFY_X509_PARTIAL_CHAIN"]

def tlsVersions : List (String × Int) :=
  [("MINIMUM_SUPPORTED", -2), ("SSLv3", 768), ("TLSv1", 769), ("TLSv1_1", 770), ("TLSv1_2", 771),
   ("TLSv1_3", 772), ("MAXIMUM_SUPPORTED", -1)]

/-- Whether a text is a list of flags, which may stand in brackets. -/
def areVerifyFlags (value : Text) : Bool :=
  let bare := value.filter fun c : CodePoint => c ≠ '[' ∧ c ≠ ']'
  (Text.pieces (CodePoint.ofChar ',') bare).all fun flag =>
    verifyFlags.any fun known => Text.ofString known == flag.trim

def isTlsVersion (value : Text) : Bool :=
  tlsVersions.any fun known =>
    Text.ofString known.1 == value || Numeral.integer? value == some known.2

def optionFits (name value : Text) : Bool :=
  let isOneOf (names : List String) := names.any fun known => Text.ofString known == name
  if isOneOf integerOptions then
    match Numeral.integer? value with
    | some n => 0 ≤ n || name ≠ ("max_connections" : Text)
    | none => false
  else if isOneOf realOptions then Numeral.isReal value
  else if isOneOf flagOptions then areVerifyFlags value
  else if name = ("ssl_min_version" : Text) then isTlsVersion value
  else true

def optionValue (options : Fields) (name : String) : Option Datum :=
  (List.lookup (name : Text) options).map fun value =>
    if integerOptions.contains name then (Numeral.integer? value).elim .null Datum.int
    else .text value

/-- What stands behind the user of an authority. -/
def placeOf (authority : Text) : Text :=
  match Text.cutAt? (CodePoint.ofChar '@') authority.reverse with
  | some (after, _) => after.reverse
  | none => authority

/-- Whether a text is an address of a version to come: `v`, a hexadecimal version, a full stop and
anything at all. -/
def isFutureAddress (t : Text) : Bool :=
  match t with
  | c :: rest =>
    match Text.cutAt? (CodePoint.ofChar '.') rest with
    | some (version, address) =>
      c = 'v' && version ≠ [] && version.all (fun d => d.hexValue?.isSome) && address ≠ []
    | none => false
  | [] => false

/-- Whether the brackets of an authority, if there are any, enclose an address, with nothing in
front of them and nothing but a port behind them. Where brackets stand in the user alone, the host
must be an address all the same. -/
def bracketsFit (authority : Text) : Bool :=
  let place := placeOf authority
  let isAddress (t : Text) : Bool :=
    if t.head? = some (CodePoint.ofChar 'v') then isFutureAddress t else Url.isIpv6 t
  match authority.contains (CodePoint.ofChar '['), authority.contains (CodePoint.ofChar ']') with
  | false, false => true
  | true, true =>
    match Text.cutAt? (CodePoint.ofChar '[') place with
    | some (before, inner) =>
      match Text.cutAt? (CodePoint.ofChar ']') inner with
      | some (host, port) =>
        before = [] && (port = [] || port.head? = some (CodePoint.ofChar ':')) && isAddress host
      | none => before = [] && isAddress inner
    | none => isAddress (place.takeWhile (· ≠ CodePoint.ofChar ':'))
  | _, _ => false

/-- The characters whose compatible form holds a separator of an address. -/
def disguisedSeparators : List Nat :=
  [0x2047, 0x2048, 0x2049, 0x2100, 0x2101, 0x2105, 0x2106, 0x2A74, 0xFE13, 0xFE16, 0xFE55, 0xFE56,
   0xFE5F, 0xFE6B, 0xFF03, 0xFF0F, 0xFF1A, 0xFF1F, 0xFF20]

/-- Whether an authority holds no separator in disguise. -/
def isPlain (authority : Text) : Bool :=
  authority.all fun c => !disguisedSeparators.contains c.val

/-- A host in lower case, but for the zone behind a percent sign. -/
def lowerHost (host : Text) : Text :=
  Text.toLower (host.takeWhile (· ≠ Percent.sign)) ++ host.dropWhile (· ≠ Percent.sign)

def hostAndPort (authority : Text) : Except Fault (Text × Option Nat) :=
  let place := placeOf authority
  let (host, port) : Text × Text :=
    match Text.cutAt? (CodePoint.ofChar '[') place with
    | some (_, inner) =>
      match Text.cutAt? (CodePoint.ofChar ']') inner with
      | some (host, rest) => (host, (rest.dropWhile (· ≠ CodePoint.ofChar ':')).drop 1)
      | none => (inner, [])
    | none =>
      match Text.cutAt? (CodePoint.ofChar ':') place with
      | some (host, port) => (host, port)
      | none => (place, [])
  if port = [] then .ok (lowerHost host, none)
  else if port.all CodePoint.isAsciiDigit then
    let n := port.foldl (fun v c => 10 * v + (c.val - 0x30)) 0
    if n ≤ 65535 then .ok (lowerHost host, if n = 0 then none else some n)
    else .error .badValue
  else .error .badValue

/-- The schemes of an address, and whether they name a host. -/
def schemes : List (String × Bool) := [("redis://", true), ("rediss://", true), ("unix://", false)]

/-- Tabs and line breaks, which are left out of an address. -/
def isBreak (c : CodePoint) : Bool := c.val = 9 || c.val = 10 || c.val = 13

def parse (address : Text) : Except Fault RedisAddress :=
  match schemes.findSome? fun s => (Text.stripStart? s.1 address).map fun rest => (s.2, rest) with
  | none => .error .badValue
  | some (hosted, rest) => do
    let (authority, rest) :=
      cutWhere (fun c => c = '/' || c = '?' || c = '#') (rest.filter fun c => !isBreak c)
    let (rest, _) := cutWhere (· = CodePoint.ofChar '#') rest
    let (path, query) := cutWhere (· = CodePoint.ofChar '?') rest
    let options := options (query.drop 1)
    if !bracketsFit authority || !isPlain authority then throw .badValue
    if !options.all fun o => optionFits o.1 ((List.lookup o.1 options).getD []) then throw .badValue
    let host := optionValue options "host"
    let port := optionValue options "port"
    let database := optionValue options "db"
    let decodeResponses := (optionValue options "decode_responses").getD (.bool true)
    if hosted then
      let (name, number) ← hostAndPort authority
      let named : Datum :=
        if name = [] then host.getD .null else .text (Percent.decodeLenient name)
      let inPath := (Numeral.integer?
        ((Percent.decodeLenient path).filter (· ≠ CodePoint.ofChar '/'))).map Datum.int
      return {
        host := named
        port := (number.map fun n => Datum.int n).getD (port.getD .null)
        database := (database.or inPath).getD .null
        decodeResponses := decodeResponses }
    else
      return {
        host := host.getD .null
        port := port.getD .null
        database := database.getD .null
        decodeResponses := decodeResponses }

end RedisAddress

end SignIn
