import SignIn.Number.Numeral
import SignIn.Text.Printable
import SignIn.Url.Components
import SignIn.Url.Host
import SignIn.Url.International

/-!
# Normal form of addresses

The address to which a request is sent is written in a normal form: the scheme and the host in lower
case, the default port left out, dots in the path resolved, and everything that may not stand as it
is percent encoded. An address without scheme or host is taken relative to the root.
-/

namespace SignIn

/-- An address in normal form. -/
structure Url where
  scheme : Text
  userInfo : Text
  host : Text
  port : Option Int
  path : Text
  query : Option Text
  fragment : Option Text
deriving DecidableEq

namespace Url

def maxLength : Nat := 65536

/-- The ports that need not be written, by scheme. -/
def defaultPorts : List (String × Int) :=
  [("ftp", 21), ("http", 80), ("https", 443), ("ws", 80), ("wss", 443)]

def defaultPort? (scheme : Text) : Option Int :=
  (defaultPorts.find? fun p => Text.ofString p.1 == scheme).map (·.2)

/-- The port that a text gives, if it is not the default one. -/
def normalizePort (scheme port : Text) : Except Fault (Option Int) :=
  if port = [] then .ok none
  else
    match Numeral.integer? port with
    | none => .error .invalidUrl
    | some n => .ok (if defaultPort? scheme = some n then none else some n)

/-- The host in normal form, without the brackets of an IPv6 address. -/
def normalizeHost (host : Text) : Except Fault Text :=
  if host = [] then .ok []
  else if looksDotted host then if isIpv4 host then .ok host else .error .invalidUrl
  else if host.head? = some (CodePoint.ofChar '[') ∧
      host.getLast? = some (CodePoint.ofChar ']') then
    let inner := (host.drop 1).dropLast
    if isIpv6 inner then .ok inner else .error .invalidUrl
  else if host.all CodePoint.isAscii then quote inHost host.toAsciiLower
  else
    match International.toAscii? host with
    | some name => .ok name
    | none => .error .invalidUrl

/-- Resolves the parts of a path that are one or two dots. -/
def resolveDots (path : Text) : Text :=
  let step (done : List Text) (part : Text) : List Text :=
    if part = ("." : Text) then done
    else if part = (".." : Text) then if done = [[]] then done else done.drop 1
    else part :: done
  let parts := Text.pieces (CodePoint.ofChar '/') path
  if parts.contains ("." : Text) || parts.contains (".." : Text) then
    Text.joinWith "/" (parts.foldl step []).reverse
  else path

/-- Printable ASCII characters but some. -/
def printableBut (excluded : List Nat) (c : CodePoint) : Bool :=
  0x20 ≤ c.val && c.val < 0x7F && !excluded.contains c.val

/-- Code points that stand for themselves in a query. -/
def inQuery : CodePoint → Bool := printableBut [0x20, 0x22, 0x23, 0x3C, 0x3E]

/-- Code points that stand for themselves in a path. -/
def inPath : CodePoint → Bool :=
  printableBut [0x20, 0x22, 0x23, 0x3C, 0x3E, 0x3F, 0x60, 0x7B, 0x7D]

/-- Code points that stand for themselves in a fragment. -/
def inFragment : CodePoint → Bool := printableBut [0x20, 0x22, 0x3C, 0x3E, 0x60]

/-- Code points that stand for themselves in user information. -/
def inUserInfo : CodePoint → Bool :=
  printableBut [0x20, 0x22, 0x23, 0x3C, 0x3E, 0x3F, 0x60, 0x7B, 0x7D, 0x2F, 0x3B, 0x3D, 0x40,
    0x5B, 0x5C, 0x5D, 0x5E, 0x7C]

def quoteOption (allowed : CodePoint → Bool) : Option Text → Except Fault (Option Text)
  | none => .ok none
  | some t => (quote allowed t).map some

def pathFits (path : Text) (hasScheme hasAuthority : Bool) : Bool :=
  let startsWith (start : Text) : Bool := Text.startsWith path start
  if hasAuthority then path = [] || startsWith "/"
  else hasScheme || !(startsWith "//" || startsWith ":")

/-- The normal form of an address. -/
def parse (t : Text) : Except Fault Url := do
  if maxLength < t.length then throw .invalidUrl
  if t.any fun c => c.isAscii && !c.isPrintable then throw .invalidUrl
  let parts := components t
  let userInfo ← quote inUserInfo parts.userInfo
  let host ← normalizeHost parts.host
  let port ← normalizePort parts.scheme parts.port
  let hasScheme := parts.scheme ≠ []
  let hasAuthority := userInfo ≠ [] || host ≠ [] || port.isSome
  if !pathFits parts.path hasScheme hasAuthority then throw .invalidUrl
  let path := if hasScheme || hasAuthority then resolveDots parts.path else parts.path
  let path ← quote inPath path
  let query ← quoteOption inQuery parts.query
  let fragment ← quoteOption inFragment parts.fragment
  return ⟨parts.scheme.toAsciiLower, userInfo, host, port, path, query, fragment⟩

/-- Whether an address has both a scheme and a host. -/
def isAbsolute (u : Url) : Bool := u.scheme ≠ [] && u.host ≠ []

/-- A text with something in front unless the text is absent. -/
def lead (start : Text) : Option Text → Text
  | none => []
  | some t => start ++ t

/-- The path and the query of an address. -/
def target (u : Url) : Text := (if u.path = [] then ("/" : Text) else u.path) ++ lead "?" u.query

/-- An address that is not absolute is taken relative to the root. -/
def fromRoot (u : Url) : Url :=
  if u.isAbsolute then u
  else
    let target := u.target.dropWhile (· = CodePoint.ofChar '/')
    let (path, query) : Text × Option Text :=
      match Text.cutAt? (CodePoint.ofChar '?') target with
      | some (path, query) => (path, some query)
      | none => (target, none)
    ⟨[], [], [], none, ("/" : Text) ++ path, query, none⟩

def authority (u : Url) : Text :=
  let userInfo : Text := if u.userInfo = [] then [] else u.userInfo ++ ("@" : Text)
  let host : Text :=
    if u.host.contains (CodePoint.ofChar ':') then Text.concat ["[", u.host, "]"] else u.host
  userInfo ++ host ++ lead ":" (u.port.map Text.ofInt)

def toText (u : Url) : Text :=
  let scheme : Text := if u.scheme = [] then [] else u.scheme ++ (":" : Text)
  let authority : Text := if u.authority = [] then [] else ("//" : Text) ++ u.authority
  scheme ++ authority ++ u.path ++ lead "?" u.query ++ lead "#" u.fragment

/-- The user name and the password of an address, if it has either. -/
def login? (u : Url) : Option (Text × Text) :=
  let (name, password) : Text × Text :=
    match Text.cutAt? (CodePoint.ofChar ':') u.userInfo with
    | some (name, password) => (Percent.decodeLenient name, Percent.decodeLenient password)
    | none => (Percent.decodeLenient u.userInfo, [])
  if name = [] ∧ password = [] then none else some (name, password)

end Url

end SignIn
