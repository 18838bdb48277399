import SignIn.Text.Basic

/-!
# The components of an address

An address falls into scheme, authority, path, query and fragment, and the authority into user
information, host and port. Every text can be cut in this way; whether the components make sense is
decided afterwards.
-/

namespace SignIn

namespace Url

/-- The components of an address as they are written. -/
structure Components where
  scheme : Text
  userInfo : Text
  host : Text
  port : Text
  path : Text
  query : Option Text
  fragment : Option Text
deriving DecidableEq

def inScheme (c : CodePoint) : Bool :=
  c.isAsciiAlphanumeric || c = '+' || c = '.' ||
    c = '-'

/-- The scheme in front of an address, which may be empty, and the rest behind its colon. -/
def cutScheme (t : Text) : Text × Text :=
  let scheme := match t with
    | c :: _ => if c.isAsciiUpper || c.isAsciiLower then t.takeWhile inScheme else []
    | [] => []
  match t.drop scheme.length with
  | c :: rest => if c = ':' then (scheme, rest) else ([], t)
  | [] => ([], t)

/-- The authority behind two slashes, and the rest. -/
def cutAuthority (t : Text) : Text × Text :=
  match Text.stripStart? "//" t with
  | some u =>
    let inside (c : CodePoint) : Bool :=
      c ≠ '/' && c ≠ '?' && c ≠ '#'
    (u.takeWhile inside, u.dropWhile inside)
  | none => ([], t)

/-- Cuts at the last occurrence of a code point; without one the first part is empty. -/
def cutAtLast (c : CodePoint) (t : Text) : Text × Text :=
  match Text.cutAt? c t.reverse with
  | some (after, before) => (before.reverse, after.reverse)
  | none => ([], t)

/-- The host of an authority without user information, and the rest. A host in brackets goes to the
last closing bracket. -/
def cutHost (t : Text) : Text × Text :=
  let plain (c : CodePoint) : Bool := c ≠ ':' && c ≠ '@'
  match t with
  | c :: _ =>
    if c = '[' ∧ t.contains (CodePoint.ofChar ']') then
      let after := t.reverse.takeWhile (· ≠ CodePoint.ofChar ']')
      (t.take (t.length - after.length), after.reverse)
    else (t.takeWhile plain, t.dropWhile plain)
  | [] => ([], [])

def components (t : Text) : Components :=
  let (scheme, rest) := cutScheme t
  let (authority, rest) := cutAuthority rest
  let (rest, fragment) := match Text.cutAt? (CodePoint.ofChar '#') rest with
    | some (before, after) => (before, some after)
    | none => (rest, none)
  let (path, query) := match Text.cutAt? (CodePoint.ofChar '?') rest with
    | some (before, after) => (before, some after)
    | none => (rest, none)
  let (userInfo, authority) := cutAtLast (CodePoint.ofChar '@') authority
  let (host, rest) := cutHost authority
  let port := match rest with
    | c :: digits => if c = ':' then digits else rest
    | [] => []
  ⟨scheme, userInfo, host, port, path, query, fragment⟩

end Url

end SignIn
