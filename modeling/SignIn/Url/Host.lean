import SignIn.Codec.Percent
import SignIn.Error

/-!
# Hosts

A host is an IPv4 address, an IPv6 address in brackets, or a name. A host that looks like an address
must be one.
-/

namespace SignIn

namespace Url

/-- A text with every code point percent encoded that is not allowed as it stands. The percent sign
itself is always allowed, so what is encoded already stays. -/
def quote (allowed : CodePoint → Bool) (t : Text) : Except Fault Text :=
  if Utf8.encodable t then
    .ok (t.flatMap fun c =>
      if c.isUnreserved || c = Percent.sign || c.isAscii && allowed c then [c]
      else c.utf8.flatMap Percent.escape)
  else .error .unencodable

/-- Whether a text has the shape of an IPv4 address: four runs of digits with dots between them. -/
def looksDotted (t : Text) : Bool :=
  let parts := Text.pieces (CodePoint.ofChar '.') t
  parts.length = 4 && parts.all fun p => p ≠ [] && p.all CodePoint.isAsciiDigit

/-- Whether a text is an IPv4 address: four numbers up to 255 without zeros in front. -/
def isIpv4 (t : Text) : Bool :=
  let numbers := Text.pieces (CodePoint.ofChar '.') t
  let number (n : Text) : Bool :=
    n.all CodePoint.isAsciiDigit && 0 < n.length && n.length ≤ 3 &&
      !(1 < n.length && n.head? = some (CodePoint.ofChar '0')) &&
      n.foldl (fun v c => 10 * v + (c.val - 0x30)) 0 ≤ 255
  numbers.length = 4 && numbers.all number

/-- Whether a text is a group of an IPv6 address: up to four hexadecimal digits. -/
def isHexGroup (g : Text) : Bool :=
  0 < g.length && g.length ≤ 4 && g.all fun c => c.hexValue?.isSome

/-- Whether a text is an IPv6 address, which may end in an IPv4 address and in a zone. One run of
groups may be left out, and only at that place may the address begin or end with a colon. -/
def isIpv6 (t : Text) : Bool :=
  let (address, zoned) : Text × Bool :=
    match Text.cutAt? Percent.sign t with
    | some (address, zone) => (address, zone ≠ [] && !zone.contains Percent.sign)
    | none => (t, true)
  let parts := Text.pieces (CodePoint.ofChar ':') address
  let last := parts.getLastD []
  let dotted := last.contains (CodePoint.ofChar '.')
  let groups := if dotted then parts.dropLast ++ [("0" : Text), ("0" : Text)] else parts
  let inner := (groups.drop 1).dropLast
  let gaps := inner.filter (· = [])
  let startOpen := groups.headD [] = []
  let endOpen := groups.getLastD [] = []
  let filled := groups.filter (· ≠ [])
  zoned && (!dotted || isIpv4 last) && 3 ≤ parts.length && groups.length ≤ 9 &&
    filled.all isHexGroup &&
    match gaps.length with
    | 0 => groups.length = 8 && !startOpen && !endOpen
    | 1 =>
      filled.length ≤ 7 && (!startOpen || groups.getD 1 [] = []) &&
        (!endOpen || groups.getD (groups.length - 2) [] = [])
    | _ => false

/-- Code points that stand for themselves in a host name of ASCII. -/
def inHost (c : CodePoint) : Bool :=
  (Text.ofString "!$&()*+,;=\x7b\x7d%|").contains c || c.val = 34 || c.val = 39 || c.val = 92 ||
    c.val = 96

end Url

end SignIn
