import SignIn.Charset.Label
import SignIn.Codec.Percent
import SignIn.Number.Numeral

/-!
# Content types

A content type carries parameters behind semicolons. A parameter may be extended: its value is then
escaped, and a character set and a language stand in front of it, between apostrophes; and it may be
written in numbered parts. Plain parameters take precedence over those in parts.
-/

namespace SignIn

namespace ContentType

def quote : CodePoint := .ofByte 0x22

def backslash : CodePoint := .ofByte 0x5C

/-- The mark of an extended parameter. -/
def star : CodePoint := .ofChar '*'

/-- The mark between the parts of an extended value. -/
def apostrophe : CodePoint := .ofByte 0x27

/-! ## Pieces -/

/-- The pieces from a place on: inside quotes or not, and with the code point in front. A quotation
mark behind a backslash neither opens nor closes. -/
def piecesFrom (quoted : Bool) (last : Option CodePoint) : Text → List Text
  | [] => [[]]
  | c :: t =>
    if c = ';' ∧ !quoted then [] :: piecesFrom false none t
    else
      let turns := c = quote && last ≠ some backslash
      match piecesFrom (quoted != turns) (some c) t with
      | [] => [[c]]
      | piece :: rest => (c :: piece) :: rest

/-- The pieces of a content type between the semicolons outside quotes. -/
def pieces (contentType : Text) : List Text := piecesFrom false none contentType

/-- The name and the value of a piece. A piece without a value keeps the case of its name. -/
def parameter (piece : Text) : Text × Text :=
  match Text.cutAt? '=' piece with
  | some (name, value) => (name.trim.toAsciiLower, value.trim)
  | none => (piece.trim, [])

/-- Drops one backslash of two, and then the one in front of a quotation mark. -/
def unescape (t : Text) : Text := single (double t)
where
  /-- Puts one backslash in place of two. -/
  double : Text → Text
    | c :: d :: t =>
      if c = backslash ∧ d = backslash then backslash :: double t else c :: double (d :: t)
    | t => t
  /-- Drops the backslash in front of a quotation mark. -/
  single : Text → Text
    | c :: d :: t =>
      if c = backslash ∧ d = quote then quote :: single t else c :: single (d :: t)
    | t => t

/-- A value without the quotation marks or angle brackets around it. -/
def unquote (value : Text) : Text :=
  let inner := (value.drop 1).dropLast
  match value.head?, value.getLast? with
  | some first, some last =>
    if value.length ≤ 1 then value
    else if first = quote ∧ last = quote then unescape inner
    else if first = '<' ∧ last = '>' then inner
    else value
  | _, _ => value

/-! ## Parameters in parts -/

structure Part where
  /-- Which part it is; a parameter in one part has no number. -/
  number : Option Nat
  value : Text
  /-- Whether the value is escaped. -/
  isEscaped : Bool

/-- Whether a code point may stand in the name of a parameter in parts. -/
def isNameChar (c : CodePoint) : Bool := c.isAsciiAlphanumeric || c = '_'

/-- The parameter to which a name with a mark belongs, the digits of the number behind the mark, and
whether a second mark ends the name. -/
def partName? (name : Text) : Option (Text × Text × Bool) :=
  match Text.cutAt? star name with
  | none => none
  | some (owner, tail) =>
    let digits := tail.takeWhile CodePoint.isAsciiDigit
    let ending := tail.dropWhile CodePoint.isAsciiDigit
    if owner = [] ∨ !owner.all isNameChar then none
    else if tail = [] then some (owner, [], false)
    else if digits ≠ [] ∧ (ending = [] ∨ ending = [star]) then some (owner, digits, ending = [star])
    else none

def partNumber (digits : Text) : Except Fault (Option Nat) :=
  if digits = [] then .ok none
  else if Numeral.maxDigits < digits.length then .error .badValue
  else .ok (some (digits.foldl (fun n d => 10 * n + (d.val - 0x30)) 0))

/-- The part that a parameter is of another, with the name of the other. -/
def partOf? (name value : Text) : Except Fault (Option (Text × Part)) :=
  match partName? name with
  | none => .ok none
  | some (owner, digits, marked) =>
    (partNumber digits).map fun number =>
      some (owner, ⟨number, unquote value, digits = [] || marked⟩)

/-- The order of parts: by number, then by value, then plain ones first. -/
def Part.le (p q : Part) : Bool :=
  let number (p : Part) : Nat := p.number.getD 0
  let value (p : Part) : List Nat := p.value.map CodePoint.val
  if number p ≠ number q then number p ≤ number q
  else if value p ≠ value q then (value p).lex (value q)
  else !p.isEscaped || q.isEscaped

/-- The parts in order. Either all of them have a number or none. -/
def ordered (parts : List Part) : Except Fault (List Part) :=
  if parts.all (·.number.isSome) || parts.all (·.number.isNone) then .ok (parts.mergeSort Part.le)
  else .error .wrongType

/-- The text of a part. Escapes are octets in Latin-1. -/
def Part.text (p : Part) : Text :=
  if p.isEscaped then (Percent.decodeOctetsLenient p.value).map CodePoint.ofByte else p.value

/-! ## Values -/

inductive Value where
  | plain (value : Text)
  /-- A value with the label of a character set, if there is one. -/
  | extended (label : Option Text) (value : Text)
deriving DecidableEq

def Value.ofParts (parts : List Part) : Value :=
  let joined := Text.concat (parts.map Part.text)
  if parts.any (·.isEscaped) then
    match Text.cutAt? apostrophe joined with
    | some (label, behind) =>
      match Text.cutAt? apostrophe behind with
      | some (_, value) => .extended (some label) value
      | none => .extended none joined
    | none => .extended none joined
  else .plain joined

/-- The parameters of a content type in order of precedence: the first, which is always plain, the
other plain ones, and those in parts. -/
def parameters (contentType : Text) : Except Fault (List (Text × Value)) := do
  let given := (pieces contentType).map parameter
  let parts ← (given.drop 1).mapM fun p => partOf? p.1 p.2
  let plain := given.take 1 ++ ((given.drop 1).zip parts).filterMap fun p =>
    if p.2.isSome then none else some p.1
  let parted := parts.filterMap id
  let extended ← (parted.map (·.1)).eraseDups.mapM fun owner => do
    let own := parted.filterMap fun p => if p.1 = owner then some p.2 else none
    return (owner, Value.ofParts (← ordered own))
  return (plain.map fun p => (p.1, Value.plain (unquote p.2))) ++ extended

/-! ## The character set -/

/-- The label of the character set of extended values that name none. -/
def defaultLabel : Text := "us-ascii"

/-- The text of a value. One that its character set cannot read is taken as it is. -/
def Value.text : Value → Except Fault Text
  | plain value => .ok value
  | extended label value => do
    let label := match label with
      | none | some [] => defaultLabel
      | some label => label
    let charset? ← Charset.ofLabel? label
    let octets := value.map fun c => UInt8.ofNat c.val
    return (charset?.bind fun charset => charset.strictText? octets).getD value

/-- The label that a content type gives in its `charset` parameter, if it is ASCII. -/
def label? (contentType : Text) : Except Fault (Option Text) := do
  let found := (← parameters contentType).find? fun p => p.1.toAsciiLower = ("charset" : Text)
  match found with
  | none => return none
  | some (_, value) =>
    let label ← value.text
    return if label.all CodePoint.isAscii then some label.toAsciiLower else none

def charset (contentType : Option Text) : Except Fault Charset := do
  match contentType with
  | none => return Charset.utf8
  | some contentType =>
    match ← label? contentType with
    | none => return Charset.utf8
    | some label => return (← Charset.ofLabel? label).getD Charset.utf8

end ContentType

end SignIn
