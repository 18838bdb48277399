import SignIn.Datum.Basic
import SignIn.Number.Numeral
import SignIn.Validation.Issue

/-!
# Reading fields

Readers of dynamic values and of the fields of records. Texts are never made from other values, but
numbers and truth values are read from texts in their usual spellings. Unknown fields are ignored.
-/

namespace SignIn

namespace Reading

def text : Datum → Validated Text
  | .text t => .valid t
  | _ => .issue .stringType

/-- A value of a reader, or null. -/
def optional {α : Type} (read : Datum → Validated α) : Datum → Validated (Option α)
  | .null => .valid none
  | d => (read d).map some

/-- Whether a text holds a surrogate, so that it cannot be parsed. -/
def unparsable (t : Text) : Bool := t.any CodePoint.isSurrogate

/-- The spellings of the truth values, in any case. -/
def truthSpellings : List (String × Bool) :=
  [("0", false), ("off", false), ("f", false), ("false", false), ("n", false), ("no", false),
   ("1", true), ("on", true), ("t", true), ("true", true), ("y", true), ("yes", true)]

def boolOfText (t : Text) : Validated Bool :=
  if unparsable t then .issue .stringUnicode
  else
    match truthSpellings.find? fun s => Text.ofString s.1 == t.toAsciiLower with
    | some s => .valid s.2
    | none => .issue .boolParsing

/-- The least number that is too large for an integer of 64-bit size. -/
def wordLimit : Int := 0x8000000000000000

def isWord (n : Int) : Bool := -wordLimit ≤ n && n < wordLimit

/-- The truth value of an integer. One that is neither 0 nor 1 is misspelled, one beyond 64 bits is
no truth value at all. -/
def boolOfInt (n : Int) : Validated Bool :=
  if n = 0 then .valid false
  else if n = 1 then .valid true
  else if isWord n then .issue .boolParsing
  else .issue .boolType

/-- A truth value, also as a text or a number. -/
def bool : Datum → Validated Bool
  | .bool b => .valid b
  | .int n => boolOfInt n
  | .real x =>
    if x.isWhole then
      match x.truncate? with
      | some n => if n = -wordLimit then .issue .boolType else boolOfInt n
      | none => .issue .boolType
    else .issue .boolType
  | .text t => boolOfText t
  | _ => .issue .boolType

/-- Drops zeros in front of another digit or of a minus sign; the text must begin with a digit or a
minus sign. -/
def stripZeros? : Text → Option Text
  | [] => none
  | c :: t =>
    if c = '0' then go t (c :: t)
    else if c.isAsciiDigit || c = '-' then some (c :: t)
    else none
where
  /-- Continues behind a zero; the second argument begins with the last digit or underscore. -/
  go : Text → Text → Option Text
    | [], whole => some whole
    | c :: t, whole =>
      if c = '0' || c = '_' then go t (c :: t)
      else if c.isAsciiDigit || c = '-' then some (c :: t)
      else if c = '.' then some whole
      else none

/-- Drops a fraction of one or more zeros. -/
def stripFraction (t : Text) : Text :=
  match Text.cutAt? (CodePoint.ofChar '.') t with
  | some (whole, places) =>
    if places ≠ [] && places.all (· = CodePoint.ofChar '0') then whole else t
  | none => t

/-- The integer of an optional minus sign and digits with single underscores in front of them, if
not in front of all. -/
def plainInteger? (t : Text) : Option (List Nat × Bool) :=
  let (negative, digits) := Numeral.sign t
  let value? (c : CodePoint) : Option Nat :=
    if c.isAsciiDigit then some (c.val - 0x30) else none
  let digits := match digits with
    | c :: rest => if negative && c = '_' then rest else digits
    | [] => []
  (Numeral.digitRun? value? digits).map fun ds => (ds, negative)

/-- The integer of a text: white space at the ends, one sign, zeros in front, single underscores and
a fraction of zeros are admitted. -/
def intOfText (t : Text) : Validated Int :=
  if unparsable t then .issue .stringUnicode
  else
    let body := Text.trimWhere Numeral.isOuter t
    let unsigned? : Option Text :=
      match body with
      | c :: u =>
        if c = '+' then
          if u.head? = some (CodePoint.ofChar '-') then none else some u
        else some body
      | [] => none
    match ((unsigned?.bind stripZeros?).map stripFraction).bind plainInteger? with
    | none => .issue .intParsing
    | some (digits, negative) =>
      if digits.length ≤ Numeral.maxDigits then
        .valid (Numeral.signed negative (Numeral.ofDigits digits))
      else .issue .intParsingSize

/-- The integer of a whole floating-point number of 64-bit size. -/
def intOfReal (x : Binary64) : Validated Int :=
  match x.truncate? with
  | none => .issue .finiteNumber
  | some n =>
    if !x.isWhole then .issue .intFromFloat
    else if -wordLimit < n ∧ n < wordLimit then .valid n
    else .issue .intParsingSize

/-- An integer, also as a text, a truth value or a whole floating-point number. -/
def int : Datum → Validated Int
  | .bool b => .valid (if b then 1 else 0)
  | .int n => .valid n
  | .real x => intOfReal x
  | .text t => intOfText t
  | _ => .issue .intType

def positive (d : Datum) : Validated { n : Nat // 0 < n } :=
  (int d).andThen fun n =>
    if h : 0 < n.toNat then .valid ⟨n.toNat, h⟩ else .issue .greaterThan

/-- A text that is one of a list of spellings. -/
def choice {α : Type} (mismatch : IssueKind) (spelling : α → String) (choices : List α) :
    Datum → Validated α
  | .text t =>
    if unparsable t then .issue .stringUnicode
    else
      match choices.find? fun a => Text.ofString (spelling a) == t with
      | some a => .valid a
      | none => .issue mismatch
  | _ => .issue mismatch

def record : Datum → Validated Record
  | .record fields => .valid fields
  | _ => .issue .dictType

def textRecord : Datum → Validated (List (Text × Text))
  | .record fields =>
    Validated.all (fun f => ((text f.2).map fun t => (f.1, t)).below f.1) fields
  | _ => .issue .dictType

/-- A field that must be present. -/
def required {α : Type} (fields : Record) (name : String) (read : Datum → Validated α) :
    Validated α :=
  match fields.get? name with
  | some d => (read d).below name
  | none => (Validated.issue .missing).below name

/-- A field that has a value of its own when it is absent. -/
def field {α : Type} (fields : Record) (name : String) (absent : α) (read : Datum → Validated α) :
    Validated α :=
  match fields.get? name with
  | some d => (read d).below name
  | none => .valid absent

def optionalText (fields : Record) (name : String) : Validated (Option Text) :=
  field fields name none (optional text)

end Reading

end SignIn
