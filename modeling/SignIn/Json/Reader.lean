import SignIn.Datum.Basic
import SignIn.Number.Numeral
import SignIn.Text.Quoted
import SignIn.Text.Wide

/-!
# Reading JSON

The grammar is that of RFC 8259 with three more literals for the floating-point numbers that have
no digits. A number with a fraction or an exponent is a floating-point number, any other an integer
of at most 4300 digits. Two dialects differ in what they admit: whether an escape may be a lone
surrogate, how deep values may nest, and which numbers may be long.
-/

namespace SignIn

namespace Json

/-- What a reader of JSON admits. -/
structure Dialect where
  /-- Whether an escaped surrogate without a partner is read as it is. -/
  loneSurrogates : Bool
  /-- The greatest count of containers that may stand around a value inside them. -/
  maxDepth : Option Nat
  /-- Whether the limit on the digits of an integer is one on the part of every number in front of
  its fraction, the minus sign included. -/
  limitsEveryNumber : Bool

/-- The dialect of provider answers. -/
def Dialect.open : Dialect := ⟨true, none, false⟩

/-- The dialect of stored records: every text has a UTF-8 form, and nesting and numbers are
limited. -/
def Dialect.stored : Dialect := ⟨false, some 200, true⟩

def isSpace (c : CodePoint) : Bool := c.val = 32 || c.val = 9 || c.val = 10 || c.val = 13

def skip (t : Text) : Text := t.dropWhile isSpace

/-- A part of a string literal: a code point as it is, or a 16-bit unit written as an escape. -/
inductive Piece where
  | plain (c : CodePoint)
  | escaped (unit : Nat)
deriving DecidableEq

def letterEscape? (c : CodePoint) : Option CodePoint :=
  if c = Quoted.double ∨ c = Quoted.backslash ∨ c = '/' then some c
  else if c = 'b' then some ⟨8, by decide⟩
  else if c = 'f' then some ⟨12, by decide⟩
  else if c = 'n' then some ⟨10, by decide⟩
  else if c = 'r' then some ⟨13, by decide⟩
  else if c = 't' then some ⟨9, by decide⟩
  else none

/-- The number of four hexadecimal digits. -/
def unit? (a b c d : CodePoint) : Option Nat := do
  let a ← a.hexValue?
  let b ← b.hexValue?
  let c ← c.hexValue?
  let d ← d.hexValue?
  return a * 0x1000 + b * 0x100 + c * 0x10 + d

/-- The parts of a string literal whose opening quote has been read, and the rest of the text. -/
def pieces : Text → Option (List Piece × Text)
  | [] => none
  | c :: t =>
    if c = Quoted.double then some ([], t)
    else if c.val < 0x20 then none
    else if c ≠ Quoted.backslash then (pieces t).map fun p => (.plain c :: p.1, p.2)
    else match t with
      | [] => none
      | e :: t =>
        match letterEscape? e with
        | some d => (pieces t).map fun p => (.plain d :: p.1, p.2)
        | none =>
          if e ≠ 'u' then none
          else match t with
            | h1 :: h2 :: h3 :: h4 :: t =>
              match unit? h1 h2 h3 h4 with
              | some n => (pieces t).map fun p => (.escaped n :: p.1, p.2)
              | none => none
            | _ => none

/-- The text of the parts: two escaped surrogates that pair up are one code point. -/
def assemble? (lone : Bool) : List Piece → Option Text
  | [] => some []
  | .plain c :: ps => (assemble? lone ps).map (c :: ·)
  | .escaped n :: ps =>
    let alone : Option Text :=
      if Wide.isHigh n || Wide.isLow n then
        if lone then (CodePoint.ofNat? n).bind fun c => (assemble? lone ps).map (c :: ·) else none
      else (CodePoint.ofNat? n).bind fun c => (assemble? lone ps).map (c :: ·)
    match ps with
    | .escaped m :: rest =>
      if Wide.isHigh n && Wide.isLow m then
        (CodePoint.ofNat? (0x10000 + (n - 0xD800) * 0x400 + (m - 0xDC00))).bind fun c =>
          (assemble? lone rest).map (c :: ·)
      else alone
    | _ => alone

/-- A string literal whose opening quote has been read. -/
def readString (dialect : Dialect) (t : Text) : Option (Text × Text) := do
  let (parts, rest) ← pieces t
  let value ← assemble? dialect.loneSurrogates parts
  return (value, rest)

def digits (t : Text) : Text := t.takeWhile CodePoint.isAsciiDigit

def natural (t : Text) : Nat := Numeral.ofDigits (t.map fun c => c.val - 0x30)

/-- The fraction in front of a text: its digits and the rest. -/
def fraction (t : Text) : Text × Text :=
  match t with
  | c :: u => if c = '.' ∧ digits u ≠ [] then (digits u, u.drop (digits u).length) else ([], t)
  | [] => ([], t)

/-- The exponent in front of a text, if there is one, and the rest. -/
def exponent (t : Text) : Option Int × Text :=
  match t with
  | c :: u =>
    let (negative, v) := Numeral.sign u
    if (c = 'e' ∨ c = 'E') ∧ digits v ≠ [] then
      (some (Numeral.signed negative (natural (digits v))), v.drop (digits v).length)
    else (none, t)
  | [] => (none, t)

/-- The digits of the integer part of a number: a zero alone or a run that begins otherwise. -/
def wholeDigits (t : Text) : Text :=
  match digits t with
  | [] => []
  | c :: ds => if c = '0' then [c] else c :: ds

/-- Whether a number may have a given part in front of its fraction. -/
def Dialect.admitsWhole (dialect : Dialect) (negative isInteger : Bool) (whole : Text) : Bool :=
  if dialect.limitsEveryNumber then whole.length + negative.toNat ≤ Numeral.maxDigits
  else !isInteger || whole.length ≤ Numeral.maxDigits

/-- A number without its sign. -/
def readMagnitude (dialect : Dialect) (negative : Bool) (t : Text) : Option (Datum × Text) :=
  let whole := wholeDigits t
  if whole = [] then none
  else
    let (places, t) := fraction (t.drop whole.length)
    let (power, t) := exponent t
    let isInteger := places.isEmpty && power.isNone
    if !dialect.admitsWhole negative isInteger whole then none
    else if isInteger then some (.int (Numeral.signed negative (natural whole)), t)
    else
      let scale : Int := power.getD 0 - places.length
      some (.real (Binary64.ofDecimal negative (natural (whole ++ places)) scale), t)

def literals : List (String × Datum) :=
  [("null", .null), ("true", .bool true), ("false", .bool false), ("NaN", .real .nan),
   ("Infinity", .real (.infinite false)), ("-Infinity", .real (.infinite true))]

/-- A literal in front of a text. -/
def readLiteral (t : Text) : Option (Datum × Text) :=
  literals.findSome? fun l => (Text.stripStart? l.1 t).map fun rest => (l.2, rest)

/-- A value that is neither a string nor a container. -/
def readAtom (dialect : Dialect) (t : Text) : Option (Datum × Text) :=
  match readLiteral t with
  | some found => some found
  | none =>
    match t with
    | c :: u => if c = '-' then readMagnitude dialect true u else readMagnitude dialect false t
    | [] => none

/-- Whether a container may stand inside a given count of others. -/
def Dialect.admits (dialect : Dialect) (depth : Nat) : Bool :=
  match dialect.maxDepth with
  | none => true
  | some most => depth < most

mutual

/-- A value, with white space in front; the fuel bounds the nesting and the count of items. -/
def readValue (dialect : Dialect) (depth : Nat) : Nat → Text → Option (Datum × Text)
  | 0, _ => none
  | fuel + 1, t =>
    match skip t with
    | [] => none
    | c :: u =>
      if c = Quoted.double then (readString dialect u).map fun p => (.text p.1, p.2)
      else if c = '[' then
        match skip u with
        | d :: v =>
          if d = ']' then some (.list [], v)
          else if dialect.admits depth then
            (readItems dialect (depth + 1) fuel u).map fun p => (.list p.1, p.2)
          else none
        | [] => none
      else if c.val = 123 then
        match skip u with
        | d :: v =>
          if d.val = 125 then some (.record [], v)
          else if dialect.admits depth then
            (readFields dialect (depth + 1) fuel u).map fun p =>
              (.record (Record.ofFields p.1), p.2)
          else none
        | [] => none
      else readAtom dialect (c :: u)

/-- The items of a list that is not empty, up to its closing bracket. -/
def readItems (dialect : Dialect) (depth : Nat) : Nat → Text → Option (List Datum × Text)
  | 0, _ => none
  | fuel + 1, t =>
    match readValue dialect depth fuel t with
    | none => none
    | some (item, t) =>
      match skip t with
      | c :: u =>
        if c = ']' then some ([item], u)
        else if c = ',' then (readItems dialect depth fuel u).map fun p => (item :: p.1, p.2)
        else none
      | [] => none

/-- The fields of a record that is not empty, up to its closing brace. -/
def readFields (dialect : Dialect) (depth : Nat) :
    Nat → Text → Option (List (Text × Datum) × Text)
  | 0, _ => none
  | fuel + 1, t =>
    match skip t with
    | [] => none
    | q :: u =>
      if q ≠ Quoted.double then none
      else match readString dialect u with
        | none => none
        | some (name, t) =>
          match skip t with
          | [] => none
          | c :: u =>
            if c ≠ ':' then none
            else match readValue dialect depth fuel u with
              | none => none
              | some (value, t) =>
                match skip t with
                | c :: u =>
                  if c.val = 125 then some ([(name, value)], u)
                  else if c = ',' then
                    (readFields dialect depth fuel u).map fun p => ((name, value) :: p.1, p.2)
                  else none
                | [] => none

end

/-- The value that a text is, with white space around it. -/
def read? (dialect : Dialect) (t : Text) : Option Datum :=
  match readValue dialect 0 (2 * t.length + 2) t with
  | some (value, rest) => if skip rest = [] then some value else none
  | none => none

end Json

end SignIn
