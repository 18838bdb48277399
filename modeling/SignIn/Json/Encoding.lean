import SignIn.Json.Reader
import SignIn.Text.Utf8

/-!
# JSON in octets

The encoding form of octets that hold JSON is told by their byte order mark or, without one, by
where their zero octets stand. Encoded surrogates pass.
-/

namespace SignIn

namespace Json

/-- The text of octets by the encoding form that they show. -/
def decodeOctets? (octets : Octets) : Option Text :=
  let utf16 (order : ByteOrder) (o : Octets) := DecodedUnit.strict? (Wide.units16 order true o)
  let utf32 (order : ByteOrder) (o : Octets) := DecodedUnit.strict? (Wide.units32 order true o)
  match octets with
  | 0 :: 0 :: 0xFE :: 0xFF :: rest => utf32 .bigEndian rest
  | 0xFF :: 0xFE :: 0 :: 0 :: rest => utf32 .littleEndian rest
  | 0xFE :: 0xFF :: rest => utf16 .bigEndian rest
  | 0xFF :: 0xFE :: rest => utf16 .littleEndian rest
  | 0xEF :: 0xBB :: 0xBF :: rest => Utf8.decodeSurrogates? rest
  | 0 :: b :: _ :: _ :: _ =>
    if b = 0 then utf32 .bigEndian octets else utf16 .bigEndian octets
  | _ :: 0 :: c :: d :: _ =>
    if c = 0 && d = 0 then utf32 .littleEndian octets else utf16 .littleEndian octets
  | [0, _] => utf16 .bigEndian octets
  | [_, 0] => utf16 .littleEndian octets
  | _ => Utf8.decodeSurrogates? octets

def maxNesting : Nat := 980

/-- Where a look at a text has got to. -/
structure Nesting where
  inString : Bool
  escaped : Bool
  depth : Nat
  deepest : Nat

/-- Passes one code point. Brackets and braces count outside strings only. -/
def Nesting.pass (n : Nesting) (c : CodePoint) : Nesting :=
  if n.escaped then { n with escaped := false }
  else if n.inString then
    if c = Quoted.backslash then { n with escaped := true }
    else { n with inString := c ≠ Quoted.double }
  else if c = Quoted.double then { n with inString := true }
  else if c = '[' ∨ c.val = 0x7B then
    { n with depth := n.depth + 1, deepest := max n.deepest (n.depth + 1) }
  else if c = ']' ∨ c.val = 0x7D then { n with depth := n.depth - 1 }
  else n

def nesting (t : Text) : Nat := (t.foldl Nesting.pass ⟨false, false, 0, 0⟩).deepest

def isTooDeep (octets : Octets) : Bool :=
  (decodeOctets? octets).any fun t => maxNesting < nesting t

def readOctets? (octets : Octets) : Option Datum :=
  (decodeOctets? octets).bind (read? Dialect.open)

end Json

end SignIn
