import SignIn.CharacterName.Lookup
import SignIn.Charset.Scan

/-!
# Escaped text

Text in Latin-1 whose other characters are escaped by a backslash and their number or name. The raw
form knows the two long escapes only and leaves every other backslash as it is.
-/

namespace SignIn

namespace Escaped

/-- The octet that begins an escape. -/
def backslash : UInt8 := 0x5C

/-- The escapes of one letter. -/
def letters : List (UInt8 × UInt8) :=
  [(0x5C, 0x5C), (0x27, 0x27), (0x22, 0x22), (0x62, 0x08), (0x66, 0x0C), (0x74, 0x09), (0x6E, 0x0A),
   (0x72, 0x0D), (0x76, 0x0B), (0x61, 0x07)]

/-- The letters behind which a number stands, and how many digits it has. -/
def numbered : List (UInt8 × Nat) := [(0x75, 4), (0x55, 8)]

/-- The hexadecimal digits in front of octets, as many as are asked for at most. -/
def digits (count : Nat) (octets : Octets) : List Nat :=
  ((octets.take count).map fun b => (CodePoint.ofByte b).hexValue?).takeWhile Option.isSome
    |>.filterMap id

/-- The step of an escape by number, behind the backslash and a letter. -/
def numberStep (count : Nat) (octets : Octets) : ScanStep Unit :=
  let found := digits count octets
  if found.length = count then
    match CodePoint.ofNat? (found.foldl (fun n d => 16 * n + d) 0) with
    | some c => .text [c] (2 + count) ()
    | none => .malformed (2 + count)
  else if found.length = octets.length then .cutOff
  else .malformed (2 + found.length)

def isOctal (b : UInt8) : Bool := 0x30 ≤ b && b ≤ 0x37

/-- The step of an escape in base 8, of up to three digits. -/
def octalStep (octets : Octets) : ScanStep Unit :=
  let found := (octets.take 3).takeWhile isOctal
  let n := found.foldl (fun n d => 8 * n + (d.toNat - 0x30)) 0
  .text (CodePoint.ofNat? n).toList (1 + found.length) ()

/-- The step of an escape by name, behind the backslash and the letter. -/
def nameStep (octets : Octets) : ScanStep Unit :=
  match octets with
  | [] => .malformed 2
  | b :: rest =>
    if b ≠ 0x7B then .malformed 2
    else
      let name := rest.takeWhile (· ≠ 0x7D)
      if name.length = rest.length then .cutOff
      else if name = [] then .malformed 3
      else
        match CharacterName.codePoint? (name.map CodePoint.ofByte) with
        | some c => .text [c] (4 + name.length) ()
        | none => .malformed (4 + name.length)

def fullStep (_ : Unit) (a : UInt8) (rest : Octets) : ScanStep Unit :=
  if a ≠ backslash then .text [.ofByte a] 1 ()
  else
    match rest with
    | [] => .cutOff
    | b :: tail =>
      match letters.lookup b, (((0x78, 2) : UInt8 × Nat) :: numbered).lookup b with
      | some c, _ => .text [.ofByte c] 2 ()
      | none, some count => numberStep count tail
      | none, none =>
        if b = 0x0A then .text [] 2 ()
        else if isOctal b then octalStep rest
        else if b = 0x4E then nameStep tail
        else .text [.ofByte a, .ofByte b] 2 ()

def rawStep (_ : Unit) (a : UInt8) (rest : Octets) : ScanStep Unit :=
  if a ≠ backslash then .text [.ofByte a] 1 ()
  else
    match rest with
    | [] => .text [.ofByte a] 1 ()
    | b :: tail =>
      match numbered.lookup b with
      | some count => numberStep count tail
      | none => .text [.ofByte a, .ofByte b] 2 ()

def full : Octets → List DecodedUnit := scan fullStep ()

def raw : Octets → List DecodedUnit := scan rawStep ()

end Escaped

end SignIn
