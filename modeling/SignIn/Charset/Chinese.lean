import SignIn.Charset.Big5
import SignIn.Charset.Gb18030
import SignIn.Charset.Gb2312
import SignIn.Charset.Gbk
import SignIn.Charset.Hkscs
import SignIn.Charset.Scan
import SignIn.Charset.Windows950

/-!
# Chinese character sets

The simplified characters come in a plane with the high bit set or between marks in plain ASCII, and
in two extensions, of which the second reaches all of Unicode. The traditional characters come in
one form with two extensions.
-/

namespace SignIn

namespace Chinese

def alone (c : Option CodePoint) : Option Text := c.map fun c => [c]

/-! ## Simplified characters -/

/-- A character of the plane with the high bit set in both octets. -/
def inPlane? (lead trail : Nat) : Option CodePoint :=
  if 0x80 ≤ lead ∧ 0x80 ≤ trail then Plane.gb2312.char? (lead - 0x80) (trail - 0x80) else none

def gb2312 : Octets → List DecodedUnit :=
  scanPairs asciiSingle? fun lead trail => alone (inPlane? lead trail)

/-- The characters of the plane that GBK reads differently. -/
def gbkChange? (lead trail : Nat) : Option CodePoint :=
  if lead = 0xA1 ∧ trail = 0xA4 then CodePoint.ofNat? 0xB7
  else if lead = 0xA1 ∧ trail = 0xAA then CodePoint.ofNat? 0x2014
  else none

def gbkChar? (lead trail : Nat) : Option CodePoint :=
  ((gbkChange? lead trail).or (inPlane? lead trail)).or
    (Plane.findChar? [.gbkFirst, .gbkSecond, .gbkSigns] lead trail)

def gbk : Octets → List DecodedUnit :=
  scanPairs asciiSingle? fun lead trail => alone (gbkChar? lead trail)

/-- The areas for private use in GB 18030: the leads, the first trail, the width of a row, and the
first code point. -/
def privateAreas : List (Nat × Nat × Nat × Nat × Nat) :=
  [(0xAA, 0xAF, 0xA1, 94, 0xE000), (0xF8, 0xFE, 0xA1, 94, 0xE234), (0xA1, 0xA7, 0x40, 96, 0xE4C6)]

/-- The code point of two octets in an area for private use. A row has no place for 0x7F. -/
def privateArea? (lead trail : Nat) : Option CodePoint :=
  privateAreas.findSome? fun (first, last, firstTrail, width, base) =>
    let place := trail - firstTrail - (if firstTrail < 0x7F ∧ 0x7F < trail then 1 else 0)
    if first ≤ lead ∧ lead ≤ last ∧ firstTrail ≤ trail ∧ trail ≠ 0x7F ∧ place < width then
      CodePoint.ofNat? (base + (lead - first) * width + place)
    else none

/-- The code point of two octets that GB 18030 gives to private use among the characters. -/
def privateRun? (lead trail : Nat) : Option CodePoint :=
  gb18030PrivateRuns.findSome? fun (row, first, last, base) =>
    if lead = row ∧ first ≤ trail ∧ trail ≤ last then
      CodePoint.ofNat? (base + (trail - first) - (if first < 0x7F ∧ 0x7F < trail then 1 else 0))
    else none

def gb18030Char? (lead trail : Nat) : Option CodePoint :=
  ((gbkChar? lead trail).or (Plane.findChar? [.gb18030Signs, .gb18030Ideographs] lead trail)).or
    ((privateArea? lead trail).or (privateRun? lead trail))

/-- The last run that begins at a number or in front of it. -/
def quadRun? (n : Nat) : List (Nat × Nat) → Option (Nat × Nat)
  | [] => none
  | run :: rest => if n < run.1 then none else (quadRun? n rest).or (some run)

/-- How many places four octets have below U+10000. -/
def quadCount : Nat := 39420

/-- A character of four octets in GB 18030. -/
def quadChar? (a b c d : Nat) : Option CodePoint :=
  if a < 0x81 ∨ 0xFE < a ∨ b < 0x30 ∨ 0x39 < b ∨ c < 0x81 ∨ 0xFE < c ∨ d < 0x30 ∨ 0x39 < d then none
  else
    let place (a : Nat) : Nat := (a * 10 + (b - 0x30)) * 1260 + (c - 0x81) * 10 + (d - 0x30)
    if a < 0x85 then
      let n := place (a - 0x81)
      if n < quadCount then
        (quadRun? n gb18030QuadRuns).bind fun run => CodePoint.ofNat? (run.2 + (n - run.1))
      else none
    else if 0x90 ≤ a then CodePoint.ofNat? (0x10000 + place (a - 0x90))
    else none

/-- The step of GB 18030: ASCII, a pair, or four octets of which the second is a digit. -/
def gb18030Step (_ : Unit) (a : UInt8) (rest : Octets) : ScanStep Unit :=
  if a < 0x80 then .text [.ofByte a] 1 ()
  else
    match rest with
    | [] => .cutOff
    | b :: rest =>
      if 0x30 ≤ b ∧ b ≤ 0x39 then
        match rest with
        | c :: d :: _ =>
          match quadChar? a.toNat b.toNat c.toNat d.toNat with
          | some c => .text [c] 4 ()
          | none => .malformed 1
        | _ => .cutOff
      else
        match gb18030Char? a.toNat b.toNat with
        | some c => .text [c] 2 ()
        | none => .malformed 1

def gb18030 : Octets → List DecodedUnit := scan gb18030Step ()

/-- The tilde, which begins a mark. -/
def tilde : UInt8 := 0x7E

/-- The step of the form in plain ASCII. Characters stand between two marks; a doubled tilde is one
tilde, and one at the end of a line joins the line to the next. -/
def hzStep (inside : Bool) (a : UInt8) (rest : Octets) : ScanStep Bool :=
  if a = tilde then
    match rest with
    | [] => .cutOff
    | b :: _ =>
      if inside then if b = 0x7D then .text [] 2 false else .malformed 1
      else if b = tilde then .text [.ofByte tilde] 2 inside
      else if b = 0x7B then .text [] 2 true
      else if b = 0x0A then .text [] 2 inside
      else .malformed 1
  else if 0x80 ≤ a then .malformed 1
  else if inside then
    match rest with
    | [] => .cutOff
    | b :: _ =>
      match Plane.gb2312.char? a.toNat b.toNat with
      | some c => .text [c] 2 inside
      | none => .malformed 1
  else .text [.ofByte a] 1 inside

/-- The units of octets in the form in plain ASCII. -/
def hz : Octets → List DecodedUnit := scan hzStep false

/-! ## Traditional characters -/

def big5Char? (lead trail : Nat) : Option CodePoint :=
  Plane.findChar? [.big5Low, .big5High] lead trail

def big5 : Octets → List DecodedUnit :=
  scanPairs asciiSingle? fun lead trail => alone (big5Char? lead trail)

def windows : Octets → List DecodedUnit :=
  scanPairs asciiSingle? fun lead trail =>
    alone ((Plane.findChar? [.windows950Signs, .windows950Boxes] lead trail).or
      (big5Char? lead trail))

/-- Whether the extension for Hong Kong takes the place of Big5 for two octets. -/
def isReplaced (lead trail : Nat) : Bool :=
  lead = 0xC6 && 0xA1 ≤ trail || lead = 0xC7 || lead = 0xC8

/-- A pair of octets in Big5 with the extension for Hong Kong. -/
def hkscsPair? (lead trail : Nat) : Option Text :=
  let composite? := (hkscsPairs.find? fun p => p.1 = lead && p.2.1 = trail).map fun p =>
    [p.2.2.1, p.2.2.2].filterMap CodePoint.ofNat?
  ((alone (if isReplaced lead trail then none else big5Char? lead trail)).or
    (alone (Plane.findChar? [.hkscsFirst, .hkscsMiddle, .hkscsLast] lead trail))).or composite?

/-- The units of octets in Big5 with the extension for Hong Kong. -/
def hkscs : Octets → List DecodedUnit := scanPairs asciiSingle? hkscsPair?

end Chinese

end SignIn
