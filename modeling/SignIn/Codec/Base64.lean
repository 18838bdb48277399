import SignIn.Text.Basic

/-!
# Base64

Three octets are written as four symbols of six bits each. The standard alphabet ends in `+` and `/`
and its texts are padded with `=` to a whole number of groups; the URL-safe alphabet ends in `-` and
`_`, the alphabet of password hashes begins with `.` and `/`, and their texts are not padded.
Reading ignores the bits of the last symbol that no octet takes up.
-/

namespace SignIn

namespace Base64

/-- The alphabets: letters, digits and two signs of their own. -/
inductive Alphabet where
  | standard
  | urlSafe
  /-- The alphabet of password hashes, whose two signs come first. -/
  | crypt
deriving DecidableEq

def Alphabet.signs : Alphabet → Nat × Nat
  | .standard => (0x2B, 0x2F)
  | .urlSafe => (0x2D, 0x5F)
  | .crypt => (0x2E, 0x2F)

/-- The number of a letter or digit, of which there are 62. -/
def alphanumericNumber (n : Nat) : Nat :=
  if n < 26 then 0x41 + n
  else if n < 52 then 0x61 + (n - 26)
  else 0x30 + (n - 52)

def symbolNumber (alphabet : Alphabet) (n : Nat) : Nat :=
  match alphabet with
  | .crypt =>
    if n = 0 then alphabet.signs.1
    else if n = 1 then alphabet.signs.2
    else alphanumericNumber ((n - 2) % 62)
  | _ =>
    if n < 62 then alphanumericNumber n
    else if n = 62 then alphabet.signs.1
    else alphabet.signs.2

theorem alphanumericNumber_lt {n : Nat} (h : n < 62) : alphanumericNumber n < 0x80 := by
  unfold alphanumericNumber
  (repeat' split) <;> omega

theorem symbolNumber_lt (alphabet : Alphabet) (n : Nat) : symbolNumber alphabet n < 0x80 := by
  have hmod : (n - 2) % 62 < 62 := Nat.mod_lt _ (by decide)
  have hcrypt := alphanumericNumber_lt hmod
  by_cases h : n < 62
  · have hother := alphanumericNumber_lt h
    cases alphabet <;> simp only [symbolNumber, Alphabet.signs] <;> (repeat' split) <;> omega
  · cases alphabet <;> simp only [symbolNumber, Alphabet.signs] <;> (repeat' split) <;> omega

def symbol (alphabet : Alphabet) (n : Nat) : CodePoint :=
  ⟨symbolNumber alphabet n, Nat.lt_trans (symbolNumber_lt alphabet n) (by decide)⟩

/-- The place of a letter or digit among the 62. -/
def alphanumericValue? (c : CodePoint) : Option Nat :=
  if c.isAsciiUpper then some (c.val - 0x41)
  else if c.isAsciiLower then some (c.val - 0x61 + 26)
  else if c.isAsciiDigit then some (c.val - 0x30 + 52)
  else none

/-- The six bits of a symbol. -/
def value? (alphabet : Alphabet) (c : CodePoint) : Option Nat :=
  match alphabet with
  | .crypt =>
    if c.val = alphabet.signs.1 then some 0
    else if c.val = alphabet.signs.2 then some 1
    else (alphanumericValue? c).map (· + 2)
  | _ =>
    if c.val = alphabet.signs.1 then some 62
    else if c.val = alphabet.signs.2 then some 63
    else alphanumericValue? c

/-- The symbols of octets, without padding. -/
def symbols (alphabet : Alphabet) : Octets → Text
  | [] => []
  | [a] => [symbol alphabet (a.toNat / 4), symbol alphabet (a.toNat % 4 * 16)]
  | [a, b] =>
    [symbol alphabet (a.toNat / 4), symbol alphabet (a.toNat % 4 * 16 + b.toNat / 16),
      symbol alphabet (b.toNat % 16 * 4)]
  | a :: b :: c :: rest =>
    symbol alphabet (a.toNat / 4) :: symbol alphabet (a.toNat % 4 * 16 + b.toNat / 16) ::
      symbol alphabet (b.toNat % 16 * 4 + c.toNat / 64) :: symbol alphabet (c.toNat % 64) ::
      symbols alphabet rest

def pad : CodePoint := CodePoint.ofChar '='

/-- The padding that completes the last group of a count of octets. -/
def padding (size : Nat) : Text := List.replicate ((3 - size % 3) % 3) pad

/-- The padded text of octets in the standard alphabet. -/
def encode (octets : Octets) : Text := symbols .standard octets ++ padding octets.length

/-- The text of octets in the URL-safe alphabet, without padding. -/
def encodeUrl (octets : Octets) : Text := symbols .urlSafe octets

/-- Three octets take four symbols, and what is left of a group takes one symbol more than it has
octets. -/
theorem length_symbols (alphabet : Alphabet) (octets : Octets) :
    (symbols alphabet octets).length = (4 * octets.length + 2) / 3 := by
  induction octets using symbols.induct with
  | case1 => rfl
  | case2 a => simp [symbols]
  | case3 a b => simp [symbols]
  | case4 a b c rest ih =>
    simp only [symbols, List.length_cons, ih]
    omega

theorem length_encodeUrl (octets : Octets) :
    (encodeUrl octets).length = (4 * octets.length + 2) / 3 :=
  length_symbols .urlSafe octets

/-- The octets of four symbols. -/
def group (a b c d : Nat) : Octets :=
  [UInt8.ofNat (a * 4 + b / 16), UInt8.ofNat (b % 16 * 16 + c / 4), UInt8.ofNat (c % 4 * 64 + d)]

/-- The octets of a text whose symbols have the given values and which is padded to whole groups. -/
def groups? (values? : CodePoint → Option Nat) : Text → Option Octets
  | [] => some []
  | a :: b :: c :: d :: rest =>
    match values? a, values? b with
    | some x, some y =>
      match values? c, values? d with
      | some z, some w => (groups? values? rest).map (group x y z w ++ ·)
      | some z, none => if d = pad ∧ rest = [] then some ((group x y z 0).take 2) else none
      | none, _ => if c = pad ∧ d = pad ∧ rest = [] then some ((group x y 0 0).take 1) else none
    | _, _ => none
  | _ => none

/-- The octets of a padded text in the standard alphabet. -/
def decode? (t : Text) : Option Octets := groups? (value? .standard) t

def decodeUnpadded? (alphabet : Alphabet) (t : Text) : Option Octets :=
  groups? (value? alphabet) (t ++ List.replicate ((4 - t.length % 4) % 4) pad)

end Base64

end SignIn
