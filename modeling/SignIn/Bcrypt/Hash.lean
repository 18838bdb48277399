import SignIn.Bcrypt.Cipher
import SignIn.Codec.Base64
import SignIn.Digest.Words
import SignIn.Text.Utf8

/-!
# Password hashes by bcrypt

A hash text names a version, a cost and a salt, which are all that hashing needs, and ends in the
hash itself. So a password is checked by hashing it under the stored text and comparing the result
with that text. Passwords have at most 72 octets; everything else about them is free, zero octets
included.
-/

namespace SignIn

namespace Bcrypt

/-- The versions of the hash text. They name revisions of the algorithm that agree on the passwords
admitted here. -/
inductive Version where
  | v2a
  | v2b
  | v2x
  | v2y
deriving DecidableEq

def Version.name : Version → String
  | .v2a => "2a"
  | .v2b => "2b"
  | .v2x => "2x"
  | .v2y => "2y"

def Version.ofName? (t : Text) : Option Version :=
  [v2a, v2b, v2x, v2y].find? fun v => Text.ofString v.name == t

/-- What hashing needs to know apart from the password. -/
structure Setting where
  version : Version
  cost : Nat
  salt : Octets
deriving DecidableEq

/-- The greatest count of octets of a password. -/
def maxPassword : Nat := 72

/-- The dollar sign, which separates the parts of a hash text. -/
def separator : CodePoint := CodePoint.ofChar '$'

/-- The cost of a text of digits, with an optional plus sign, between 4 and 31. -/
def cost? (t : Text) : Option Nat :=
  let digits := match t with
    | c :: u => if c = '+' then u else t
    | [] => t
  if digits ≠ [] ∧ digits.all CodePoint.isAsciiDigit then
    let cost := digits.foldl (fun n c => 10 * n + (c.val - 0x30)) 0
    if 4 ≤ cost ∧ cost ≤ 31 then some cost else none
  else none

/-- The octets of a salt in symbols. The bits of the last symbol that no octet takes up must be
zero. -/
def salt? (symbols : Text) : Option Octets := do
  let salt ← Base64.decodeUnpadded? .crypt symbols
  if Base64.symbols .crypt salt = symbols then some salt else none

/-- The setting that a hash text or a salt text begins with. -/
def Setting.parse? (t : Text) : Option Setting :=
  match (Text.pieces separator t).filter (· ≠ []) with
  | [version, cost, rest] => do
    let version ← Version.ofName? version
    let cost ← cost? cost
    if rest.length < 22 then none
    let salt ← salt? (rest.take 22)
    return ⟨version, cost, salt⟩
  | _ => none

def Setting.toText (s : Setting) : Text :=
  let cost := Text.ofNat s.cost
  separator :: (s.version.name : Text) ++
    separator :: List.replicate (2 - cost.length) (CodePoint.ofChar '0') ++ cost ++
    separator :: Base64.symbols .crypt s.salt

/-- The text that is encrypted in the end. -/
def magic : Array UInt32 :=
  #[0x4F727068, 0x65616E42, 0x65686F6C, 0x64657253, 0x63727944, 0x6F756274]

/-- The hash of a key under a salt: 23 octets. -/
def digest (cost : Nat) (salt key : Octets) : Octets :=
  let saltWords := cyclicWords salt
  let keyWords := cyclicWords (key ++ [0])
  let start := (Cipher.initial (Pi.words 1042)).expand (saltWords.extract 0 4) keyWords
  let cipher := Cipher.repeatExpand keyWords saltWords (1 <<< cost) start
  let block (i : Nat) : Octets :=
    let (left, right) :=
      cipher.repeatEncipher 64 (magic.getD (2 * i) 0, magic.getD (2 * i + 1) 0)
    Digest.bigOctets32 left ++ Digest.bigOctets32 right
  (block 0 ++ block 1 ++ block 2).take 23

/-- The hash text of a password under a setting, for a password that is not too long. -/
def hash? (password : Octets) (setting : Setting) : Option Text :=
  if password.length ≤ maxPassword then
    some (setting.toText ++
      Base64.symbols .crypt (digest setting.cost setting.salt password))
  else none

def hashWith? (password : Octets) (salt : Text) : Option Text :=
  (Setting.parse? salt).bind (hash? password)

/-- Whether a password belongs to a stored hash text; none if it is too long or the text no hash. -/
def check? (password : Octets) (stored : Text) : Option Bool :=
  (hashWith? password stored).map fun t => decide (t = stored)

end Bcrypt

end SignIn
