import SignIn.Number.Pi
import SignIn.Text.Basic

/-!
# The key schedule of bcrypt

A block cipher with sixteen rounds on two 32-bit words. Its subkeys and substitution boxes begin as
the digits of π and are stirred with the key and the salt, over and over, as many times as the cost
demands.
-/

namespace SignIn

namespace Bcrypt

/-- The state of the cipher: eighteen subkeys and four boxes of 256 words, one after the other. -/
structure Cipher where
  subkeys : Array UInt32
  boxes : Array UInt32

/-- The state before any key: the digits of π. -/
def Cipher.initial (digits : Array UInt32) : Cipher :=
  ⟨digits.extract 0 18, digits.extract 18 1042⟩

/-- The word of a box for one octet of the input. -/
@[inline] def boxWord (boxes : Array UInt32) (box : Nat) (x : UInt32) : UInt32 :=
  boxes.getD (256 * box + (x &&& 0xFF).toNat) 0

@[inline] def mix (boxes : Array UInt32) (x : UInt32) : UInt32 :=
  ((boxWord boxes 0 (x >>> 24) + boxWord boxes 1 (x >>> 16)) ^^^ boxWord boxes 2 (x >>> 8)) +
    boxWord boxes 3 x

/-- The remaining rounds, of which there are sixteen at first, and the final whitening. -/
def rounds (subkeys boxes : Array UInt32) : Nat → UInt32 → UInt32 → UInt32 × UInt32
  | 0, left, right => (right ^^^ subkeys.getD 17 0, left ^^^ subkeys.getD 16 0)
  | count + 1, left, right =>
    let left := left ^^^ subkeys.getD (15 - count) 0
    rounds subkeys boxes count (right ^^^ mix boxes left) left

def encipher (subkeys boxes : Array UInt32) (left right : UInt32) : UInt32 × UInt32 :=
  rounds subkeys boxes 16 left right

/-- Replaces the subkeys in pairs by encrypting a running block, stirred with the salt. -/
def refillSubkeys (boxes : Array UInt32) (salt : Array UInt32) :
    Nat → Nat → UInt32 → UInt32 → Array UInt32 → Array UInt32 × UInt32 × UInt32
  | 0, _, left, right, subkeys => (subkeys, left, right)
  | count + 1, i, left, right, subkeys =>
    let (left, right) :=
      encipher subkeys boxes (left ^^^ salt.getD (i % 4) 0) (right ^^^ salt.getD (i % 4 + 1) 0)
    let subkeys := (subkeys.setIfInBounds i left).setIfInBounds (i + 1) right
    refillSubkeys boxes salt count (i + 2) left right subkeys

/-- Replaces the words of the boxes in pairs, in the same way. The salt goes on where the subkeys
left off. -/
def refillBoxes (subkeys : Array UInt32) (salt : Array UInt32) :
    Nat → Nat → UInt32 → UInt32 → Array UInt32 → Array UInt32
  | 0, _, _, _, boxes => boxes
  | count + 1, i, left, right, boxes =>
    let (left, right) :=
      encipher subkeys boxes (left ^^^ salt.getD ((i + 2) % 4) 0)
        (right ^^^ salt.getD ((i + 2) % 4 + 1) 0)
    let boxes := (boxes.setIfInBounds i left).setIfInBounds (i + 1) right
    refillBoxes subkeys salt count (i + 2) left right boxes

def Cipher.expand (c : Cipher) (salt key : Array UInt32) : Cipher :=
  let stirred := c.subkeys.mapIdx fun i word => word ^^^ key.getD i 0
  let (subkeys, left, right) := refillSubkeys c.boxes salt 9 0 0 0 stirred
  ⟨subkeys, refillBoxes subkeys salt 512 0 left right c.boxes⟩

/-- Stirs in the key and the salt in turn, a given number of times. -/
def Cipher.repeatExpand (key salt : Array UInt32) : Nat → Cipher → Cipher
  | 0, c => c
  | count + 1, c =>
    repeatExpand key salt count ((c.expand #[] key).expand #[] salt)

def Cipher.repeatEncipher (c : Cipher) : Nat → UInt32 × UInt32 → UInt32 × UInt32
  | 0, block => block
  | count + 1, block => c.repeatEncipher count (encipher c.subkeys c.boxes block.1 block.2)

/-- Eighteen words of octets that are repeated as often as it takes. -/
def cyclicWords (octets : Octets) : Array UInt32 :=
  let source := octets.toArray
  let octet (i : Nat) : UInt32 := (source.getD (i % source.size) 0).toUInt32
  Array.ofFn fun i : Fin 18 =>
    octet (4 * i) <<< 24 ||| octet (4 * i + 1) <<< 16 ||| octet (4 * i + 2) <<< 8 |||
      octet (4 * i + 3)

end Bcrypt

end SignIn
