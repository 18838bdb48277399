import SignIn.Text.Basic

/-!
# Words and blocks

The digests work on words of 32 or 64 bits. A message is completed by one bit, zeros and its length
in bits, and cut into blocks.
-/

namespace SignIn

namespace Digest

/-- The octets of a 32-bit word, the most significant first. -/
def bigOctets32 (w : UInt32) : Octets :=
  [(w >>> 24).toUInt8, (w >>> 16).toUInt8, (w >>> 8).toUInt8, w.toUInt8]

/-- The octets of a 32-bit word, the least significant first. -/
def littleOctets32 (w : UInt32) : Octets :=
  [w.toUInt8, (w >>> 8).toUInt8, (w >>> 16).toUInt8, (w >>> 24).toUInt8]

/-- The octets of a 64-bit word, the most significant first. -/
def bigOctets64 (w : UInt64) : Octets :=
  bigOctets32 (w >>> 32).toUInt32 ++ bigOctets32 w.toUInt32

/-- The octets of a 64-bit word, the least significant first. -/
def littleOctets64 (w : UInt64) : Octets :=
  littleOctets32 w.toUInt32 ++ littleOctets32 (w >>> 32).toUInt32

/-- The 32-bit words of octets, the most significant octet first. -/
def bigWords32 : Octets → List UInt32
  | a :: b :: c :: d :: rest =>
    (a.toUInt32 <<< 24 ||| b.toUInt32 <<< 16 ||| c.toUInt32 <<< 8 ||| d.toUInt32) ::
      bigWords32 rest
  | _ => []

/-- The 32-bit words of octets, the least significant octet first. -/
def littleWords32 : Octets → List UInt32
  | a :: b :: c :: d :: rest =>
    (a.toUInt32 ||| b.toUInt32 <<< 8 ||| c.toUInt32 <<< 16 ||| d.toUInt32 <<< 24) ::
      littleWords32 rest
  | _ => []

/-- The 64-bit words of a list of 32-bit words, the most significant first. -/
def pairs64 : List UInt32 → List UInt64
  | a :: b :: rest => (a.toUInt64 <<< 32 ||| b.toUInt64) :: pairs64 rest
  | _ => []

/-- A message completed to whole blocks: one bit, zeros, and the length field. -/
def complete (blockSize : Nat) (lengthField : Octets) (message : Octets) : Octets :=
  let used := message.length + 1 + lengthField.length
  message ++ 0x80 :: List.replicate ((blockSize - used % blockSize) % blockSize) 0 ++ lengthField

/-- Cuts words into blocks of sixteen. -/
def blocks {α : Type} (words : List α) : List (List α) :=
  (List.range (words.length / 16)).map fun i => (words.drop (16 * i)).take 16

def rotateLeft32 (w n : UInt32) : UInt32 := w <<< n ||| w >>> (32 - n)

def rotateRight32 (w n : UInt32) : UInt32 := w >>> n ||| w <<< (32 - n)

def rotateRight64 (w n : UInt64) : UInt64 := w >>> n ||| w <<< (64 - n)

/-- A list of words extended by a rule on the words before; newest first in the argument. -/
def extend {α : Type} (next : List α → α) : Nat → List α → List α
  | 0, newest => newest.reverse
  | count + 1, newest => extend next count (next newest :: newest)

end Digest

end SignIn
