import SignIn.Digest.Words

/-!
# SHA-1

The digest of FIPS 180-4 with twenty octets.
-/

namespace SignIn

namespace Sha1

open Digest

/-- The five words of the chaining value. -/
structure State where
  a : UInt32
  b : UInt32
  c : UInt32
  d : UInt32
  e : UInt32

def initial : State := ⟨0x67452301, 0xefcdab89, 0x98badcfe, 0x10325476, 0xc3d2e1f0⟩

/-- The eighty words that a block is expanded to. -/
def schedule (block : List UInt32) : List UInt32 :=
  extend (fun newest =>
    rotateLeft32 (newest.getD 2 0 ^^^ newest.getD 7 0 ^^^ newest.getD 13 0 ^^^ newest.getD 15 0) 1)
    64 block.reverse

/-- The function of a round on three words, with the constant of the round. -/
def mix (round : Nat) (b c d : UInt32) : UInt32 :=
  match round with
  | 0 => ((b &&& c) ||| (~~~b &&& d)) + 0x5a827999
  | 1 => (b ^^^ c ^^^ d) + 0x6ed9eba1
  | 2 => ((b &&& c) ||| (b &&& d) ||| (c &&& d)) + 0x8f1bbcdc
  | _ => (b ^^^ c ^^^ d) + 0xca62c1d6

def step (s : State) (numbered : UInt32 × Nat) : State :=
  let (word, i) := numbered
  let sum := rotateLeft32 s.a 5 + mix (i / 20) s.b s.c s.d + s.e + word
  ⟨sum, s.a, rotateLeft32 s.b 30, s.c, s.d⟩

def compress (s : State) (block : List UInt32) : State :=
  let t := (schedule block).zipIdx.foldl step s
  ⟨s.a + t.a, s.b + t.b, s.c + t.c, s.d + t.d, s.e + t.e⟩

def digest (message : Octets) : Octets :=
  let bits := bigOctets64 (UInt64.ofNat (8 * message.length))
  let s := (blocks (bigWords32 (complete 64 bits message))).foldl compress initial
  bigOctets32 s.a ++ bigOctets32 s.b ++ bigOctets32 s.c ++ bigOctets32 s.d ++ bigOctets32 s.e

theorem length_digest (message : Octets) : (digest message).length = 20 := rfl

end Sha1

end SignIn
