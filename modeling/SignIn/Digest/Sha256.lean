import SignIn.Digest.Words

/-!
# SHA-256

The digest of FIPS 180-4 with thirty-two octets.
-/

namespace SignIn

namespace Sha256

open Digest

/-- The eight words of the chaining value. -/
structure State where
  a : UInt32
  b : UInt32
  c : UInt32
  d : UInt32
  e : UInt32
  f : UInt32
  g : UInt32
  h : UInt32

/-- The chaining value before the first block: fractional parts of the square roots of primes. -/
def initial : State :=
  ⟨0x6a09e667, 0xbb67ae85, 0x3c6ef372, 0xa54ff53a, 0x510e527f, 0x9b05688c, 0x1f83d9ab, 0x5be0cd19⟩

/-- The constants of the rounds: fractional parts of the cube roots of primes. -/
def constants : List UInt32 :=
  [0x428a2f98, 0x71374491, 0xb5c0fbcf, 0xe9b5dba5, 0x3956c25b, 0x59f111f1, 0x923f82a4, 0xab1c5ed5,
   0xd807aa98, 0x12835b01, 0x243185be, 0x550c7dc3, 0x72be5d74, 0x80deb1fe, 0x9bdc06a7, 0xc19bf174,
   0xe49b69c1, 0xefbe4786, 0x0fc19dc6, 0x240ca1cc, 0x2de92c6f, 0x4a7484aa, 0x5cb0a9dc, 0x76f988da,
   0x983e5152, 0xa831c66d, 0xb00327c8, 0xbf597fc7, 0xc6e00bf3, 0xd5a79147, 0x06ca6351, 0x14292967,
   0x27b70a85, 0x2e1b2138, 0x4d2c6dfc, 0x53380d13, 0x650a7354, 0x766a0abb, 0x81c2c92e, 0x92722c85,
   0xa2bfe8a1, 0xa81a664b, 0xc24b8b70, 0xc76c51a3, 0xd192e819, 0xd6990624, 0xf40e3585, 0x106aa070,
   0x19a4c116, 0x1e376c08, 0x2748774c, 0x34b0bcb5, 0x391c0cb3, 0x4ed8aa4a, 0x5b9cca4f, 0x682e6ff3,
   0x748f82ee, 0x78a5636f, 0x84c87814, 0x8cc70208, 0x90befffa, 0xa4506ceb, 0xbef9a3f7, 0xc67178f2]

/-- The words that a block is expanded to, one for each round. -/
def schedule (block : List UInt32) : List UInt32 :=
  extend (fun newest =>
    let w2 := newest.getD 1 0
    let w15 := newest.getD 14 0
    (rotateRight32 w2 17 ^^^ rotateRight32 w2 19 ^^^ w2 >>> 10) + newest.getD 6 0 +
      (rotateRight32 w15 7 ^^^ rotateRight32 w15 18 ^^^ w15 >>> 3) + newest.getD 15 0)
    48 block.reverse

def step (s : State) (input : UInt32 × UInt32) : State :=
  let upper := rotateRight32 s.e 6 ^^^ rotateRight32 s.e 11 ^^^ rotateRight32 s.e 25
  let choice := (s.e &&& s.f) ^^^ (~~~s.e &&& s.g)
  let first := s.h + upper + choice + input.1 + input.2
  let lower := rotateRight32 s.a 2 ^^^ rotateRight32 s.a 13 ^^^ rotateRight32 s.a 22
  let majority := (s.a &&& s.b) ^^^ (s.a &&& s.c) ^^^ (s.b &&& s.c)
  ⟨first + (lower + majority), s.a, s.b, s.c, s.d + first, s.e, s.f, s.g⟩

def compress (s : State) (block : List UInt32) : State :=
  let t := (constants.zip (schedule block)).foldl step s
  ⟨s.a + t.a, s.b + t.b, s.c + t.c, s.d + t.d, s.e + t.e, s.f + t.f, s.g + t.g, s.h + t.h⟩

def digest (message : Octets) : Octets :=
  let bits := bigOctets64 (UInt64.ofNat (8 * message.length))
  let s := (blocks (bigWords32 (complete 64 bits message))).foldl compress initial
  bigOctets32 s.a ++ bigOctets32 s.b ++ bigOctets32 s.c ++ bigOctets32 s.d ++ bigOctets32 s.e ++
    bigOctets32 s.f ++ bigOctets32 s.g ++ bigOctets32 s.h

theorem length_digest (message : Octets) : (digest message).length = 32 := rfl

end Sha256

end SignIn
