import SignIn.Codec.Base64

/-!
# Randomness

Random octets come from a stream that is passed in, so that every run is determined by its inputs.
Each draw takes the next octets of the stream.
-/

namespace SignIn

/-- A stream of random octets and how many of them have been drawn. -/
structure RandomStream where
  octet : Nat → UInt8
  drawn : Nat

namespace RandomStream

def draw (r : RandomStream) (count : Nat) : Octets × RandomStream :=
  ((List.range count).map fun i => r.octet (r.drawn + i), { r with drawn := r.drawn + count })

/-- Draws octets and writes them in the URL-safe alphabet. A negative count has no draw. -/
def token? (r : RandomStream) (count : Int) : Option (Text × RandomStream) :=
  if count < 0 then none
  else
    let (octets, r) := r.draw count.toNat
    some (Base64.encodeUrl octets, r)

@[simp] theorem length_draw (r : RandomStream) (count : Nat) : (r.draw count).1.length = count := by
  simp [draw]

end RandomStream

end SignIn
