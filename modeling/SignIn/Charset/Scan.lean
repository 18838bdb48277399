import SignIn.Text.Utf8

/-!
# Scanning octets

A decoder looks at the octets in front of it and tells what the first of them come to. Scanning
repeats that until no octets are left. Octets that mean nothing give one malformed unit, and so does
all that is left when the octets end in the middle of something.
-/

namespace SignIn

/-- What the octets in front of a decoder come to. -/
inductive ScanStep (σ : Type) where
  /-- The first octets, as many as are counted, stand for a text; the decoder goes on in a state. -/
  | text (t : Text) (length : Nat) (next : σ)
  /-- The first octets, as many as are counted, mean nothing. -/
  | malformed (length : Nat)
  /-- The octets end in the middle of something. -/
  | cutOff

/-- The units of octets by a decoder, which takes one octet at least at every step. -/
def scan {σ : Type} (step : σ → UInt8 → Octets → ScanStep σ) (state : σ) :
    Octets → List DecodedUnit
  | [] => []
  | a :: rest =>
    match step state a rest with
    | .text t length next => t.map .point ++ scan step next (rest.drop (length - 1))
    | .malformed length => .malformed :: scan step state (rest.drop (length - 1))
    | .cutOff => [.malformed]
termination_by octets => octets.length
decreasing_by all_goals (simp only [List.length_drop, List.length_cons]; omega)

/-- The octets that are left where they end in the middle of something. -/
def leftover {σ : Type} (step : σ → UInt8 → Octets → ScanStep σ) (state : σ) : Octets → Octets
  | [] => []
  | a :: rest =>
    match step state a rest with
    | .text _ length next => leftover step next (rest.drop (length - 1))
    | .malformed length => leftover step state (rest.drop (length - 1))
    | .cutOff => a :: rest
termination_by octets => octets.length
decreasing_by all_goals (simp only [List.length_drop, List.length_cons]; omega)

/-- A step of one or two octets: some octets stand alone, others in pairs. -/
def pairStep (single? : UInt8 → Option CodePoint) (pair? : Nat → Nat → Option Text)
    (_ : Unit) (a : UInt8) (rest : Octets) : ScanStep Unit :=
  match single? a, rest with
  | some c, _ => .text [c] 1 ()
  | none, [] => .cutOff
  | none, b :: _ =>
    match pair? a.toNat b.toNat with
    | some t => .text t 2 ()
    | none => .malformed 1

/-- The units of octets of which some stand alone and others in pairs. -/
def scanPairs (single? : UInt8 → Option CodePoint) (pair? : Nat → Nat → Option Text) :
    Octets → List DecodedUnit :=
  scan (pairStep single? pair?) ()

def asciiSingle? (b : UInt8) : Option CodePoint := if b < 0x80 then some (.ofByte b) else none

def scanPage (char? : UInt8 → Option CodePoint) (octets : Octets) : List DecodedUnit :=
  octets.map fun b => (char? b).elim .malformed .point

end SignIn
