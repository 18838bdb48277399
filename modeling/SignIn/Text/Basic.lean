/-!
# Text

A text is a list of Unicode code points. Lone surrogates are code points too: requests, provider
answers and configuration may carry them, and several operations fail exactly on them. The ordinary
`String` coerces into `Text`, so messages and parameter names are written as literals.
-/

namespace SignIn

/-- A Unicode code point, surrogates included. -/
structure CodePoint where
  val : Nat
  val_lt : val < 0x110000
deriving DecidableEq

namespace CodePoint

def ofNat? (n : Nat) : Option CodePoint :=
  if h : n < 0x110000 then some ⟨n, h⟩ else none

def ofChar (c : Char) : CodePoint :=
  ⟨c.toNat, by
    have h : c.toNat.isValidChar := c.valid
    unfold Nat.isValidChar at h
    omega⟩

instance : Coe Char CodePoint := ⟨ofChar⟩

def ofByte (b : UInt8) : CodePoint :=
  ⟨b.toNat, Nat.lt_trans b.toNat_lt (by decide)⟩

/-- U+FFFD, which stands for what could not be decoded. -/
def replacement : CodePoint := ⟨0xFFFD, by decide⟩

/-- Surrogates are the code points that no encoding form can carry on their own. -/
def isSurrogate (c : CodePoint) : Bool := 0xD800 ≤ c.val && c.val < 0xE000

def isAscii (c : CodePoint) : Bool := c.val < 0x80

def isAsciiDigit (c : CodePoint) : Bool := 0x30 ≤ c.val && c.val ≤ 0x39

def isAsciiUpper (c : CodePoint) : Bool := 0x41 ≤ c.val && c.val ≤ 0x5A

def isAsciiLower (c : CodePoint) : Bool := 0x61 ≤ c.val && c.val ≤ 0x7A

def isAsciiAlphanumeric (c : CodePoint) : Bool :=
  c.isAsciiDigit || c.isAsciiUpper || c.isAsciiLower

/-- Lower case of the ASCII letters; every other code point stays. -/
def toAsciiLower (c : CodePoint) : CodePoint :=
  if h : c.isAsciiUpper then
    ⟨c.val + 32, by simp [isAsciiUpper] at h; omega⟩
  else c

/-- Upper case of the ASCII letters; every other code point stays. -/
def toAsciiUpper (c : CodePoint) : CodePoint :=
  if c.isAsciiLower then ⟨c.val - 32, Nat.lt_of_le_of_lt (Nat.sub_le _ _) c.val_lt⟩ else c

def hexValue? (c : CodePoint) : Option Nat :=
  if c.isAsciiDigit then some (c.val - 0x30)
  else if 0x41 ≤ c.val ∧ c.val ≤ 0x46 then some (c.val - 0x37)
  else if 0x61 ≤ c.val ∧ c.val ≤ 0x66 then some (c.val - 0x57)
  else none

end CodePoint

abbrev Text := List CodePoint

abbrev Octets := List UInt8

namespace Text

def ofString (s : String) : Text := s.toList.map CodePoint.ofChar

instance : Coe String Text := ⟨ofString⟩

def concat (parts : List Text) : Text := parts.flatten

def joinWith (separator : Text) : List Text → Text
  | [] => []
  | [t] => t
  | t :: ts => t ++ separator ++ joinWith separator ts

def ofNat (n : Nat) : Text := (Nat.toDigits 10 n).map CodePoint.ofChar

/-- An integer in decimal, with a minus sign when it is negative. -/
def ofInt : Int → Text
  | .ofNat n => ofNat n
  | .negSucc n => ("-" : Text) ++ ofNat (n + 1)

def toAsciiLower (t : Text) : Text := t.map CodePoint.toAsciiLower

def toAsciiUpper (t : Text) : Text := t.map CodePoint.toAsciiUpper

/-- Cuts at the first occurrence of a code point, which belongs to neither part. -/
def cutAt? (c : CodePoint) : Text → Option (Text × Text)
  | [] => none
  | d :: t => if d = c then some ([], t) else (cutAt? c t).map fun p => (d :: p.1, p.2)

/-- The pieces between the occurrences of a code point, one more than there are occurrences. -/
def pieces (c : CodePoint) : Text → List Text
  | [] => [[]]
  | d :: t =>
    if d = c then [] :: pieces c t
    else match pieces c t with
      | [] => [[d]]
      | p :: ps => (d :: p) :: ps

def stripStart? : Text → Text → Option Text
  | [], t => some t
  | _ :: _, [] => none
  | c :: start, d :: t => if c = d then stripStart? start t else none

def startsWith (t start : Text) : Bool := (stripStart? start t).isSome

def trimWhere (p : CodePoint → Bool) (t : Text) : Text :=
  ((t.dropWhile p).reverse.dropWhile p).reverse

theorem ofString_inj {s u : String} : ofString s = ofString u ↔ s = u := by
  constructor
  · intro h
    have hchar : ∀ c d : Char, CodePoint.ofChar c = CodePoint.ofChar d → c = d := fun c d hcd =>
      Char.toNat_inj.1 (congrArg CodePoint.val hcd)
    exact String.toList_inj.1 ((List.map_inj_right hchar).1 h)
  · exact congrArg ofString

@[simp] theorem concat_nil : concat [] = [] := rfl

@[simp] theorem concat_cons (t : Text) (ts : List Text) : concat (t :: ts) = t ++ concat ts := by
  simp [concat]

theorem joinWith_cons (separator t : Text) {ts : List Text} (h : ts ≠ []) :
    joinWith separator (t :: ts) = t ++ separator ++ joinWith separator ts := by
  cases ts with
  | nil => exact absurd rfl h
  | cons u us => rfl

/-- What stands in joined texts stands in the separator or in one of them. -/
theorem mem_joinWith {separator : Text} {ts : List Text} {c : CodePoint}
    (h : c ∈ joinWith separator ts) : c ∈ separator ∨ ∃ t ∈ ts, c ∈ t := by
  induction ts with
  | nil => cases h
  | cons t ts ih =>
    by_cases hts : ts = []
    · subst hts
      exact .inr ⟨t, List.mem_cons_self, h⟩
    · rw [joinWith_cons separator t hts, List.mem_append, List.mem_append] at h
      rcases h with (h | h) | h
      · exact .inr ⟨t, List.mem_cons_self, h⟩
      · exact .inl h
      · exact (ih h).imp_right fun ⟨u, hu, hc⟩ => ⟨u, List.mem_cons_of_mem t hu, hc⟩

@[simp] theorem stripStart?_append (start t : Text) : stripStart? start (start ++ t) = some t := by
  induction start with
  | nil => rfl
  | cons c start ih => simp [stripStart?, ih]

theorem eq_append_of_stripStart? {start t rest : Text} (h : stripStart? start t = some rest) :
    t = start ++ rest := by
  induction start generalizing t with
  | nil => simpa [stripStart?] using h
  | cons c start ih =>
    cases t with
    | nil => simp [stripStart?] at h
    | cons d t =>
      simp only [stripStart?] at h
      split at h
      · rename_i hcd
        rw [hcd, ih h, List.cons_append]
      · simp at h

end Text

end SignIn
