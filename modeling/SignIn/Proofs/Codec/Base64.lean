import SignIn.Codec.Base64
import SignIn.Proofs.Text.Utf8
import SignIn.Text.Blank

/-!
# The URL-safe alphabet

What a text in the URL-safe alphabet looks like: letters, digits, hyphens and underscores only, and
four symbols for every three octets. So it is ASCII, it can be written, and it is blank only when it
stands for no octets.
-/

namespace SignIn

/-- The characters of the URL-safe alphabet: letters, digits, hyphen and underscore. -/
def CodePoint.isUrlSafe (c : CodePoint) : Bool :=
  c.isAsciiAlphanumeric || c.val = 0x2D || c.val = 0x5F

namespace CodePoint

variable {c : CodePoint}

/-- The numbers of the characters of the URL-safe alphabet. -/
theorem isUrlSafe_iff :
    c.isUrlSafe = true ↔ (0x41 ≤ c.val ∧ c.val ≤ 0x5A) ∨ (0x61 ≤ c.val ∧ c.val ≤ 0x7A) ∨
      (0x30 ≤ c.val ∧ c.val ≤ 0x39) ∨ c.val = 0x2D ∨ c.val = 0x5F := by
  simp only [isUrlSafe, isAsciiAlphanumeric, isAsciiDigit, isAsciiUpper, isAsciiLower,
    Bool.or_eq_true, Bool.and_eq_true, decide_eq_true_eq]
  omega

theorem isAscii_of_isUrlSafe (h : c.isUrlSafe = true) : c.isAscii = true := by
  rw [isUrlSafe_iff] at h
  simp only [isAscii, decide_eq_true_eq]
  omega

theorem isSpace_of_isUrlSafe (h : c.isUrlSafe = true) : c.isSpace = false := by
  rw [isUrlSafe_iff] at h
  simp only [isSpace, Bool.or_eq_false_iff, Bool.and_eq_false_iff, decide_eq_false_iff_not]
  omega

theorem isSurrogate_of_isUrlSafe (h : c.isUrlSafe = true) : c.isSurrogate = false := by
  rw [isUrlSafe_iff] at h
  simp only [isSurrogate, Bool.and_eq_false_iff, decide_eq_false_iff_not]
  omega

end CodePoint

namespace Base64

theorem isUrlSafe_symbol {n : Nat} (h : n < 64) : (symbol .urlSafe n).isUrlSafe = true := by
  rw [CodePoint.isUrlSafe_iff]
  simp only [symbol, symbolNumber, Alphabet.signs, alphanumericNumber]
  (repeat' split) <;> omega

/-- What the symbols of octets stand for are six bits each. -/
theorem exists_symbol_of_mem {alphabet : Alphabet} {octets : Octets} {c : CodePoint}
    (h : c ∈ symbols alphabet octets) : ∃ n < 64, c = symbol alphabet n := by
  induction octets using symbols.induct with
  | case1 => cases h
  | case2 a =>
    have ha := a.toNat_lt
    simp only [symbols, List.mem_cons, List.not_mem_nil, or_false] at h
    rcases h with rfl | rfl <;> exact ⟨_, by omega, rfl⟩
  | case3 a b =>
    have ha := a.toNat_lt
    have hb := b.toNat_lt
    simp only [symbols, List.mem_cons, List.not_mem_nil, or_false] at h
    rcases h with rfl | rfl | rfl <;> exact ⟨_, by omega, rfl⟩
  | case4 a b c rest ih =>
    have ha := a.toNat_lt
    have hb := b.toNat_lt
    have hc := c.toNat_lt
    simp only [symbols, List.mem_cons] at h
    rcases h with rfl | rfl | rfl | rfl | h
    · exact ⟨_, by omega, rfl⟩
    · exact ⟨_, by omega, rfl⟩
    · exact ⟨_, by omega, rfl⟩
    · exact ⟨_, by omega, rfl⟩
    · exact ih h

/-- A text in the URL-safe alphabet holds nothing but symbols of that alphabet. -/
theorem isUrlSafe_of_mem {octets : Octets} {c : CodePoint} (h : c ∈ encodeUrl octets) :
    c.isUrlSafe = true := by
  obtain ⟨n, hn, rfl⟩ := exists_symbol_of_mem h
  exact isUrlSafe_symbol hn

theorem encodable_encodeUrl (octets : Octets) : Utf8.encodable (encodeUrl octets) = true := by
  unfold Utf8.encodable
  simp only [List.all_eq_true, Bool.not_eq_true']
  exact fun c hc => CodePoint.isSurrogate_of_isUrlSafe (isUrlSafe_of_mem hc)

theorem isAscii_encodeUrl (octets : Octets) : (encodeUrl octets).all CodePoint.isAscii = true :=
  List.all_eq_true.2 fun _ hc => CodePoint.isAscii_of_isUrlSafe (isUrlSafe_of_mem hc)

/-- The text of some octets is not blank. -/
theorem isBlank_encodeUrl {octets : Octets} (h : octets ≠ []) :
    (encodeUrl octets).isBlank = false := by
  cases hsymbols : encodeUrl octets with
  | nil =>
    have hlength := length_encodeUrl octets
    have hpos := List.length_pos_iff.2 h
    rw [hsymbols, List.length_nil] at hlength
    omega
  | cons c rest =>
    have hc : c.isUrlSafe = true := isUrlSafe_of_mem (hsymbols ▸ List.mem_cons_self)
    rw [Text.isBlank, List.all_cons, CodePoint.isSpace_of_isUrlSafe hc, Bool.false_and]

end Base64

end SignIn
