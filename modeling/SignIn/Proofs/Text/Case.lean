import SignIn.Proofs.Codec.Fields
import SignIn.Text.Blank
import SignIn.Text.Upper

/-!
# Spellings of a text

Texts that differ in the case of ASCII letters only have the same upper case and are blank together.
What is already in upper case can be told from the beginning of a longer text, however the rest of
that text is changed by the mapping.
-/

namespace SignIn

namespace CodePoint

theorem toAsciiUpper_of_not_isAsciiLower {c : CodePoint} (h : ¬ c.isAsciiLower = true) :
    c.toAsciiUpper = c := if_neg h

theorem val_toAsciiUpper_of_isAsciiLower {c : CodePoint} (h : c.isAsciiLower = true) :
    c.toAsciiUpper.val = c.val - 32 := by
  rw [toAsciiUpper, if_pos h]

/-- The number of a small letter. -/
theorem isAsciiLower_iff {c : CodePoint} : c.isAsciiLower = true ↔ 0x61 ≤ c.val ∧ c.val ≤ 0x7A := by
  rw [isAsciiLower, Bool.and_eq_true, decide_eq_true_eq, decide_eq_true_eq]

theorem toAsciiUpper_toAsciiUpper (c : CodePoint) :
    c.toAsciiUpper.toAsciiUpper = c.toAsciiUpper := by
  by_cases h : c.isAsciiLower = true
  · have hval := val_toAsciiUpper_of_isAsciiLower h
    rw [isAsciiLower_iff] at h
    apply toAsciiUpper_of_not_isAsciiLower
    rw [isAsciiLower_iff]
    omega
  · rw [toAsciiUpper_of_not_isAsciiLower h, toAsciiUpper_of_not_isAsciiLower h]

/-- The upper case does not depend on the case of an ASCII letter. -/
theorem toUpper_toAsciiUpper (c : CodePoint) : c.toAsciiUpper.toUpper = c.toUpper := by
  by_cases h : c.isAsciiLower = true
  · have hval := val_toAsciiUpper_of_isAsciiLower h
    rw [isAsciiLower_iff] at h
    have hc : c.isAscii = true := by
      rw [isAscii, decide_eq_true_eq]
      omega
    have hupper : c.toAsciiUpper.isAscii = true := by
      rw [isAscii, decide_eq_true_eq]
      omega
    rw [toUpper_of_isAscii hc, toUpper_of_isAscii hupper, toAsciiUpper_toAsciiUpper]
  · rw [toAsciiUpper_of_not_isAsciiLower h]

/-- No letter is white space. -/
theorem isSpace_toAsciiUpper (c : CodePoint) : c.toAsciiUpper.isSpace = c.isSpace := by
  by_cases h : c.isAsciiLower = true
  · have hval := val_toAsciiUpper_of_isAsciiLower h
    rw [isAsciiLower_iff] at h
    have hspace (d : CodePoint) (hlow : 0x20 < d.val) (hhigh : d.val < 0x85) :
        d.isSpace = false := by
      simp only [isSpace, Bool.or_eq_false_iff, Bool.and_eq_false_iff, decide_eq_false_iff_not]
      omega
    rw [hspace c (by omega) (by omega), hspace c.toAsciiUpper (by omega) (by omega)]
  · rw [toAsciiUpper_of_not_isAsciiLower h]

end CodePoint

namespace Text

theorem toUpper_append (t u : Text) : (t ++ u).toUpper = t.toUpper ++ u.toUpper :=
  List.flatMap_append

theorem toUpper_toAsciiUpper (t : Text) : t.toAsciiUpper.toUpper = t.toUpper := by
  rw [toUpper, toAsciiUpper, List.flatMap_map]
  exact congrArg (List.flatMap · t) (funext CodePoint.toUpper_toAsciiUpper)

theorem isBlank_append (t u : Text) : (t ++ u).isBlank = (t.isBlank && u.isBlank) :=
  List.all_append

theorem isBlank_toAsciiUpper (t : Text) : t.toAsciiUpper.isBlank = t.isBlank := by
  rw [isBlank, toAsciiUpper, List.all_map]
  exact congrArg t.all (funext CodePoint.isSpace_toAsciiUpper)

section spelling

variable {t u : Text}

theorem length_eq_of_spelling (h : t.toAsciiUpper = u.toAsciiUpper) : t.length = u.length := by
  have hlength := congrArg List.length h
  rwa [toAsciiUpper, toAsciiUpper, List.length_map, List.length_map] at hlength

theorem toUpper_eq_of_spelling (h : t.toAsciiUpper = u.toAsciiUpper) : t.toUpper = u.toUpper := by
  rw [← toUpper_toAsciiUpper t, h, toUpper_toAsciiUpper]

theorem isBlank_eq_of_spelling (h : t.toAsciiUpper = u.toAsciiUpper) : t.isBlank = u.isBlank := by
  rw [← isBlank_toAsciiUpper t, h, isBlank_toAsciiUpper]

end spelling

/-! ## Beginnings -/

/-- Every code point of a text is its own upper case. -/
def IsUpper (t : Text) : Prop := ∀ c ∈ t, c.toUpper = [c]

theorem toUpper_of_isUpper {t : Text} (h : IsUpper t) : t.toUpper = t := by
  induction t with
  | nil => rfl
  | cons c t ih =>
    have hc : c.toUpper = [c] := h c List.mem_cons_self
    have ht : toUpper t = t := ih fun d hd => h d (List.mem_cons_of_mem c hd)
    rw [toUpper, List.flatMap_cons, hc, ← toUpper, ht, List.singleton_append]

/-- Where the beginning of a text reads as another text, one of the two begins with the other. -/
theorem isPrefix_of_toUpper_take {t rest u : Text} {n : Nat} (ht : IsUpper t)
    (h : Text.toUpper ((t ++ rest).take n) = u) : t <+: u ∨ u <+: t := by
  have htake : IsUpper (t.take n) := fun c hc => ht c (List.mem_of_mem_take hc)
  rw [List.take_append, toUpper_append, toUpper_of_isUpper htake] at h
  by_cases hn : n ≤ t.length
  · right
    rw [Nat.sub_eq_zero_of_le hn, List.take_zero] at h
    have hu : t.take n = u := by rw [← h, toUpper, List.flatMap_nil, List.append_nil]
    exact hu ▸ List.take_prefix n t
  · left
    rw [List.take_of_length_le (by omega)] at h
    exact ⟨_, h⟩

/-- Of two texts that a sign ends, neither begins with the other unless they are the same. -/
theorem eq_of_isPrefix_of_closed {close : CodePoint} {t u : Text} (ht : close ∉ t) (hu : close ∉ u)
    (h : t ++ [close] <+: u ++ [close]) : t = u := by
  obtain ⟨rest, hrest⟩ := h
  have hpieces := congrArg (pieces close) hrest
  rw [List.append_assoc, List.singleton_append, pieces_append ht, pieces_append hu] at hpieces
  exact (List.cons.inj hpieces).1

end Text

end SignIn
