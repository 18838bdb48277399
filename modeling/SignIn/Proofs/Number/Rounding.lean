import Mathlib.Data.Nat.Log
import SignIn.Number.Binary64

/-!
# Rounding

A count of units is rounded to a multiple of the spacing about it, the one below or, from in
between, the one above. Representable counts are multiples of all smaller spacings, so rounding
never leads past one of them.
-/

namespace SignIn

namespace Binary64

variable {m n : Nat}

/-! ## Spacings -/

theorem spacing_eq_two_pow (n : Nat) : spacing n = Nat.pow 2 (n.log2 - 52) := Nat.one_shiftLeft _

theorem spacing_pos (n : Nat) : 0 < spacing n := by
  rw [spacing_eq_two_pow]
  exact Nat.two_pow_pos _

theorem log2_le_log2_of_le (h : m ≤ n) : m.log2 ≤ n.log2 := by
  rw [Nat.log2_eq_log_two, Nat.log2_eq_log_two]
  exact Nat.log_mono_right h

/-- Spacings are powers of two that do not get smaller. -/
theorem spacing_dvd_spacing (h : m ≤ n) : spacing m ∣ spacing n := by
  rw [spacing_eq_two_pow, spacing_eq_two_pow]
  exact Nat.pow_dvd_pow 2 (Nat.sub_le_sub_right (log2_le_log2_of_le h) 52)

/-- The greatest multiple of the spacing of a count that does not exceed the count. -/
def roundDown (n : Nat) : Nat := n / spacing n * spacing n

theorem roundDown_le (n : Nat) : roundDown n ≤ n := Nat.div_mul_le_self n (spacing n)

theorem le_roundDown_of_dvd (hdvd : spacing n ∣ m) (h : m ≤ n) : m ≤ roundDown n := by
  obtain ⟨q, rfl⟩ := hdvd
  rw [Nat.mul_comm] at h ⊢
  exact Nat.mul_le_mul_right _ ((Nat.le_div_iff_mul_le (spacing_pos n)).2 h)

/-- A multiple of the spacing that exceeds the one below a count exceeds it by a spacing. -/
theorem roundDown_add_le_of_dvd (hdvd : spacing n ∣ m) (h : roundDown n < m) :
    roundDown n + spacing n ≤ m := by
  obtain ⟨q, rfl⟩ := hdvd
  rw [roundDown, Nat.mul_comm (spacing n) q] at h
  rw [roundDown, Nat.mul_comm (spacing n) q, ← Nat.succ_mul]
  exact Nat.mul_le_mul_right _ (Nat.lt_of_mul_lt_mul_right h)

/-! ## Rounding to the nearest -/

/-- Rounding goes down, or up if a count lies between two multiples of its spacing. -/
theorem roundUnits_eq_or (n : Nat) :
    roundUnits n 1 = roundDown n ∨
      (roundDown n < n ∧ roundUnits n 1 = roundDown n + spacing n) := by
  have hup : (n / spacing n + 1) * spacing n = roundDown n + spacing n := Nat.succ_mul _ _
  have hgap := spacing_pos n
  have hdown := roundDown_le n
  unfold roundUnits
  simp only [Nat.div_one, Nat.one_mul, hup]
  rw [← roundDown]
  split
  · exact .inl rfl
  · split
    · exact .inr ⟨by omega, rfl⟩
    · split
      · exact .inl rfl
      · exact .inr ⟨by omega, rfl⟩

theorem roundDown_le_roundUnits (n : Nat) : roundDown n ≤ roundUnits n 1 := by
  rcases roundUnits_eq_or n with h | ⟨-, h⟩
  · exact Nat.le_of_eq h.symm
  · rw [h]
    exact Nat.le_add_right _ _

theorem spacing_dvd_roundUnits (n : Nat) : spacing n ∣ roundUnits n 1 := by
  have hdown : spacing n ∣ roundDown n := Nat.dvd_mul_left _ _
  rcases roundUnits_eq_or n with h | ⟨-, h⟩
  · rwa [h]
  · rw [h]
    exact Nat.dvd_add hdown (Nat.dvd_refl _)

/-! ## Representable counts -/

/-- A count of units that rounding leaves as it is. -/
def IsRepresentable (units : Nat) : Prop := roundUnits units 1 = units

instance (units : Nat) : Decidable (IsRepresentable units) :=
  inferInstanceAs (Decidable (roundUnits units 1 = units))

theorem IsRepresentable.spacing_dvd (hm : IsRepresentable m) : spacing m ∣ m := by
  have h := spacing_dvd_roundUnits m
  rwa [hm] at h

/-- A count is not rounded up past a representable one. -/
theorem IsRepresentable.roundUnits_le (hm : IsRepresentable m) (h : n ≤ m) :
    roundUnits n 1 ≤ m := by
  have hdvd : spacing n ∣ m := Nat.dvd_trans (spacing_dvd_spacing h) hm.spacing_dvd
  rcases roundUnits_eq_or n with hdown | ⟨hlt, hup⟩
  · rw [hdown]
    exact (roundDown_le n).trans h
  · rw [hup]
    exact roundDown_add_le_of_dvd hdvd (Nat.lt_of_lt_of_le hlt h)

/-- A count is not rounded down past a representable one. -/
theorem IsRepresentable.le_roundUnits (hm : IsRepresentable m) (h : m ≤ n) :
    m ≤ roundUnits n 1 := by
  refine Nat.le_trans ?_ (roundDown_le_roundUnits n)
  rcases Nat.eq_zero_or_pos n with rfl | hn
  · rw [Nat.le_zero.1 h]
    exact Nat.zero_le _
  rcases Nat.lt_or_eq_of_le (log2_le_log2_of_le h) with hlog | hlog
  · -- The spacing of `m` may be smaller than that of `n`; a power of two lies between the counts.
    have hbelow : m < 2 ^ n.log2 :=
      Nat.lt_of_lt_of_le Nat.lt_log2_self (Nat.pow_le_pow_right Nat.two_pos hlog)
    have hdvd : spacing n ∣ 2 ^ n.log2 := by
      rw [spacing_eq_two_pow]
      exact Nat.pow_dvd_pow 2 (Nat.sub_le _ _)
    exact hbelow.le.trans
      (le_roundDown_of_dvd hdvd (Nat.log2_self_le (Nat.pos_iff_ne_zero.1 hn)))
  · have hdvd : spacing n ∣ m := by
      have hspacing : spacing m = spacing n := by rw [spacing, hlog, spacing]
      exact hspacing ▸ hm.spacing_dvd
    exact le_roundDown_of_dvd hdvd h

/-! ## Sums -/

/-- A sum is rounded without its sign, unless it is too large. -/
theorem addUnits?_eq_some {a b : Int} (h : roundUnits (a + b).natAbs 1 < limit) :
    addUnits? a b = some (if a + b < 0 then -(roundUnits (a + b).natAbs 1 : Int)
      else roundUnits (a + b).natAbs 1) := by
  unfold addUnits? ofFraction
  simp only [if_pos h, decide_eq_true_eq]

/-- A rounded sum is not led past a representable number that the exact sum has not passed. -/
theorem exists_addUnits?_le {a c : Int} {b : Nat} (ha : IsRepresentable a.natAbs)
    (hc : IsRepresentable c.natAbs) (halimit : a.natAbs < limit) (hclimit : c.natAbs < limit)
    (h : a + b ≤ c) : ∃ t, addUnits? a b = some t ∧ t ≤ c := by
  by_cases hsign : a + b < 0
  · have hrounded : roundUnits (a + b).natAbs 1 ≤ a.natAbs := ha.roundUnits_le (by omega)
    refine ⟨_, addUnits?_eq_some (Nat.lt_of_le_of_lt hrounded halimit), ?_⟩
    rw [if_pos hsign]
    rcases lt_or_ge c 0 with hnegative | hnonneg
    · have hround : c.natAbs ≤ roundUnits (a + b).natAbs 1 := hc.le_roundUnits (by omega)
      omega
    · omega
  · have hrounded : roundUnits (a + b).natAbs 1 ≤ c.natAbs := hc.roundUnits_le (by omega)
    refine ⟨_, addUnits?_eq_some (Nat.lt_of_le_of_lt hrounded hclimit), ?_⟩
    rw [if_neg hsign]
    omega

end Binary64

end SignIn
