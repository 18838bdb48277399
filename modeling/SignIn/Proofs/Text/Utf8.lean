import SignIn.Text.Utf8

/-!
# Decoding what was encoded

A text without surrogates is read back from its UTF-8 form, and two texts with the same UTF-8 form
are the same. Each code point is read back on its own, whatever octets follow it.
-/

namespace SignIn

namespace Utf8

/-! ## Octets by their numbers -/

/-- A number below 256 is the number of its octet. -/
theorem toNat_octet {n : Nat} (h : n < 0x100) : (UInt8.ofNat n).toNat = n := by
  rw [UInt8.toNat_ofNat']
  exact Nat.mod_eq_of_lt h

theorem octet_lt_iff {n m : Nat} (hn : n < 0x100) (hm : m < 0x100) :
    UInt8.ofNat n < UInt8.ofNat m ↔ n < m := by
  rw [UInt8.lt_iff_toNat_lt, toNat_octet hn, toNat_octet hm]

theorem octet_lt {n m : Nat} (h : n < m) (hm : m < 0x100) : UInt8.ofNat n < UInt8.ofNat m :=
  (octet_lt_iff (by omega) hm).2 h

theorem not_octet_lt {n m : Nat} (h : m ≤ n) (hn : n < 0x100) :
    ¬ UInt8.ofNat n < UInt8.ofNat m := fun hlt =>
  Nat.not_lt.2 h ((octet_lt_iff hn (by omega)).1 hlt)

theorem octet_eq_iff {n m : Nat} (hn : n < 0x100) (hm : m < 0x100) :
    UInt8.ofNat n = UInt8.ofNat m ↔ n = m := by
  rw [← UInt8.toNat_inj, toNat_octet hn, toNat_octet hm]

theorem isContinuation_octet {n : Nat} (h : n < 0x40) :
    isContinuation (UInt8.ofNat (0x80 + n)) = true := by
  have hoctet : (UInt8.ofNat (0x80 + n)).toNat = 0x80 + n := toNat_octet (by omega)
  simp only [isContinuation, UInt8.le_iff_toNat_le, hoctet, Bool.and_eq_true, decide_eq_true_eq]
  exact ⟨Nat.le_add_right _ _, by change 0x80 + n ≤ 0xBF; omega⟩

/-- A continuation octet may come second unless it makes the sequence too short, too large or a
surrogate. -/
theorem maySecond_octets (surrogates : Bool) {lead n : Nat} (hlead : lead < 0x100) (hn : n < 0x40)
    (hthree : lead = 0xE0 → 0x20 ≤ n) (hsurrogate : lead = 0xED → n < 0x20)
    (hfour : lead = 0xF0 → 0x10 ≤ n) (hlast : lead = 0xF4 → n < 0x10) :
    maySecond surrogates (UInt8.ofNat lead) (UInt8.ofNat (0x80 + n)) = true := by
  have hcont := isContinuation_octet hn
  have heq (m : Nat) (hm : m < 0x100) : UInt8.ofNat lead = UInt8.ofNat m ↔ lead = m :=
    octet_eq_iff hlead hm
  have hlt (m : Nat) (hm : m < 0x100) : UInt8.ofNat (0x80 + n) < UInt8.ofNat m ↔ 0x80 + n < m :=
    octet_lt_iff (by omega) hm
  have hgt (m : Nat) (hm : m < 0x100) : UInt8.ofNat m < UInt8.ofNat (0x80 + n) ↔ m < 0x80 + n :=
    octet_lt_iff hm (by omega)
  have h1 := heq 0xE0 (by omega)
  have h2 := heq 0xED (by omega)
  have h3 := heq 0xF0 (by omega)
  have h4 := heq 0xF4 (by omega)
  have h5 := hlt 0xA0 (by omega)
  have h6 := hgt 0x9F (by omega)
  have h7 := hlt 0x90 (by omega)
  have h8 := hgt 0x8F (by omega)
  unfold maySecond
  simp only [hcont, Bool.true_and, Bool.and_eq_true, Bool.not_eq_true', Bool.and_eq_false_iff,
    decide_eq_false_iff_not]
  refine ⟨⟨⟨?_, ?_⟩, ?_⟩, ?_⟩
  · by_cases h : lead = 0xE0
    · have hlow := hthree h
      exact .inr (mt h5.1 (by omega))
    · exact .inl fun hl => h (h1.1 hl)
  · by_cases h : lead = 0xED
    · have hhigh := hsurrogate h
      exact .inl (.inr (mt h6.1 (by omega)))
    · exact .inl (.inl fun hl => h (h2.1 hl))
  · by_cases h : lead = 0xF0
    · have hlow := hfour h
      exact .inr (mt h7.1 (by omega))
    · exact .inl fun hl => h (h3.1 hl)
  · by_cases h : lead = 0xF4
    · have hhigh := hlast h
      exact .inr (mt h8.1 (by omega))
    · exact .inl fun hl => h (h4.1 hl)

/-! ## The number of a sequence -/

theorem pair_eq {n : Nat} {a b : UInt8} (hn : n < 0x800) (ha : a.toNat = 0xC0 + n / 0x40)
    (hb : b.toNat = 0x80 + n % 0x40) : pair a b = n := by
  unfold pair
  rw [ha, hb]
  omega

theorem triple_eq {n : Nat} {a b c : UInt8} (hn : n < 0x10000) (ha : a.toNat = 0xE0 + n / 0x1000)
    (hb : b.toNat = 0x80 + n / 0x40 % 0x40) (hc : c.toNat = 0x80 + n % 0x40) :
    triple a b c = n := by
  unfold triple
  rw [ha, hb, hc]
  omega

theorem quadruple_eq {n : Nat} {a b c d : UInt8} (hn : n < 0x110000)
    (ha : a.toNat = 0xF0 + n / 0x40000) (hb : b.toNat = 0x80 + n / 0x1000 % 0x40)
    (hc : c.toNat = 0x80 + n / 0x40 % 0x40) (hd : d.toNat = 0x80 + n % 0x40) :
    quadruple a b c d = n := by
  unfold quadruple
  rw [ha, hb, hc, hd]
  omega

/-! ## One code point -/

theorem ofNat_val (c : CodePoint) : DecodedUnit.ofNat c.val = .point c := by
  simp [DecodedUnit.ofNat, CodePoint.ofNat?, c.val_lt]

theorem firstUnit_one (surrogates : Bool) {n : Nat} (h : n < 0x80) (rest : Octets) :
    firstUnit surrogates (UInt8.ofNat n) rest = (.ofNat n, 0) := by
  have hone : UInt8.ofNat n < 0x80 := (octet_lt_iff (m := 0x80) (by omega) (by omega)).2 h
  unfold firstUnit
  rw [if_pos hone, toNat_octet (by omega)]

theorem firstUnit_two (surrogates : Bool) {n : Nat} (hlow : 0x80 ≤ n) (hhigh : n < 0x800)
    (rest : Octets) :
    firstUnit surrogates (UInt8.ofNat (0xC0 + n / 0x40))
      (UInt8.ofNat (0x80 + n % 0x40) :: rest) = (.ofNat n, 1) := by
  have hone : ¬ UInt8.ofNat (0xC0 + n / 0x40) < 0x80 :=
    not_octet_lt (m := 0x80) (by omega) (by omega)
  have hmalformed : ¬ UInt8.ofNat (0xC0 + n / 0x40) < 0xC2 :=
    not_octet_lt (m := 0xC2) (by omega) (by omega)
  have htwo : UInt8.ofNat (0xC0 + n / 0x40) < 0xE0 :=
    octet_lt (m := 0xE0) (by omega) (by omega)
  have hsecond := isContinuation_octet (n := n % 0x40) (by omega)
  have hnumber : pair (UInt8.ofNat (0xC0 + n / 0x40)) (UInt8.ofNat (0x80 + n % 0x40)) = n :=
    pair_eq hhigh (toNat_octet (by omega)) (toNat_octet (by omega))
  unfold firstUnit
  rw [if_neg hone, if_neg hmalformed, if_pos htwo]
  simp only [hsecond, if_true, hnumber]

theorem firstUnit_three (surrogates : Bool) {n : Nat} (hlow : 0x800 ≤ n) (hhigh : n < 0x10000)
    (hsurrogate : ¬ (0xD800 ≤ n ∧ n < 0xE000)) (rest : Octets) :
    firstUnit surrogates (UInt8.ofNat (0xE0 + n / 0x1000))
      (UInt8.ofNat (0x80 + n / 0x40 % 0x40) :: UInt8.ofNat (0x80 + n % 0x40) :: rest) =
      (.ofNat n, 2) := by
  have hone : ¬ UInt8.ofNat (0xE0 + n / 0x1000) < 0x80 :=
    not_octet_lt (m := 0x80) (by omega) (by omega)
  have hmalformed : ¬ UInt8.ofNat (0xE0 + n / 0x1000) < 0xC2 :=
    not_octet_lt (m := 0xC2) (by omega) (by omega)
  have htwo : ¬ UInt8.ofNat (0xE0 + n / 0x1000) < 0xE0 :=
    not_octet_lt (m := 0xE0) (by omega) (by omega)
  have hthree : UInt8.ofNat (0xE0 + n / 0x1000) < 0xF0 :=
    octet_lt (m := 0xF0) (by omega) (by omega)
  have hsecond : maySecond surrogates (UInt8.ofNat (0xE0 + n / 0x1000))
      (UInt8.ofNat (0x80 + n / 0x40 % 0x40)) = true :=
    maySecond_octets surrogates (by omega) (by omega) (by omega) (by omega) (by omega) (by omega)
  have hthird := isContinuation_octet (n := n % 0x40) (by omega)
  have hnumber : triple (UInt8.ofNat (0xE0 + n / 0x1000)) (UInt8.ofNat (0x80 + n / 0x40 % 0x40))
      (UInt8.ofNat (0x80 + n % 0x40)) = n :=
    triple_eq hhigh (toNat_octet (by omega)) (toNat_octet (by omega)) (toNat_octet (by omega))
  unfold firstUnit
  rw [if_neg hone, if_neg hmalformed, if_neg htwo, if_pos hthree]
  simp only [hsecond, hthird, Bool.not_true, Bool.false_eq_true, if_false, if_true, hnumber]

theorem firstUnit_four (surrogates : Bool) {n : Nat} (hlow : 0x10000 ≤ n) (hhigh : n < 0x110000)
    (rest : Octets) :
    firstUnit surrogates (UInt8.ofNat (0xF0 + n / 0x40000))
      (UInt8.ofNat (0x80 + n / 0x1000 % 0x40) :: UInt8.ofNat (0x80 + n / 0x40 % 0x40) ::
        UInt8.ofNat (0x80 + n % 0x40) :: rest) = (.ofNat n, 3) := by
  have hone : ¬ UInt8.ofNat (0xF0 + n / 0x40000) < 0x80 :=
    not_octet_lt (m := 0x80) (by omega) (by omega)
  have hmalformed : ¬ UInt8.ofNat (0xF0 + n / 0x40000) < 0xC2 :=
    not_octet_lt (m := 0xC2) (by omega) (by omega)
  have htwo : ¬ UInt8.ofNat (0xF0 + n / 0x40000) < 0xE0 :=
    not_octet_lt (m := 0xE0) (by omega) (by omega)
  have hthree : ¬ UInt8.ofNat (0xF0 + n / 0x40000) < 0xF0 :=
    not_octet_lt (m := 0xF0) (by omega) (by omega)
  have hfour : UInt8.ofNat (0xF0 + n / 0x40000) < 0xF5 :=
    octet_lt (m := 0xF5) (by omega) (by omega)
  have hsecond : maySecond surrogates (UInt8.ofNat (0xF0 + n / 0x40000))
      (UInt8.ofNat (0x80 + n / 0x1000 % 0x40)) = true :=
    maySecond_octets surrogates (by omega) (by omega) (by omega) (by omega) (by omega) (by omega)
  have hthird := isContinuation_octet (n := n / 0x40 % 0x40) (by omega)
  have hfourth := isContinuation_octet (n := n % 0x40) (by omega)
  have hnumber : quadruple (UInt8.ofNat (0xF0 + n / 0x40000))
      (UInt8.ofNat (0x80 + n / 0x1000 % 0x40)) (UInt8.ofNat (0x80 + n / 0x40 % 0x40))
      (UInt8.ofNat (0x80 + n % 0x40)) = n :=
    quadruple_eq hhigh (toNat_octet (by omega)) (toNat_octet (by omega)) (toNat_octet (by omega))
      (toNat_octet (by omega))
  unfold firstUnit
  rw [if_neg hone, if_neg hmalformed, if_neg htwo, if_neg hthree, if_pos hfour]
  simp only [hsecond, hthird, hfourth, Bool.not_true, Bool.false_eq_true, if_false, if_true,
    hnumber]

/-- A code point that is no surrogate is the first unit of its octets and whatever follows. -/
theorem units_utf8_append (surrogates : Bool) {c : CodePoint} (hc : c.isSurrogate = false)
    (rest : Octets) :
    units surrogates (c.utf8 ++ rest) = .point c :: units surrogates rest := by
  have hsurrogate : ¬ (0xD800 ≤ c.val ∧ c.val < 0xE000) := by
    simpa [CodePoint.isSurrogate] using hc
  have hlt := c.val_lt
  rw [← ofNat_val c]
  unfold CodePoint.utf8
  dsimp only
  split
  · rename_i h
    rw [List.cons_append, units, firstUnit_one surrogates h]
    rfl
  split
  · rename_i h1 h2
    rw [List.cons_append, List.cons_append, units, List.nil_append,
      firstUnit_two surrogates (by omega) h2]
    rfl
  split
  · rename_i h1 h2 h3
    rw [List.cons_append, List.cons_append, List.cons_append, units, List.nil_append,
      firstUnit_three surrogates (by omega) h3 hsurrogate]
    rfl
  · rename_i h1 h2 h3
    rw [List.cons_append, List.cons_append, List.cons_append, List.cons_append, units,
      List.nil_append, firstUnit_four surrogates (by omega) hlt]
    rfl

/-! ## Texts -/

theorem encodable_cons {c : CodePoint} {t : Text} :
    encodable (c :: t) = true ↔ c.isSurrogate = false ∧ encodable t = true := by
  simp [encodable]

theorem encodable_append {t u : Text} :
    encodable (t ++ u) = true ↔ encodable t = true ∧ encodable u = true := by
  simp [encodable]

/-- No character is a surrogate, so strings have a UTF-8 form. -/
theorem encodable_ofString (s : String) : encodable (Text.ofString s) = true := by
  have hchar (c : Char) : (CodePoint.ofChar c).isSurrogate = false := by
    refine Bool.eq_false_iff.2 fun hsurrogate => ?_
    obtain ⟨hlow, hhigh⟩ := Bool.and_eq_true_iff.1 hsurrogate
    have hlow : 0xD800 ≤ c.toNat := of_decide_eq_true hlow
    have hhigh : c.toNat < 0xE000 := of_decide_eq_true hhigh
    have hvalid : c.toNat.isValidChar := c.valid
    unfold Nat.isValidChar at hvalid
    omega
  simp [encodable, Text.ofString, hchar]

/-- Texts that are joined by a separator have a UTF-8 form if and only if each of them has one. -/
theorem encodable_joinWith {separator : Text} (hseparator : encodable separator = true)
    {ts : List Text} :
    encodable (Text.joinWith separator ts) = true ↔ ∀ t ∈ ts, encodable t = true := by
  induction ts with
  | nil => simp [Text.joinWith, encodable]
  | cons t ts ih =>
    cases ts with
    | nil => simp [Text.joinWith]
    | cons u ts =>
      rw [List.forall_mem_cons, ← ih, Text.joinWith_cons separator t (List.cons_ne_nil u ts),
        encodable_append, encodable_append, hseparator]
      simp

theorem encode?_of_encodable {t : Text} (h : encodable t = true) :
    encode? t = some (t.flatMap CodePoint.utf8) := by
  simp [encode?, h]

theorem encode?_of_not_encodable {t : Text} (h : encodable t = false) : encode? t = none := by
  rw [encode?, h]
  rfl

theorem isSome_encode? (t : Text) : (encode? t).isSome = encodable t := by
  unfold encode?
  cases encodable t <;> rfl

theorem encode?_eq_some_iff {t : Text} {octets : Octets} :
    encode? t = some octets ↔ encodable t = true ∧ t.flatMap CodePoint.utf8 = octets := by
  unfold encode?
  split <;> simp_all

theorem units_flatMap_utf8 (surrogates : Bool) {t : Text} (h : encodable t = true) :
    units surrogates (t.flatMap CodePoint.utf8) = t.map DecodedUnit.point := by
  induction t with
  | nil => simp [units]
  | cons c t ih =>
    obtain ⟨hc, ht⟩ := encodable_cons.1 h
    rw [List.flatMap_cons, units_utf8_append surrogates hc, ih ht, List.map_cons]

theorem strict?_points (t : Text) : DecodedUnit.strict? (t.map DecodedUnit.point) = some t := by
  induction t with
  | nil => rfl
  | cons c t ih => simp [DecodedUnit.strict?, ih]

/-- A text is read back from its UTF-8 form. -/
theorem decode?_of_encode? {t : Text} {octets : Octets} (h : encode? t = some octets) :
    decode? octets = some t := by
  obtain ⟨ht, rfl⟩ := encode?_eq_some_iff.1 h
  rw [decode?, units_flatMap_utf8 false ht, strict?_points]

/-- Two texts with the same UTF-8 form are the same. -/
theorem encode?_injective {t u : Text} {octets : Octets} (ht : encode? t = some octets)
    (hu : encode? u = some octets) : t = u := by
  have hread := (decode?_of_encode? ht).symm.trans (decode?_of_encode? hu)
  exact Option.some.inj hread

/-- Where two texts have a UTF-8 form, comparing the forms compares the texts. -/
theorem compare_encode? {ε : Type} (t u : Text) (fault : ε) :
    (match encode? t, encode? u with
      | some a, some b => Except.ok (decide (a = b))
      | _, _ => .error fault) =
      if encodable t && encodable u then .ok (decide (t = u)) else .error fault := by
  cases ht : encodable t with
  | false => rw [encode?_of_not_encodable ht, Bool.false_and, if_neg Bool.false_ne_true]
  | true =>
    cases hu : encodable u with
    | false =>
      rw [encode?_of_encodable ht, encode?_of_not_encodable hu, Bool.and_false,
        if_neg Bool.false_ne_true]
    | true =>
      have hfirst := encode?_of_encodable ht
      have hsecond := encode?_of_encodable hu
      have hsame : t.flatMap CodePoint.utf8 = u.flatMap CodePoint.utf8 ↔ t = u := by
        constructor
        · intro hforms
          exact encode?_injective (hforms ▸ hfirst) hsecond
        · exact congrArg _
      rw [hfirst, hsecond, Bool.and_self, if_pos rfl]
      exact congrArg Except.ok (decide_eq_decide.2 hsame)

end Utf8

end SignIn
