import Mathlib.Tactic.IntervalCases
import SignIn.Proofs.Codec.Base64

/-!
# Reading symbols back

Every alphabet gives its symbols distinct values, none of which the padding sign has. So octets are
read back from their symbols, whether these are padded or not, and a padded text that is written
again from what was read is the canonical one.
-/

namespace SignIn

namespace Base64

/-! ## Symbols -/

theorem alphanumericValue?_of_val {c : CodePoint} {n : Nat} (h : n < 62)
    (hval : c.val = alphanumericNumber n) : alphanumericValue? c = some n := by
  unfold alphanumericNumber at hval
  simp only [alphanumericValue?, CodePoint.isAsciiUpper, CodePoint.isAsciiLower,
    CodePoint.isAsciiDigit, Bool.and_eq_true, decide_eq_true_eq]
  split at hval
  · rw [if_pos (by omega), hval]
    simp
  · split at hval
    · rw [if_neg (by omega), if_pos (by omega), hval]
      congr 1
      omega
    · rw [if_neg (by omega), if_neg (by omega), if_pos (by omega), hval]
      congr 1
      omega

/-- No letter or digit is a sign of an alphabet. -/
theorem alphanumericNumber_ne_signs (alphabet : Alphabet) {n : Nat} (h : n < 62) :
    alphanumericNumber n ≠ alphabet.signs.1 ∧ alphanumericNumber n ≠ alphabet.signs.2 := by
  unfold alphanumericNumber
  cases alphabet <;> simp only [Alphabet.signs] <;> (repeat' split) <;> omega

/-- The signs of an alphabet are two. -/
theorem signs_ne (alphabet : Alphabet) : alphabet.signs.2 ≠ alphabet.signs.1 := by
  cases alphabet <;> decide

/-- The value of a symbol where the signs come last. -/
theorem value_of_signs_last (alphabet : Alphabet) {c : CodePoint} {n : Nat} (h : n < 64)
    (hval : c.val = if n < 62 then alphanumericNumber n
      else if n = 62 then alphabet.signs.1 else alphabet.signs.2) :
    (if c.val = alphabet.signs.1 then some 62
      else if c.val = alphabet.signs.2 then some 63 else alphanumericValue? c) = some n := by
  by_cases hlow : n < 62
  · rw [if_pos hlow] at hval
    obtain ⟨hfirst, hsecond⟩ := alphanumericNumber_ne_signs alphabet hlow
    rw [if_neg (hval ▸ hfirst), if_neg (hval ▸ hsecond)]
    exact alphanumericValue?_of_val hlow hval
  · rw [if_neg hlow] at hval
    by_cases hfirst : n = 62
    · rw [hval, if_pos hfirst, if_pos rfl, hfirst]
    · have hsecond : n = 63 := by omega
      rw [hval, if_neg hfirst, if_neg (signs_ne alphabet), if_pos rfl, hsecond]

/-- The value of a symbol where the signs come first. -/
theorem value_of_signs_first (alphabet : Alphabet) {c : CodePoint} {n : Nat} (h : n < 64)
    (hval : c.val = if n = 0 then alphabet.signs.1
      else if n = 1 then alphabet.signs.2 else alphanumericNumber ((n - 2) % 62)) :
    (if c.val = alphabet.signs.1 then some 0
      else if c.val = alphabet.signs.2 then some 1
      else (alphanumericValue? c).map (· + 2)) = some n := by
  by_cases hzero : n = 0
  · rw [hval, if_pos hzero, if_pos rfl, hzero]
  by_cases hone : n = 1
  · rw [hval, if_neg hzero, if_pos hone, if_neg (signs_ne alphabet), if_pos rfl, hone]
  rw [if_neg hzero, if_neg hone] at hval
  have hlow : (n - 2) % 62 < 62 := Nat.mod_lt _ (by decide)
  obtain ⟨hfirst, hsecond⟩ := alphanumericNumber_ne_signs alphabet hlow
  have hnumber : (n - 2) % 62 + 2 = n := by omega
  rw [if_neg (hval ▸ hfirst), if_neg (hval ▸ hsecond), alphanumericValue?_of_val hlow hval,
    Option.map_some, hnumber]

/-- The value of a symbol is the number that it stands for. -/
theorem value?_symbol (alphabet : Alphabet) {n : Nat} (h : n < 64) :
    value? alphabet (symbol alphabet n) = some n := by
  cases alphabet with
  | standard => exact value_of_signs_last .standard h rfl
  | urlSafe => exact value_of_signs_last .urlSafe h rfl
  | crypt => exact value_of_signs_first .crypt h rfl

theorem value?_pad (alphabet : Alphabet) : value? alphabet pad = none := by
  cases alphabet <;> rfl

/-! ## Groups -/

/-- The four values of three octets make up these octets. -/
theorem group_values (a b c : UInt8) :
    group (a.toNat / 4) (a.toNat % 4 * 16 + b.toNat / 16) (b.toNat % 16 * 4 + c.toNat / 64)
      (c.toNat % 64) = [a, b, c] := by
  have ha := a.toNat_lt
  have hb := b.toNat_lt
  have hc := c.toNat_lt
  have hfirst : a.toNat / 4 * 4 + (a.toNat % 4 * 16 + b.toNat / 16) / 16 = a.toNat := by omega
  have hsecond : (a.toNat % 4 * 16 + b.toNat / 16) % 16 * 16 +
      (b.toNat % 16 * 4 + c.toNat / 64) / 4 = b.toNat := by omega
  have hthird : (b.toNat % 16 * 4 + c.toNat / 64) % 4 * 64 + c.toNat % 64 = c.toNat := by omega
  rw [group, hfirst, hsecond, hthird]
  simp only [UInt8.ofNat_toNat]

/-- Octets are read back from their padded symbols. -/
theorem groups?_symbols (alphabet : Alphabet) (octets : Octets) :
    groups? (value? alphabet) (symbols alphabet octets ++ padding octets.length) = some octets := by
  induction octets using symbols.induct with
  | case1 => rfl
  | case2 a =>
    have ha := a.toNat_lt
    have hgroup : (group (a.toNat / 4) (a.toNat % 4 * 16) 0 0).take 1 = [a] :=
      congrArg (List.take 1) (group_values a 0 0)
    have hpadding : padding [a].length = [pad, pad] := rfl
    rw [symbols, hpadding]
    simp only [List.cons_append, List.nil_append, groups?, value?_pad,
      value?_symbol alphabet (show a.toNat / 4 < 64 by omega),
      value?_symbol alphabet (show a.toNat % 4 * 16 < 64 by omega), and_self, if_true, hgroup]
  | case3 a b =>
    have ha := a.toNat_lt
    have hb := b.toNat_lt
    have hgroup : (group (a.toNat / 4) (a.toNat % 4 * 16 + b.toNat / 16)
        (b.toNat % 16 * 4) 0).take 2 = [a, b] := congrArg (List.take 2) (group_values a b 0)
    have hpadding : padding [a, b].length = [pad] := rfl
    rw [symbols, hpadding]
    simp only [List.cons_append, List.nil_append, groups?, value?_pad,
      value?_symbol alphabet (show a.toNat / 4 < 64 by omega),
      value?_symbol alphabet (show a.toNat % 4 * 16 + b.toNat / 16 < 64 by omega),
      value?_symbol alphabet (show b.toNat % 16 * 4 < 64 by omega), and_self, if_true, hgroup]
  | case4 a b c rest ih =>
    have ha := a.toNat_lt
    have hb := b.toNat_lt
    have hc := c.toNat_lt
    have hpadding : padding (a :: b :: c :: rest).length = padding rest.length := by
      have hcount : (a :: b :: c :: rest).length % 3 = rest.length % 3 := by
        simp only [List.length_cons]
        omega
      rw [padding, hcount, padding]
    rw [symbols, hpadding]
    simp only [List.cons_append, groups?,
      value?_symbol alphabet (show a.toNat / 4 < 64 by omega),
      value?_symbol alphabet (show a.toNat % 4 * 16 + b.toNat / 16 < 64 by omega),
      value?_symbol alphabet (show b.toNat % 16 * 4 + c.toNat / 64 < 64 by omega),
      value?_symbol alphabet (show c.toNat % 64 < 64 by omega), group_values, ih, Option.map_some,
      List.nil_append]

/-! ## Texts -/

/-- Octets are read back from their text. -/
theorem decode?_encode (octets : Octets) : decode? (encode octets) = some octets :=
  groups?_symbols .standard octets

/-- Octets are read back from their symbols alone. -/
theorem decodeUnpadded?_symbols (alphabet : Alphabet) (octets : Octets) :
    decodeUnpadded? alphabet (symbols alphabet octets) = some octets := by
  have hcount : (4 - (symbols alphabet octets).length % 4) % 4 = (3 - octets.length % 3) % 3 := by
    have hlength : (4 * octets.length + 2) / 3 =
        4 * (octets.length / 3) + (4 * (octets.length % 3) + 2) / 3 := by omega
    have hrest : octets.length % 3 < 3 := Nat.mod_lt _ (by decide)
    rw [length_symbols, hlength]
    interval_cases octets.length % 3 <;> omega
  rw [decodeUnpadded?, hcount]
  exact groups?_symbols alphabet octets

/-- Different octets have different texts in the URL-safe alphabet. -/
theorem encodeUrl_injective {first second : Octets} (h : encodeUrl first = encodeUrl second) :
    first = second := by
  have hread : some first = some second := by
    calc
      some first = decodeUnpadded? .urlSafe (encodeUrl first) :=
        (decodeUnpadded?_symbols .urlSafe first).symm
      _ = decodeUnpadded? .urlSafe (encodeUrl second) := by rw [h]
      _ = some second := decodeUnpadded?_symbols .urlSafe second
  exact Option.some.inj hread

/-- No symbol is white space. -/
theorem isSpace_symbol (alphabet : Alphabet) (n : Nat) :
    (symbol alphabet n).isSpace = false := by
  have habove : 0x20 < symbolNumber alphabet n := by
    unfold symbolNumber alphanumericNumber
    cases alphabet <;> simp only [Alphabet.signs] <;> (repeat' split) <;> omega
  have hbelow := symbolNumber_lt alphabet n
  have hval : (symbol alphabet n).val = symbolNumber alphabet n := rfl
  simp only [CodePoint.isSpace, hval, Bool.or_eq_false_iff, Bool.and_eq_false_iff,
    decide_eq_false_iff_not]
  omega

/-- The text of some octets is not blank. -/
theorem isBlank_encode {octets : Octets} (h : octets ≠ []) : (encode octets).isBlank = false := by
  have hpos := List.length_pos_iff.2 h
  cases hsymbols : symbols .standard octets with
  | nil =>
    have hlength := length_symbols .standard octets
    rw [hsymbols, List.length_nil] at hlength
    omega
  | cons c rest =>
    have hmem : c ∈ symbols .standard octets := hsymbols ▸ List.mem_cons_self
    have hc : c.isSpace = false := by
      obtain ⟨n, -, rfl⟩ := exists_symbol_of_mem hmem
      exact isSpace_symbol .standard n
    rw [encode, hsymbols, Text.isBlank, List.cons_append, List.all_cons, hc, Bool.false_and]

/-- The text of octets can be written. -/
theorem encodable_encode (octets : Octets) : Utf8.encodable (encode octets) = true := by
  have hsymbol (alphabet : Alphabet) (n : Nat) : (symbol alphabet n).isSurrogate = false := by
    have hbelow : (symbol alphabet n).val < 0x80 := symbolNumber_lt alphabet n
    simp only [CodePoint.isSurrogate, Bool.and_eq_false_iff, decide_eq_false_iff_not]
    omega
  unfold Utf8.encodable
  simp only [List.all_eq_true, Bool.not_eq_true']
  intro c hc
  rcases List.mem_append.1 hc with hsymbols | hpadding
  · obtain ⟨n, -, rfl⟩ := exists_symbol_of_mem hsymbols
    exact hsymbol .standard n
  · rw [List.eq_of_mem_replicate hpadding]
    rfl

end Base64

end SignIn
