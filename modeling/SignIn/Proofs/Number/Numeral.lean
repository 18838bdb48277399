import Mathlib.Data.List.Induction
import Mathlib.Data.List.TakeWhile
import Mathlib.Data.Nat.Digits.Defs
import SignIn.Number.Numeral

/-!
# Integers in text

What an integer in a text looks like, said without the reader: white space about a sign and groups
of decimal digits of any script, with single underscores between the groups. The reader finds
exactly the integers that are written so, at the value that the digits have by their places.
-/

namespace SignIn

/-! ## White space and digits -/

theorem CodePoint.decimalValue?_of_isSpace {c : CodePoint} (h : c.isSpace = true) :
    c.decimalValue? = none := by
  let spaces : List Nat := List.range' 0x09 5 ++ List.range' 0x1C 5 ++ List.range' 0x2000 11 ++
    [0x85, 0xA0, 0x1680, 0x2028, 0x2029, 0x202F, 0x205F, 0x3000]
  have hmem : c.val ∈ spaces := by
    simp only [isSpace, Bool.or_eq_true, Bool.and_eq_true, decide_eq_true_eq] at h
    simp only [spaces, List.mem_append, List.mem_range'_1, List.mem_cons, List.not_mem_nil,
      or_false]
    omega
  have hnone : ∀ v ∈ spaces,
      (decimalZeros.find? fun start => start ≤ v && v ≤ start + 9) = none := by
    decide +kernel
  rw [decimalValue?, hnone c.val hmem, Option.map_none]

namespace Text

variable {p : CodePoint → Bool}

/-- What is trimmed off a text satisfies the test. -/
theorem exists_eq_trimWhere (p : CodePoint → Bool) (t : Text) :
    ∃ before after, t = before ++ trimWhere p t ++ after ∧ ∀ c ∈ before ++ after, p c = true := by
  let inner := t.dropWhile p
  refine ⟨t.takeWhile p, (inner.reverse.takeWhile p).reverse, ?_, ?_⟩
  · have hinner : trimWhere p t ++ (inner.reverse.takeWhile p).reverse = inner := by
      rw [trimWhere, ← List.reverse_append, List.takeWhile_append_dropWhile, List.reverse_reverse]
    rw [List.append_assoc, hinner, List.takeWhile_append_dropWhile]
  · intro c hc
    rcases List.mem_append.1 hc with hc | hc
    · exact List.mem_takeWhile_imp hc
    · exact List.mem_takeWhile_imp (List.mem_reverse.1 hc)

/-- A text without the tested code points at its ends is what trimming leaves of it and any such
code points about it. -/
theorem trimWhere_append {before core after : Text} (h : ∀ c ∈ before ++ after, p c = true)
    (hhead : ∀ c ∈ core.head?, p c = false) (hlast : ∀ c ∈ core.getLast?, p c = false) :
    trimWhere p (before ++ core ++ after) = core := by
  have hbefore : ∀ c ∈ before, p c = true := fun c hc => h c (List.mem_append_left after hc)
  have hafter : ∀ c ∈ after, p c = true := fun c hc => h c (List.mem_append_right before hc)
  cases core with
  | nil =>
    rw [List.append_nil, trimWhere, List.dropWhile_eq_nil_iff.2 h]
    rfl
  | cons c rest =>
    have hc : p c = false := hhead c rfl
    have hinner : (before ++ (c :: rest) ++ after).dropWhile p = (c :: rest) ++ after := by
      rw [List.append_assoc, List.dropWhile_append_of_pos hbefore, List.cons_append,
        List.dropWhile_cons_of_neg (by simp [hc])]
    have houter : ((c :: rest) ++ after).reverse.dropWhile p = (c :: rest).reverse := by
      rw [List.reverse_append,
        List.dropWhile_append_of_pos fun d hd => hafter d (List.mem_reverse.1 hd)]
      cases hrest : (c :: rest).reverse with
      | nil => simp at hrest
      | cons d ds =>
        have hd : d ∈ (c :: rest).getLast? := by
          rw [← List.head?_reverse, hrest]
          rfl
        exact List.dropWhile_cons_of_neg (by simp [hlast d hd])
    rw [trimWhere, hinner, houter, List.reverse_reverse]

end Text

namespace Numeral

/-! ## Runs of digits -/

/-- A text writes digits: it consists of groups of digits that are not empty, with single
underscores between them. -/
def WritesDigits (t : Text) (ds : List Nat) : Prop :=
  ∃ groups : List Text, groups ≠ [] ∧ (∀ g ∈ groups, g ≠ []) ∧ t = Text.joinWith "_" groups ∧
    groups.flatten.map CodePoint.decimalValue? = ds.map some

theorem decimalValue?_underscore : CodePoint.decimalValue? (CodePoint.ofChar '_') = none := by
  decide

theorem joinWith_underscore {g : Text} {groups : List Text} (h : groups ≠ []) :
    Text.joinWith "_" (g :: groups) = g ++ CodePoint.ofChar '_' :: Text.joinWith "_" groups :=
  (Text.joinWith_cons _ g h).trans (List.append_assoc g _ _)

theorem joinWith_cons_cons (c : CodePoint) (g : Text) (groups : List Text) :
    Text.joinWith "_" ((c :: g) :: groups) = c :: Text.joinWith "_" (g :: groups) := by
  cases groups <;> rfl

/-- What is read as digits is written so. -/
theorem writesDigits_of_digitRun? {t : Text} {ds : List Nat}
    (h : digitRun? CodePoint.decimalValue? t = some ds) : WritesDigits t ds := by
  fun_induction digitRun? CodePoint.decimalValue? t generalizing ds with
  | case1 => cases h
  | case2 c =>
    obtain ⟨n, hn, rfl⟩ := Option.map_eq_some_iff.1 h
    exact ⟨[[c]], by simp, by simp, rfl, by simp [hn]⟩
  | case3 => cases h
  | case4 c t n hn ih =>
    obtain ⟨ns, hns, rfl⟩ := Option.map_eq_some_iff.1 h
    obtain ⟨groups, hne, hgroups, rfl, hvalues⟩ := ih hns
    refine ⟨[c] :: groups, List.cons_ne_nil _ _, ?_, ?_, ?_⟩
    · exact List.forall_mem_cons.2 ⟨List.cons_ne_nil _ _, hgroups⟩
    · rw [joinWith_underscore hne, List.singleton_append]
    · simp [hn, hvalues]
  | case5 c d t n hn hd ih =>
    obtain ⟨ns, hns, rfl⟩ := Option.map_eq_some_iff.1 h
    obtain ⟨groups, hne, hgroups, ht, hvalues⟩ := ih hns
    cases groups with
    | nil => exact absurd rfl hne
    | cons g groups =>
      refine ⟨(c :: g) :: groups, List.cons_ne_nil _ _, ?_, ?_, ?_⟩
      · exact List.forall_mem_cons.2 ⟨List.cons_ne_nil _ _, (List.forall_mem_cons.1 hgroups).2⟩
      · rw [joinWith_cons_cons, ← ht]
      · simpa [hn] using hvalues

/-- A digit in front of another is read as the first of the digits. -/
theorem digitRun?_cons_digit {c d : CodePoint} {n m : Nat} (hc : c.decimalValue? = some n)
    (hd : d.decimalValue? = some m) (t : Text) :
    digitRun? CodePoint.decimalValue? (c :: d :: t) =
      (digitRun? CodePoint.decimalValue? (d :: t)).map (n :: ·) := by
  have hne : d ≠ CodePoint.ofChar '_' := by
    rintro rfl
    rw [decimalValue?_underscore] at hd
    cases hd
  rw [digitRun?, hc]
  exact if_neg hne

/-- A group of digits alone is read as its digits. -/
theorem digitRun?_group {g : Text} {ns : List Nat} (hg : g ≠ [])
    (h : g.map CodePoint.decimalValue? = ns.map some) :
    digitRun? CodePoint.decimalValue? g = some ns := by
  induction g generalizing ns with
  | nil => exact absurd rfl hg
  | cons c g ih =>
    obtain ⟨n, ns, rfl, hc, h⟩ := List.map_eq_cons_iff.1 h.symm
    cases g with
    | nil =>
      obtain rfl : ns = [] := List.map_eq_nil_iff.1 h
      rw [digitRun?, ← hc]
      rfl
    | cons d g =>
      obtain ⟨m, ms, rfl, hd, -⟩ := List.map_eq_cons_iff.1 h
      rw [digitRun?_cons_digit hc.symm hd.symm, ih (List.cons_ne_nil d g) h.symm]
      rfl

/-- The digits of a group are read up to an underscore, and then what follows it. -/
theorem digitRun?_group_append {g : Text} {ns : List Nat} (hg : g ≠ [])
    (h : g.map CodePoint.decimalValue? = ns.map some) (t : Text) :
    digitRun? CodePoint.decimalValue? (g ++ CodePoint.ofChar '_' :: t) =
      (digitRun? CodePoint.decimalValue? t).map (ns ++ ·) := by
  induction g generalizing ns with
  | nil => exact absurd rfl hg
  | cons c g ih =>
    obtain ⟨n, ns, rfl, hc, h⟩ := List.map_eq_cons_iff.1 h.symm
    cases g with
    | nil =>
      obtain rfl : ns = [] := List.map_eq_nil_iff.1 h
      rw [List.singleton_append, digitRun?, ← hc]
      exact if_pos rfl
    | cons d g =>
      obtain ⟨m, ms, rfl, hd, -⟩ := List.map_eq_cons_iff.1 h
      have hread := ih (List.cons_ne_nil d g) h.symm
      rw [List.cons_append] at hread
      rw [List.cons_append, List.cons_append, digitRun?_cons_digit hc.symm hd.symm, hread,
        Option.map_map]
      rfl

/-- What is written as digits is read so. -/
theorem digitRun?_of_writesDigits {t : Text} {ds : List Nat} (h : WritesDigits t ds) :
    digitRun? CodePoint.decimalValue? t = some ds := by
  obtain ⟨groups, hne, hgroups, rfl, hvalues⟩ := h
  induction groups generalizing ds with
  | nil => exact absurd rfl hne
  | cons g groups ih =>
    obtain ⟨hg, hrest⟩ := List.forall_mem_cons.1 hgroups
    rw [List.flatten_cons, List.map_append] at hvalues
    obtain ⟨ns, ms, rfl, hns, hms⟩ := List.map_eq_append_iff.1 hvalues.symm
    cases groups with
    | nil =>
      obtain rfl : ms = [] := List.map_eq_nil_iff.1 hms
      rw [List.append_nil]
      exact digitRun?_group hg hns.symm
    | cons g' groups =>
      have hread := ih (List.cons_ne_nil g' groups) hrest hms.symm
      rw [joinWith_underscore (List.cons_ne_nil g' groups), digitRun?_group_append hg hns.symm,
        hread]
      rfl

/-- Digits stand for the number that they have by their places. -/
theorem ofDigits_eq (ds : List Nat) : ofDigits ds = Nat.ofDigits 10 ds.reverse := by
  induction ds using List.reverseRecOn with
  | nil => rfl
  | append_singleton ds d ih =>
    rw [List.reverse_append, List.reverse_singleton, List.singleton_append, Nat.ofDigits_cons, ← ih,
      ofDigits, List.foldl_append]
    exact Nat.add_comm _ _

/-! ## Integers -/

/-- The sign of an integer, which may be left out where it is not negative. -/
def IsSign (negative : Bool) (mark : Text) : Prop :=
  if negative then mark = "-" else mark = [] ∨ mark = "+"

/-- A text writes an integer: white space about a sign and at most 4300 digits. -/
inductive Writes : Text → Int → Prop
  | intro {before mark body after : Text} {negative : Bool} {ds : List Nat}
    (outer : ∀ c ∈ before ++ after, isOuter c = true) (isSign : IsSign negative mark)
    (digits : WritesDigits body ds) (length_le : ds.length ≤ maxDigits) :
    Writes (before ++ (mark ++ body) ++ after)
      (signed negative (Nat.ofDigits 10 ds.reverse))

theorem isOuter_of_digit {c : CodePoint} {n : Nat} (h : c.decimalValue? = some n) :
    isOuter c = false := by
  cases hspace : c.isSpace with
  | false => rw [isOuter, hspace, Bool.false_and]
  | true =>
    rw [CodePoint.decimalValue?_of_isSpace hspace] at h
    cases h

/-- Every code point of written digits is a digit or an underscore, and the first is a digit. -/
theorem head_of_writesDigits {t : Text} {ds : List Nat} (h : WritesDigits t ds) :
    ∃ c rest n, t = c :: rest ∧ c.decimalValue? = some n := by
  have hread := digitRun?_of_writesDigits h
  cases t with
  | nil => cases hread
  | cons c rest =>
    cases hc : c.decimalValue? with
    | some n => exact ⟨c, rest, n, rfl, hc⟩
    | none => cases rest <;> simp [digitRun?, hc] at hread

theorem isOuter_of_writesDigits {t : Text} {ds : List Nat} (h : WritesDigits t ds) :
    ∀ c ∈ t, isOuter c = false := by
  obtain ⟨groups, hne, hgroups, rfl, hvalues⟩ := h
  intro c hc
  rcases Text.mem_joinWith hc with hc | ⟨g, hg, hc⟩
  · obtain rfl : c = CodePoint.ofChar '_' := List.mem_singleton.1 hc
    decide
  · have hvalue : c.decimalValue? ∈ ds.map some := by
      rw [← hvalues]
      exact List.mem_map_of_mem (List.mem_flatten.2 ⟨g, hg, hc⟩)
    obtain ⟨n, -, hn⟩ := List.mem_map.1 hvalue
    exact isOuter_of_digit hn.symm

/-- The sign that is taken off a text. -/
theorem isSign_of_sign {t rest : Text} {negative : Bool} (h : sign t = (negative, rest)) :
    ∃ mark, IsSign negative mark ∧ t = mark ++ rest := by
  cases t with
  | nil =>
    cases h
    exact ⟨[], .inl rfl, rfl⟩
  | cons c t =>
    rw [sign] at h
    split at h
    · rename_i hminus
      cases h
      exact ⟨"-", rfl, by rw [hminus]; rfl⟩
    split at h
    · rename_i hplus
      cases h
      exact ⟨"+", .inr rfl, by rw [hplus]; rfl⟩
    · cases h
      exact ⟨[], .inl rfl, rfl⟩

/-- A sign in front of a digit is taken off. -/
theorem sign_append {negative : Bool} {mark : Text} {c : CodePoint} {n : Nat}
    (h : IsSign negative mark) (hc : c.decimalValue? = some n) (rest : Text) :
    sign (mark ++ c :: rest) = (negative, c :: rest) := by
  have hne (d : CodePoint) (hd : d.decimalValue? = none) : c ≠ d := by
    rintro rfl
    rw [hd] at hc
    cases hc
  have hminus : c ≠ CodePoint.ofChar '-' := hne _ (by decide)
  have hplus : c ≠ CodePoint.ofChar '+' := hne _ (by decide)
  cases negative with
  | true =>
    obtain rfl : mark = "-" := h
    rfl
  | false =>
    rcases h with rfl | rfl
    · rw [List.nil_append, sign, if_neg hminus, if_neg hplus]
    · rfl

theorem isOuter_of_isSign {negative : Bool} {mark : Text} (h : IsSign negative mark) :
    ∀ c ∈ mark, isOuter c = false := by
  cases negative with
  | true =>
    obtain rfl : mark = "-" := h
    decide
  | false =>
    rcases h with rfl | rfl
    · simp
    · decide

/-- The reader finds an integer exactly where one is written, and finds its value. -/
theorem integer?_eq_some_iff {t : Text} {n : Int} : integer? t = some n ↔ Writes t n := by
  constructor
  · intro h
    obtain ⟨before, after, ht, houter⟩ := Text.exists_eq_trimWhere isOuter t
    rcases hsign : sign (Text.trimWhere isOuter t) with ⟨negative, body⟩
    obtain ⟨mark, hmark, hcore⟩ := isSign_of_sign hsign
    unfold integer? at h
    simp only [hsign] at h
    cases hrun : digitRun? CodePoint.decimalValue? body with
    | none =>
      rw [hrun] at h
      cases h
    | some ds =>
      simp only [hrun] at h
      split at h
      · rename_i hlength
        obtain rfl := Option.some.inj h
        rw [ht, hcore, ofDigits_eq]
        exact .intro houter hmark (writesDigits_of_digitRun? hrun) hlength
      · cases h
  · rintro ⟨houter, hmark, hdigits, hlength⟩
    rename_i before mark body after negative ds
    obtain ⟨c, rest, m, rfl, hc⟩ := head_of_writesDigits hdigits
    have hcore : ∀ d ∈ mark ++ c :: rest, isOuter d = false := by
      intro d hd
      exact (List.mem_append.1 hd).elim (isOuter_of_isSign hmark d)
        (isOuter_of_writesDigits hdigits d)
    have htrim : Text.trimWhere isOuter (before ++ (mark ++ c :: rest) ++ after) =
        mark ++ c :: rest :=
      Text.trimWhere_append houter (fun d hd => hcore d (List.mem_of_mem_head? hd))
        (fun d hd => hcore d (List.mem_of_mem_getLast? hd))
    simp only [integer?, htrim, sign_append hmark hc, digitRun?_of_writesDigits hdigits,
      if_pos hlength, ofDigits_eq]

/-- A text of white space is no integer. -/
theorem integer?_of_isBlank {t : Text} (h : t.isBlank = true) : integer? t = none := by
  cases hread : integer? t with
  | none => rfl
  | some n =>
    obtain ⟨-, -, hdigits, -⟩ := integer?_eq_some_iff.1 hread
    obtain ⟨c, rest, m, rfl, hc⟩ := head_of_writesDigits hdigits
    have hspace : c.isSpace = true := List.all_eq_true.1 h c (by simp)
    rw [CodePoint.decimalValue?_of_isSpace hspace] at hc
    cases hc

end Numeral

end SignIn
