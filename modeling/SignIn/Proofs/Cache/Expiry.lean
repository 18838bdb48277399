import SignIn.Cache.Expiring
import SignIn.Proofs.Number.Rounding

/-!
# Expiries

When what is stored at a moment for a lifetime expires: never if the lifetime is missing or counts as
false, and otherwise at the sum of the moment and the seconds, as floating-point numbers. The sum is
rounded. Rounding does not put it off beyond any moment that the clock can show: at every such moment
that is not before the exact sum, an entry is dead.
-/

namespace SignIn

/-- A whole number is rounded to a finite number of its sign, unless it is too large. -/
theorem Binary64.ofInt_eq_or (n : Int) :
    (∃ units, Binary64.ofInt n = .finite (n < 0) units) ∨
      Binary64.ofInt n = .infinite (n < 0) := by
  unfold Binary64.ofInt Binary64.ofFraction
  generalize Binary64.roundUnits _ _ = units
  by_cases h : units < Binary64.limit
  · exact .inl ⟨units, if_pos h⟩
  · exact .inr (if_neg h)

/-! ## Lifetimes -/

/-- What is stored for a lifetime never expires: there is none, it is zero, or it is another value
that counts as false. -/
inductive IsEndless : Option Lifetime → Prop
  | absent : IsEndless none
  | zero : IsEndless (some (.whole 0))
  | realZero (negative : Bool) : IsEndless (some (.real (.finite negative 0)))
  | other {d : Datum} (falsy : d.truthy = false) : IsEndless (some (.other d))

/-- The floating-point seconds of a lifetime that ends. A truth value counts as one second. -/
inductive Lifetime.Lasts : Lifetime → Binary64 → Prop
  | whole {n : Int} {negative : Bool} {units : Nat} (nonzero : n ≠ 0)
    (rounded : Binary64.ofInt n = .finite negative units) : Lasts (.whole n) (.finite negative units)
  | real {x : Binary64} (nonzero : ∀ negative, x ≠ .finite negative 0) : Lasts (.real x) x
  | one : Lasts (.other (.bool true)) (Binary64.ofInt 1)

/-- A lifetime has no number of seconds: it is too large for one, or it is a value of another kind. -/
inductive Lifetime.Refused : Lifetime → Fault → Prop
  | tooLarge {n : Int} {negative : Bool} (rounded : Binary64.ofInt n = .infinite negative) :
    Refused (.whole n) .overflow
  | other {d : Datum} (truthy : d.truthy = true) (otherKind : d ≠ .bool true) :
    Refused (.other d) .wrongType

/-- The moment that some seconds lead to from another one. A sum beyond all moments of the clock never
comes, nor does one that is no number, and what lies before all of them is the earliest. -/
inductive Instant.LeadsTo (now : Instant) : Binary64 → Option Instant → Prop
  | sum (negative : Bool) (units : Nat) :
    LeadsTo now (.finite negative units)
      (Binary64.addUnits? now (if negative then -(units : Int) else units))
  | never : LeadsTo now (.infinite false) none
  | earliest : LeadsTo now (.infinite true) (some (-Binary64.limit))
  | unordered : LeadsTo now .nan none

/-- What is stored at a moment for a lifetime expires at another moment, or never. -/
inductive ExpiresAt (now : Instant) : Option Lifetime → Option Instant → Prop
  | never {lifetime : Option Lifetime} (endless : IsEndless lifetime) : ExpiresAt now lifetime none
  | after {lifetime : Lifetime} {seconds : Binary64} {expiresAt : Option Instant}
    (lasts : lifetime.Lasts seconds) (leads : now.LeadsTo seconds expiresAt) :
    ExpiresAt now (some lifetime) expiresAt

/-- A whole number of seconds is a finite floating-point number, or it is too large for one. -/
theorem Lifetime.toBinary64_whole (n : Int) :
    (∃ negative units, Binary64.ofInt n = .finite negative units ∧
      (Lifetime.whole n).toBinary64 = .ok (.finite negative units)) ∨
    ∃ negative, Binary64.ofInt n = .infinite negative ∧
      (Lifetime.whole n).toBinary64 = .error .overflow := by
  rcases Binary64.ofInt_eq_or n with ⟨units, hunits⟩ | hlarge
  · exact .inl ⟨_, units, hunits, congrArg Binary64.unlessOverflow hunits⟩
  · exact .inr ⟨_, hlarge, congrArg Binary64.unlessOverflow hlarge⟩

theorem leadsTo_iff {now : Instant} {seconds : Binary64} {expiresAt : Option Instant} :
    now.LeadsTo seconds expiresAt ↔ now.after seconds = expiresAt := by
  constructor
  · rintro (⟨negative, units⟩ | _ | _ | _)
    · cases negative <;> rfl
    · rfl
    · rfl
    · rfl
  · rintro rfl
    cases seconds with
    | finite negative units => cases negative <;> exact .sum _ units
    | infinite negative =>
      cases negative
      · exact .never
      · exact .earliest
    | nan => exact .unordered

theorem isEndless_iff {lifetime : Lifetime} :
    IsEndless (some lifetime) ↔ lifetime.limits = false := by
  constructor
  · rintro (_ | _ | ⟨negative⟩ | ⟨falsy⟩)
    · rfl
    · rfl
    · exact falsy
  · intro h
    cases lifetime with
    | whole n =>
      obtain rfl : n = 0 := by simpa [Lifetime.limits] using h
      exact .zero
    | real x =>
      cases x with
      | finite negative units =>
        obtain rfl : units = 0 := by simpa [Lifetime.limits, Binary64.isZero] using h
        exact .realZero negative
      | infinite negative => cases h
      | nan => cases h
    | other d => exact .other h

/-- The seconds of a lifetime that limits something. -/
theorem lasts_iff {lifetime : Lifetime} {seconds : Binary64} :
    lifetime.Lasts seconds ↔ lifetime.limits = true ∧ lifetime.toBinary64 = .ok seconds := by
  constructor
  · rintro (⟨nonzero, rounded⟩ | ⟨nonzero⟩ | _)
    · exact ⟨decide_eq_true nonzero, congrArg Binary64.unlessOverflow rounded⟩
    · refine ⟨?_, rfl⟩
      cases seconds with
      | finite negative units =>
        have hunits : units ≠ 0 := fun hzero => nonzero negative (hzero ▸ rfl)
        simpa [Lifetime.limits, Binary64.isZero] using hunits
      | infinite negative => rfl
      | nan => rfl
    · exact ⟨rfl, rfl⟩
  · rintro ⟨hends, h⟩
    cases lifetime with
    | whole n =>
      rcases Lifetime.toBinary64_whole n with ⟨_, _, hrounded, hnumber⟩ | ⟨_, -, hnumber⟩
      · obtain rfl := Except.ok.inj (hnumber.symm.trans h)
        exact .whole (of_decide_eq_true hends) hrounded
      · cases hnumber.symm.trans h
    | real x =>
      obtain rfl := Except.ok.inj h
      refine .real fun negative hzero => ?_
      rw [hzero] at hends
      cases hends
    | other d =>
      cases d with
      | bool b =>
        obtain rfl : b = true := hends
        obtain rfl := Except.ok.inj h
        exact .one
      | _ => cases h

/-- A lifetime that ends and has no number of seconds is refused. -/
theorem refused_iff {lifetime : Lifetime} {fault : Fault} :
    lifetime.Refused fault ↔ lifetime.limits = true ∧ lifetime.toBinary64 = .error fault := by
  constructor
  · rintro (⟨rounded⟩ | ⟨truthy, otherKind⟩)
    · refine ⟨decide_eq_true ?_, congrArg Binary64.unlessOverflow rounded⟩
      rintro rfl
      cases rounded
    · refine ⟨truthy, ?_⟩
      rename_i d
      cases d with
      | bool b =>
        obtain rfl : b = true := truthy
        exact absurd rfl otherKind
      | _ => rfl
  · rintro ⟨hends, h⟩
    cases lifetime with
    | whole n =>
      rcases Lifetime.toBinary64_whole n with ⟨_, _, -, hnumber⟩ | ⟨_, hrounded, hnumber⟩
      · cases hnumber.symm.trans h
      · obtain rfl := Except.error.inj (hnumber.symm.trans h)
        exact .tooLarge hrounded
    | real x => cases h
    | other d =>
      cases d with
      | bool b => cases h
      | _ =>
        obtain rfl := Except.error.inj h
        exact .other hends nofun

theorem expiresAt_iff {now : Instant} {lifetime : Option Lifetime} {expiresAt : Option Instant} :
    ExpiresAt now lifetime expiresAt ↔ expiry now lifetime = .ok expiresAt := by
  constructor
  · rintro (endless | ⟨lasts, leads⟩)
    · cases lifetime with
      | none => rfl
      | some lifetime =>
        rw [expiry, isEndless_iff.1 endless]
        rfl
    · obtain ⟨hends, hnumber⟩ := lasts_iff.1 lasts
      rw [expiry, if_pos hends, hnumber, ← leadsTo_iff.1 leads]
      rfl
  · intro h
    cases lifetime with
    | none =>
      obtain rfl := Except.ok.inj h
      exact .never .absent
    | some lifetime =>
      rw [expiry] at h
      split at h
      · rename_i hends
        cases hnumber : lifetime.toBinary64 with
        | error fault =>
          rw [hnumber] at h
          cases h
        | ok seconds =>
          rw [hnumber] at h
          exact .after (lasts_iff.2 ⟨hends, hnumber⟩) (leadsTo_iff.2 (Except.ok.inj h))
      · rename_i hends
        obtain rfl := Except.ok.inj h
        exact .never (isEndless_iff.2 (Bool.eq_false_iff.2 hends))

/-- A lifetime is refused if and only if no expiry can be told. -/
theorem refused_iff_expiry {now : Instant} {lifetime : Lifetime} {fault : Fault} :
    lifetime.Refused fault ↔ expiry now (some lifetime) = .error fault := by
  rw [refused_iff, expiry]
  cases lifetime.limits <;> cases lifetime.toBinary64 <;> simp [Except.map]

/-! ## Moments of the clock -/

/-- A moment that the clock can show: that of a finite floating-point number. -/
structure Instant.IsShown (t : Instant) : Prop where
  representable : Binary64.IsRepresentable t.natAbs
  lt_limit : t.natAbs < Binary64.limit

instance : DecidablePred Instant.IsShown := fun t =>
  decidable_of_iff (Binary64.IsRepresentable t.natAbs ∧ t.natAbs < Binary64.limit)
    ⟨fun h => ⟨h.1, h.2⟩, fun h => ⟨h.1, h.2⟩⟩

/-- The expiry of a whole number of seconds is the rounded sum, if the number can be rounded to a
floating-point number. -/
theorem expiry_whole {now : Instant} {seconds : Nat} (hpositive : 0 < seconds)
    {expiresAt : Option Instant} (h : expiry now (some (.whole seconds)) = .ok expiresAt) :
    ∃ units : Nat, Binary64.ofInt seconds = .finite false units ∧
      expiresAt = now.after (.finite false units) := by
  have hsign : decide ((seconds : Int) < 0) = false :=
    decide_eq_false (Int.not_lt.2 (Int.natCast_nonneg seconds))
  rcases expiresAt_iff.2 h with endless | ⟨lasts, leads⟩
  · have hzero : (seconds : Int) = 0 := by
      simpa [Lifetime.limits] using isEndless_iff.1 endless
    exact absurd (Int.natCast_eq_zero.1 hzero) (Nat.ne_of_gt hpositive)
  · cases lasts with
    | whole nonzero rounded =>
      rcases Binary64.ofInt_eq_or seconds with ⟨units, hunits⟩ | hlarge
      · rw [hsign] at hunits
        obtain ⟨rfl, -⟩ := Binary64.finite.inj (rounded.symm.trans hunits)
        exact ⟨_, rounded, (leadsTo_iff.1 leads).symm⟩
      · cases rounded.symm.trans hlarge

/-- An entry expires some seconds after a moment. The expiry is the sum in floating-point numbers,
and it is missing only where the sum lies beyond every moment that the clock can show: at all such
moments that are not before the sum, the entry is dead. -/
def ExpiresAfter {α : Type} (now : Instant) (seconds : Nat) (entry : CacheEntry α) : Prop :=
  ∃ units : Nat, Binary64.ofInt seconds = .finite false units ∧
    entry.expiresAt = now.after (.finite false units) ∧
    ∀ later : Instant, later.IsShown → now + units ≤ later → entry.isLive later = false

theorem expiresAfter_of_expiry {α : Type} {now : Instant} (hnow : now.IsShown) {seconds : Nat}
    (hpositive : 0 < seconds) {entry : CacheEntry α}
    (h : expiry now (some (.whole seconds)) = .ok entry.expiresAt) :
    ExpiresAfter now seconds entry := by
  obtain ⟨units, hunits, hexpiresAt⟩ := expiry_whole hpositive h
  refine ⟨units, hunits, hexpiresAt, fun later hlater hle => ?_⟩
  obtain ⟨t, ht, htle⟩ := Binary64.exists_addUnits?_le hnow.representable hlater.representable
    hnow.lt_limit hlater.lt_limit hle
  have hexpires : entry.expiresAt = some t := hexpiresAt.trans ht
  rw [← Bool.not_eq_true, CacheEntry.isLive_iff]
  exact fun hlive => absurd (hlive t hexpires) (Int.not_lt.2 htle)

end SignIn
