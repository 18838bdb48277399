import Mathlib.Data.Rat.Floor
import SignIn.OAuth.TokenPayload
import SignIn.Proofs.Number.Numeral

/-!
# The normal form of a token

What a payload comes to, said without the functions that read it. An error that counts as true makes
it a refusal, and the want of a usable access token makes it malformed. Otherwise there is one
token: its texts are those of the values in the payload, and its life is the whole number of seconds
to which the value converts, if there is such a number.
-/

namespace SignIn

/-! ## Values that count as false -/

/-- The values that count as false: null, false, the zeros, and whatever is empty. -/
inductive Datum.CountsFalse : Datum → Prop
  | null : CountsFalse .null
  | bool : CountsFalse (.bool false)
  | int : CountsFalse (.int 0)
  | real (negative : Bool) : CountsFalse (.real (.finite negative 0))
  | text : CountsFalse (.text [])
  | octets : CountsFalse (.octets [])
  | list : CountsFalse (.list [])
  | record : CountsFalse (.record [])

theorem Datum.truthy_eq_false_iff {d : Datum} : d.truthy = false ↔ d.CountsFalse := by
  constructor
  · intro h
    cases d with
    | null => exact .null
    | bool b =>
      obtain rfl : b = false := h
      exact .bool
    | int n =>
      obtain rfl : n = 0 := by simpa [truthy] using h
      exact .int
    | real x =>
      cases x with
      | finite negative units =>
        obtain rfl : units = 0 := by simpa [truthy, Binary64.isZero] using h
        exact .real negative
      | infinite negative => cases h
      | nan => cases h
    | text t =>
      obtain rfl : t = [] := by simpa [truthy] using h
      exact .text
    | octets o =>
      obtain rfl : o = [] := by simpa [truthy] using h
      exact .octets
    | list items =>
      obtain rfl : items = [] := by simpa [truthy] using h
      exact .list
    | record fields =>
      obtain rfl : fields = [] := by simpa [truthy] using h
      exact .record
  · rintro ⟨⟩ <;> rfl

/-! ## Whole numbers -/

/-- The rational number that a floating-point number is. -/
def Binary64.value? (x : Binary64) : Option ℚ := x.toUnits?.map fun units => (units : ℚ) / one

/-- A number without its fraction. -/
def wholePart (q : ℚ) : ℤ := if 0 ≤ q then ⌊q⌋ else ⌈q⌉

/-- Dividing toward zero drops the fraction of the quotient. -/
theorem wholePart_div (n : ℤ) (d : ℕ) : wholePart ((n : ℚ) / d) = n.tdiv d := by
  unfold wholePart
  rcases le_or_gt 0 n with hn | hn
  · have hq : (0 : ℚ) ≤ n / d := div_nonneg (Int.cast_nonneg hn) (Nat.cast_nonneg d)
    rw [if_pos hq, Rat.floor_intCast_div_natCast, Int.tdiv_eq_ediv_of_nonneg hn]
  · rcases Nat.eq_zero_or_pos d with rfl | hd
    · simp
    · have hq : ¬ (0 : ℚ) ≤ n / d :=
        not_le.2 (div_neg_of_neg_of_pos (Int.cast_lt_zero.2 hn) (Nat.cast_pos.2 hd))
      have hopposite : (-n).tdiv d = (-n) / d := Int.tdiv_eq_ediv_of_nonneg (by omega)
      rw [if_neg hq, Rat.ceil_intCast_div_natCast, ← hopposite, Int.neg_tdiv, neg_neg]

theorem Binary64.truncate?_eq (x : Binary64) : x.truncate? = x.value?.map wholePart := by
  unfold truncate? value?
  cases x.toUnits? with
  | none => rfl
  | some units => exact congrArg some (wholePart_div units one).symm

namespace OAuth

/-- A value converts to a whole number of seconds: an integer and a truth value as they are, a
floating-point number without its fraction, and a text that writes an integer. -/
inductive CountsSeconds : Datum → Int → Prop
  | int (n : Int) : CountsSeconds (.int n) n
  | bool (b : Bool) : CountsSeconds (.bool b) (if b then 1 else 0)
  | real {x : Binary64} {q : ℚ} (value_eq : x.value? = some q) :
    CountsSeconds (.real x) (wholePart q)
  | text {t : Text} {n : Int} (writes : Numeral.Writes t n) : CountsSeconds (.text t) n

/-- The life of a value that converts is the number of seconds to which it does. -/
theorem ofDatum_of_countsSeconds {d : Datum} {n : Int} (h : CountsSeconds d n) :
    StatedLife.ofDatum d = StatedLife.ofInt n := by
  cases h with
  | int => rfl
  | bool => rfl
  | @real x q hvalue =>
    cases x with
    | finite negative units =>
      have htruncate := Binary64.truncate?_eq (.finite negative units)
      rw [hvalue] at htruncate
      simp only [StatedLife.ofDatum, htruncate, Option.map_some]
    | infinite negative => cases hvalue
    | nan => cases hvalue
  | @text t n hwrites =>
    have hread := Numeral.integer?_eq_some_iff.2 hwrites
    have hne : t ≠ [] := by
      rintro rfl
      cases hread
    simp only [StatedLife.ofDatum, if_neg hne, hread]

/-- A value that does not convert has no life, unless it is infinite. -/
theorem ofDatum_of_not_countsSeconds {d : Datum} (h : ∀ n, ¬ CountsSeconds d n)
    (hfinite : ∀ negative, d ≠ .real (.infinite negative)) :
    StatedLife.ofDatum d = .absent ∨ StatedLife.ofDatum d = .ignored := by
  cases d with
  | null => exact .inl rfl
  | bool b => exact absurd (.bool b) (h _)
  | int n => exact absurd (.int n) (h n)
  | real x =>
    cases x with
    | finite negative units => cases negative <;> exact absurd (.real rfl) (h _)
    | infinite negative => exact absurd rfl (hfinite negative)
    | nan => exact .inr rfl
  | text t =>
    by_cases ht : t = []
    · exact .inl (if_pos ht)
    · cases hread : Numeral.integer? t with
      | some n => exact absurd (.text (Numeral.integer?_eq_some_iff.1 hread)) (h n)
      | none =>
        right
        simp only [StatedLife.ofDatum, if_neg ht, hread]
  | octets o => exact .inr rfl
  | list items => exact .inr rfl
  | record fields => exact .inr rfl

/-- A life that a token can have: it is not infinite, and the seconds to which it converts, if it
does, are neither too many nor too few. -/
structure IsBounded (life : Datum) : Prop where
  finite : ∀ negative, life ≠ .real (.infinite negative)
  inRange : ∀ n, CountsSeconds life n → minSeconds ≤ n ∧ n ≤ maxSeconds

/-- The seconds of a life, if it has any. -/
def StatedLife.count? : StatedLife → Option Int
  | .seconds n => some n
  | _ => none

theorem ofDatum_eq_seconds {life : Datum} {n : Int} (hlife : IsBounded life)
    (h : CountsSeconds life n) : StatedLife.ofDatum life = .seconds n :=
  (ofDatum_of_countsSeconds h).trans (if_pos (hlife.inRange n h))

theorem ofDatum_ne_excessive {life : Datum} (hlife : IsBounded life) :
    StatedLife.ofDatum life ≠ .excessive := by
  by_cases hcounts : ∃ n, CountsSeconds life n
  · obtain ⟨n, hn⟩ := hcounts
    rw [ofDatum_eq_seconds hlife hn]
    nofun
  · rcases ofDatum_of_not_countsSeconds (not_exists.1 hcounts) hlife.finite with h | h <;>
      rw [h] <;> nofun

/-- A bounded life has the seconds to which its value converts. -/
theorem count?_ofDatum_eq_some_iff {life : Datum} (hlife : IsBounded life) {n : Int} :
    (StatedLife.ofDatum life).count? = some n ↔ CountsSeconds life n := by
  constructor
  · intro h
    by_cases hcounts : ∃ m, CountsSeconds life m
    · obtain ⟨m, hm⟩ := hcounts
      rw [ofDatum_eq_seconds hlife hm] at h
      obtain rfl : m = n := Option.some.inj h
      exact hm
    · rcases ofDatum_of_not_countsSeconds (not_exists.1 hcounts) hlife.finite with hnone | hnone <;>
        rw [hnone] at h <;> cases h
  · intro h
    rw [ofDatum_eq_seconds hlife h]
    rfl

/-! ## Payloads -/

/-- The value of a field, null where the field is absent. -/
def valueAt (payload : Record) (name : String) : Datum := (payload.get? name).getD .null

/-- A payload refuses a token: its error counts as true. -/
def Refuses (payload : Record) : Prop := ¬ (valueAt payload "error").CountsFalse

/-- A payload holds an access token: a text with something in it besides white space. -/
def HoldsToken (payload : Record) (accessToken : Text) : Prop :=
  payload.get? "access_token" = some (.text accessToken) ∧ ∃ c ∈ accessToken, c.isSpace = false

/-- The text of a value, which null does not have. -/
def IsTextOf (d : Datum) (t : Option Text) : Prop :=
  d = .null ∧ t = none ∨ d ≠ .null ∧ t = some d.display

/-- The normal form of a payload that holds a token. -/
structure IsNormalToken (payload : Record) (token : AccessToken) : Prop where
  holds : HoldsToken payload token.accessToken
  tokenType : IsTextOf (valueAt payload "token_type") token.tokenType
  refreshToken : IsTextOf (valueAt payload "refresh_token") token.refreshToken
  scope : IsTextOf (valueAt payload "scope") token.scope
  idToken : IsTextOf (valueAt payload "id_token") token.idToken
  expiresIn_iff : ∀ n, token.expiresIn = some n ↔ CountsSeconds (valueAt payload "expires_in") n
  raw_eq : token.raw = payload

theorem IsTextOf.unique {d : Datum} {s t : Option Text} (hs : IsTextOf d s) (ht : IsTextOf d t) :
    s = t := by
  rcases hs with ⟨hd, rfl⟩ | ⟨hd, rfl⟩
  · rcases ht with ⟨-, rfl⟩ | ⟨hne, -⟩
    · rfl
    · exact absurd hd hne
  · rcases ht with ⟨hnull, -⟩ | ⟨-, rfl⟩
    · exact absurd hnull hd
    · rfl

/-- A payload has one normal form at most. -/
theorem IsNormalToken.unique {payload : Record} {first second : AccessToken}
    (hfirst : IsNormalToken payload first) (hsecond : IsNormalToken payload second) :
    first = second := by
  have haccess : first.accessToken = second.accessToken := by
    have hsame := hfirst.holds.1.symm.trans hsecond.holds.1
    simpa using hsame
  have hlife : first.expiresIn = second.expiresIn :=
    Option.ext fun n => (hfirst.expiresIn_iff n).trans (hsecond.expiresIn_iff n).symm
  have htype := hfirst.tokenType.unique hsecond.tokenType
  have hrefresh := hfirst.refreshToken.unique hsecond.refreshToken
  have hscope := hfirst.scope.unique hsecond.scope
  have hid := hfirst.idToken.unique hsecond.idToken
  have hraw := hfirst.raw_eq.trans hsecond.raw_eq.symm
  cases first
  cases second
  simp_all

/-! ## Reading a payload -/

theorem refusalIn?_of_refuses {payload : Record} (h : Refuses payload) :
    refusalIn? payload =
      some (.providerDenied (valueAt payload "error").display
        (valueAt payload "error_description")) := by
  have htruthy : (valueAt payload "error").truthy = true := by
    rw [← Bool.not_eq_false, Datum.truthy_eq_false_iff]
    exact h
  exact if_pos htruthy

theorem refusalIn?_of_not_refuses {payload : Record} (h : ¬ Refuses payload) :
    refusalIn? payload = none := by
  have htruthy : (valueAt payload "error").truthy = false :=
    Datum.truthy_eq_false_iff.2 (not_not.1 h)
  exact if_neg (by simpa [valueAt] using htruthy)

theorem usableToken?_eq_some_iff {payload : Record} {accessToken : Text} :
    usableToken? payload = some accessToken ↔ HoldsToken payload accessToken := by
  have hpresent (t : Option Text) : Text.present? t = some accessToken ↔
      t = some accessToken ∧ ∃ c ∈ accessToken, c.isSpace = false := by
    cases t with
    | none => simp [Text.present?]
    | some t =>
      have hblank : t.isBlank = false ↔ ∃ c ∈ t, c.isSpace = false := by simp [Text.isBlank]
      rw [Text.present?, Option.some.injEq]
      constructor
      · intro h
        split at h
        · cases h
        · rename_i hfilled
          obtain rfl := Option.some.inj h
          exact ⟨rfl, hblank.1 (Bool.eq_false_iff.2 hfilled)⟩
      · rintro ⟨rfl, h⟩
        exact if_neg (by simp [hblank.2 h])
  have htext : (payload.get? "access_token").bind Datum.text? = some accessToken ↔
      payload.get? "access_token" = some (.text accessToken) := by
    cases payload.get? "access_token" with
    | none => simp
    | some d => cases d <;> simp [Datum.text?]
  rw [usableToken?, hpresent, htext, HoldsToken]

theorem isTextOf_payloadText (payload : Record) (name : String) :
    IsTextOf (valueAt payload name) (payloadText payload name) := by
  unfold payloadText valueAt
  cases (payload.get? name).getD .null with
  | null => exact .inl ⟨rfl, rfl⟩
  | _ => exact .inr ⟨nofun, rfl⟩

/-- A payload with a token is brought into normal form once its life is known. -/
theorem isNormalToken_tokenOf {payload : Record} {accessToken : Text} {life : Option Int}
    (hholds : HoldsToken payload accessToken)
    (hlife : ∀ n, life = some n ↔ CountsSeconds (valueAt payload "expires_in") n) :
    IsNormalToken payload (tokenOf payload accessToken life) where
  holds := hholds
  tokenType := isTextOf_payloadText payload "token_type"
  refreshToken := isTextOf_payloadText payload "refresh_token"
  scope := isTextOf_payloadText payload "scope"
  idToken := isTextOf_payloadText payload "id_token"
  expiresIn_iff := hlife
  raw_eq := rfl

/-- A payload that holds a token is read as one, with the seconds of its life, unless that is too
long. -/
theorem tokenOfPayload_of_holdsToken {payload : Record} {accessToken : Text}
    (haccepted : ¬ Refuses payload) (hholds : HoldsToken payload accessToken)
    (hlife : StatedLife.ofDatum (valueAt payload "expires_in") ≠ .excessive) :
    (tokenOfPayload payload).1 = .ok (tokenOf payload accessToken
      (StatedLife.ofDatum (valueAt payload "expires_in")).count?) := by
  unfold valueAt at hlife ⊢
  simp only [tokenOfPayload, refusalIn?_of_not_refuses haccepted,
    usableToken?_eq_some_iff.2 hholds]
  cases hstated : StatedLife.ofDatum ((payload.get? "expires_in").getD .null) with
  | excessive => exact absurd hstated hlife
  | _ => rfl

theorem tokenOfPayload_of_not_holdsToken {payload : Record} (haccepted : ¬ Refuses payload)
    (hholds : ¬ ∃ accessToken, HoldsToken payload accessToken) :
    (tokenOfPayload payload).1 = .error (.auth (.malformedToken payload)) := by
  have husable : usableToken? payload = none := by
    rw [Option.eq_none_iff_forall_ne_some]
    exact fun accessToken h => hholds ⟨accessToken, usableToken?_eq_some_iff.1 h⟩
  simp only [tokenOfPayload, refusalIn?_of_not_refuses haccepted, husable]

theorem tokenOfPayload_of_refuses {payload : Record} (h : Refuses payload) :
    (tokenOfPayload payload).1 = .error (.auth (.providerDenied (valueAt payload "error").display
      (valueAt payload "error_description"))) := by
  simp only [tokenOfPayload, refusalIn?_of_refuses h]

/-- A payload that is read as a token is no refusal and holds the access token of the token. -/
theorem holdsToken_of_tokenOfPayload {payload : Record} {token : AccessToken}
    (h : (tokenOfPayload payload).1 = .ok token) :
    ¬ Refuses payload ∧ HoldsToken payload token.accessToken := by
  have haccepted : ¬ Refuses payload := by
    intro hrefuses
    rw [tokenOfPayload_of_refuses hrefuses] at h
    cases h
  refine ⟨haccepted, ?_⟩
  by_cases hholds : ∃ accessToken, HoldsToken payload accessToken
  · obtain ⟨accessToken, hholds⟩ := hholds
    simp only [tokenOfPayload, refusalIn?_of_not_refuses haccepted,
      usableToken?_eq_some_iff.2 hholds] at h
    cases hstated : StatedLife.ofDatum ((payload.get? "expires_in").getD .null) <;>
      rw [hstated] at h <;> cases h <;> exact hholds
  · rw [tokenOfPayload_of_not_holdsToken haccepted hholds] at h
    cases h

/-- What reading a payload comes to: a refusal, a complaint about it, or its normal form. -/
structure Reads (payload : Record) (result : Except Failure AccessToken) : Prop where
  denied_iff : ∀ error description,
    result = .error (.auth (.providerDenied error description)) ↔
      Refuses payload ∧ error = (valueAt payload "error").display ∧
        description = valueAt payload "error_description"
  malformed_iff : ∀ raw, result = .error (.auth (.malformedToken raw)) ↔
    ¬ Refuses payload ∧ (¬ ∃ accessToken, HoldsToken payload accessToken) ∧ raw = payload
  ok_iff : ∀ token, result = .ok token ↔ ¬ Refuses payload ∧ IsNormalToken payload token
  /-- There is no other end. -/
  ends : (∃ error description, result = .error (.auth (.providerDenied error description))) ∨
    (∃ raw, result = .error (.auth (.malformedToken raw))) ∨ ∃ token, result = .ok token

/-- Reading a payload whose life is bounded ends in exactly one of three ways, told by the payload
alone, and keeps all of a payload that it does not refuse. -/
theorem payload_normalised {payload : Record}
    (hlife : IsBounded (valueAt payload "expires_in")) :
    Reads payload (tokenOfPayload payload).1 := by
  by_cases hrefuses : Refuses payload
  · rw [tokenOfPayload_of_refuses hrefuses]
    constructor
    · intro error description
      simp [hrefuses, eq_comm]
    · simp [hrefuses]
    · simp [hrefuses]
    · exact .inl ⟨_, _, rfl⟩
  by_cases hholds : ∃ accessToken, HoldsToken payload accessToken
  · obtain ⟨accessToken, hholds⟩ := hholds
    rw [tokenOfPayload_of_holdsToken hrefuses hholds (ofDatum_ne_excessive hlife)]
    have hnormal := isNormalToken_tokenOf hholds fun n => count?_ofDatum_eq_some_iff hlife
    constructor
    · simp [hrefuses]
    · intro raw
      simp only [reduceCtorEq, false_iff]
      exact fun h => h.2.1 ⟨accessToken, hholds⟩
    · intro token
      rw [Except.ok.injEq, and_iff_right hrefuses]
      constructor
      · rintro rfl
        exact hnormal
      · exact hnormal.unique
    · exact .inr (.inr ⟨_, rfl⟩)
  · rw [tokenOfPayload_of_not_holdsToken hrefuses hholds]
    constructor
    · simp [hrefuses]
    · intro raw
      simp [hrefuses, hholds, eq_comm]
    · intro token
      simp only [reduceCtorEq, false_iff]
      exact fun h => hholds ⟨_, h.2.holds⟩
    · exact .inr (.inl ⟨_, rfl⟩)

/-- A payload with an error that counts as false, a life in digits of two scripts, a type that is no
text and a field of its own. -/
def unusualPayload : Record :=
  [("error", .list []), ("access_token", .text " t0ken"),
    ("expires_in", .text "\u00a0+3_6\u0660\u0660\n"),
    ("token_type", .list [.text "mac", .null, .bool true]), ("id_token", .null), ("realm", .int 7)]

theorem unusualPayload_life {n : Int} :
    CountsSeconds (valueAt unusualPayload "expires_in") n ↔ n = 3600 := by
  obtain ⟨t, ht, hread⟩ : ∃ t, valueAt unusualPayload "expires_in" = .text t ∧
      Numeral.integer? t = some 3600 := ⟨_, rfl, by decide +kernel⟩
  rw [ht]
  constructor
  · rintro (_ | _ | _ | hwrites)
    exact Option.some.inj ((Numeral.integer?_eq_some_iff.2 hwrites).symm.trans hread)
  · rintro rfl
    exact .text (Numeral.integer?_eq_some_iff.1 hread)

/-- The payload is brought into normal form, with all its fields and a life of an hour. -/
theorem unusualPayload_normalised :
    IsBounded (valueAt unusualPayload "expires_in") ∧
      ∃ token, (tokenOfPayload unusualPayload).1 = .ok token ∧
        token.accessToken = Text.ofString " t0ken" ∧
        token.tokenType = some (Text.ofString "['mac', None, True]") ∧ token.idToken = none ∧
        token.expiresIn = some 3600 ∧ token.raw = unusualPayload := by
  have hlife : IsBounded (valueAt unusualPayload "expires_in") := by
    refine ⟨nofun, ?_⟩
    intro n hn
    rw [unusualPayload_life.1 hn]
    decide
  have hreads := payload_normalised hlife
  have hholds : HoldsToken unusualPayload " t0ken" := ⟨rfl, by decide⟩
  refine ⟨hlife, ?_⟩
  rcases hreads.ends with ⟨_, _, hdenied⟩ | ⟨_, hmalformed⟩ | ⟨token, htoken⟩
  · exact absurd .list ((hreads.denied_iff _ _).1 hdenied).1
  · exact absurd ⟨_, hholds⟩ ((hreads.malformed_iff _).1 hmalformed).2.1
  · obtain ⟨-, hnormal⟩ := (hreads.ok_iff token).1 htoken
    have hsame : Datum.text token.accessToken = .text " t0ken" :=
      Option.some.inj (hnormal.holds.1.symm.trans hholds.1)
    exact ⟨token, htoken, Datum.text.inj hsame,
      hnormal.tokenType.unique (.inr ⟨nofun, by decide +kernel⟩),
      hnormal.idToken.unique (.inl ⟨rfl, rfl⟩),
      (hnormal.expiresIn_iff 3600).2 (unusualPayload_life.2 rfl), hnormal.raw_eq⟩

end OAuth

end SignIn
