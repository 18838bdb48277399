import Mathlib.Data.List.Nodup
import SignIn.Config.OAuth

/-!
# The scopes of a configuration

Scopes are given as a text of words or as a list. A configuration keeps those that are not blank, each
once and in the order in which they are given first. Giving a configuration its own scopes again
leaves it as it is.
-/

namespace SignIn

namespace Text

/-! ## Words -/

/-- A word that has been begun is the head of what cutting the rest at white space gives. -/
theorem wordsFrom_eq (word t : Text) :
    wordsFrom word t = (List.splitOnPPrepend CodePoint.isSpace t word).filter (· ≠ []) := by
  induction t generalizing word with
  | nil => cases word <;> simp [wordsFrom]
  | cons c t ih =>
    rw [wordsFrom, ih [], ih (c :: word), List.splitOnPPrepend_cons_eq_if,
      List.splitOnP_eq_splitOnPPrepend]
    cases c.isSpace <;> cases word <;> simp

/-- The words of a text are the pieces between its white space that are not empty. -/
theorem words_eq (t : Text) : t.words = (t.splitOnP CodePoint.isSpace).filter (· ≠ []) :=
  wordsFrom_eq [] t

end Text

namespace Scopes

/-! ## Normal scopes -/

/-- What a value gives as scopes: null gives none, a text its words, and a list its elements. -/
inductive Gives : Datum → List Text → Prop
  | nothing : Gives .null []
  | words (t : Text) : Gives (.text t) ((t.splitOnP CodePoint.isSpace).filter (· ≠ []))
  | list (elements : List Text) : Gives (.list (elements.map .text)) elements

/-- Scopes are normal for some elements: they are those that are not blank, each once, in the order
of their first occurrence. -/
structure IsNormal (elements scopes : List Text) : Prop where
  nodup : scopes.Nodup
  mem_iff : ∀ s, s ∈ scopes ↔ s ∈ elements ∧ s.isBlank = false
  ordered : scopes.Pairwise fun s t => elements.idxOf s < elements.idxOf t

namespace IsNormal

variable {elements scopes : List Text} {s : Text}

theorem nil : IsNormal [] [] := ⟨.nil, by simp, .nil⟩

/-- One more element in front moves all others by one place. -/
theorem ordered_cons (h : IsNormal elements scopes) :
    (scopes.filter (· ≠ s)).Pairwise fun t u => (s :: elements).idxOf t < (s :: elements).idxOf u := by
  have hmoved : ∀ t ∈ scopes.filter (· ≠ s), (s :: elements).idxOf t = elements.idxOf t + 1 := by
    intro t ht
    have hne : t ≠ s := of_decide_eq_true (List.mem_filter.1 ht).2
    exact List.idxOf_cons_ne elements hne.symm
  apply (h.ordered.filter _).imp_of_mem
  intro t u ht hu hlt
  rw [hmoved t ht, hmoved u hu]
  exact Nat.succ_lt_succ hlt

/-- A blank element in front changes nothing. -/
theorem cons_blank (h : IsNormal elements scopes) (hs : s.isBlank = true) :
    IsNormal (s :: elements) scopes := by
  have hother : ∀ t ∈ scopes, t ≠ s := by
    rintro t ht rfl
    rw [((h.mem_iff t).1 ht).2] at hs
    cases hs
  have hall : scopes.filter (· ≠ s) = scopes := List.filter_eq_self.2 (by simpa using hother)
  refine ⟨h.nodup, ?_, hall ▸ h.ordered_cons⟩
  intro t
  rw [h.mem_iff, List.mem_cons]
  constructor
  · exact fun ⟨hmem, hpresent⟩ => ⟨.inr hmem, hpresent⟩
  · rintro ⟨rfl | hmem, hpresent⟩
    · rw [hs] at hpresent
      cases hpresent
    · exact ⟨hmem, hpresent⟩

/-- An element in front that is not blank comes first, and drops out further behind. -/
theorem cons_present (h : IsNormal elements scopes) (hs : s.isBlank = false) :
    IsNormal (s :: elements) (s :: scopes.filter (· ≠ s)) where
  nodup := List.nodup_cons.2 ⟨by simp, h.nodup.filter _⟩
  mem_iff t := by
    by_cases hts : t = s
    · simp [hts, hs]
    · simp [hts, h.mem_iff]
  ordered := by
    refine List.pairwise_cons.2 ⟨?_, h.ordered_cons⟩
    intro t ht
    have hne : t ≠ s := of_decide_eq_true (List.mem_filter.1 ht).2
    rw [List.idxOf_cons_self, List.idxOf_cons_ne elements hne.symm]
    exact Nat.succ_pos _

end IsNormal

theorem normalize_cons_blank {s : Text} (h : s.isBlank = true) (rest : List Text) :
    normalize (s :: rest) = normalize rest := by simp [normalize, h]

theorem normalize_cons_present {s : Text} (h : s.isBlank = false) (rest : List Text) :
    normalize (s :: rest) = s :: (normalize rest).filter (· ≠ s) := by
  simp [normalize, h, distinct]

/-- Normalized scopes are normal for what they are made from. -/
theorem isNormal_normalize (elements : List Text) : IsNormal elements (normalize elements) := by
  induction elements with
  | nil => exact .nil
  | cons s rest ih =>
    cases hblank : s.isBlank with
    | true =>
      rw [normalize_cons_blank hblank]
      exact ih.cons_blank hblank
    | false =>
      rw [normalize_cons_present hblank]
      exact ih.cons_present hblank

example : normalize ["mail", " ", "read", "", "mail"] = ["mail", "read"] := by decide

/-- Scopes that differ and are not blank are normalized already. -/
theorem normalize_eq_self {scopes : List Text} (hnodup : scopes.Nodup)
    (hpresent : ∀ s ∈ scopes, s.isBlank = false) : normalize scopes = scopes := by
  induction scopes with
  | nil => rfl
  | cons s rest ih =>
    obtain ⟨hnew, hrest⟩ := List.nodup_cons.1 hnodup
    obtain ⟨hs, hothers⟩ := List.forall_mem_cons.1 hpresent
    have hall : rest.filter (· ≠ s) = rest := by
      apply List.filter_eq_self.2
      intro t ht
      exact decide_eq_true fun hts => hnew (hts ▸ ht)
    rw [normalize_cons_present hs, ih hrest hothers, hall]

theorem IsNormal.normalize_eq {elements scopes : List Text} (h : IsNormal elements scopes) :
    normalize scopes = scopes :=
  normalize_eq_self h.nodup fun s hs => ((h.mem_iff s).1 hs).2

/-! ## Reading scopes -/

theorem texts_map_text (elements : List Text) :
    texts (elements.map .text) = .ok (elements.filter fun t => !t.isEmpty) := by
  induction elements with
  | nil => rfl
  | cons t rest ih =>
    rw [List.map_cons, texts, ih]
    cases t <;> rfl

/-- Empty elements are blank, so it makes no difference that they are left out before. -/
theorem normalize_filter_nonempty (elements : List Text) :
    normalize (elements.filter fun t => !t.isEmpty) = normalize elements := by
  have hboth : ∀ t : Text, (!t.isBlank && !t.isEmpty) = !t.isBlank := by
    intro t
    cases t <;> simp [Text.isBlank]
  simp only [normalize, List.filter_filter, hboth]

theorem ofDatum_of_gives {input : Datum} {elements : List Text} (h : Gives input elements) :
    ofDatum input = .ok (normalize elements) := by
  cases h with
  | nothing => rfl
  | words t => rw [ofDatum, Text.words_eq]
  | list elements =>
    rw [ofDatum, texts_map_text]
    exact congrArg Except.ok (normalize_filter_nonempty elements)

end Scopes

/-! ## Records with other scopes -/

namespace Validated

section laws

variable {α β γ : Type}

theorem map_map (g : β → γ) (f : α → β) (a : Validated α) : g <$> f <$> a = (g ∘ f) <$> a := by
  cases a <;> rfl

/-- What is done to the result of a function is done by another function. -/
theorem map_seq (g : β → γ) (f : Validated (α → β)) (a : Validated α) :
    g <$> (f <*> a) = (g ∘ ·) <$> f <*> a := by
  cases f <;> cases a <;> rfl

/-- A value that is valid in any case is handed to the function. -/
theorem seq_valid (f : Validated (α → β)) (a : α) : f <*> .valid a = (· a) <$> f := by
  cases f <;> rfl

end laws

end Validated

theorem Reading.field_put {α : Type} {fields : Record} {name other : String} (h : name ≠ other)
    (value : Datum) (absent : α) (read : Datum → Validated α) :
    field (fields.put other value) name absent read = field fields name absent read := by
  have hne : Text.ofString name ≠ Text.ofString other := fun hsame => h (Text.ofString_inj.1 hsame)
  rw [field, Record.get?_put, if_neg hne, field]

namespace OAuthConfig

/-- The fields of a configuration but its scopes are read without looking at the scopes. -/
theorem validate_put (fields : Record) (value : Datum) (scopes : List Text) :
    validate (fields.put "scopes" value) scopes = validate fields scopes := by
  have hput {α : Type} {name : String} (h : name ≠ "scopes") (absent : α)
      (read : Datum → Validated α) : Reading.field (fields.put "scopes" value) name absent read =
        Reading.field fields name absent read := Reading.field_put h value absent read
  unfold validate Reading.optionalText
  repeat rw [hput (by decide)]

/-- The scopes are handed on as they are, whatever comes of the other fields. -/
theorem validate_scopes (fields : Record) (scopes others : List Text) :
    validate fields others =
      (fun config => { config with scopes := others }) <$> validate fields scopes := by
  simp only [validate, Validated.map_seq, Validated.seq_valid, Validated.map_map]
  rfl

/-- A record that makes a configuration makes one with any scopes that can be read, and nothing else
about it changes. -/
theorem ofRecord_put {fields : Record} {config : OAuthConfig} {input : Datum} {scopes : List Text}
    (h : ofRecord fields = .ok config) (hscopes : Scopes.ofDatum input = .ok scopes) :
    ofRecord (fields.put "scopes" input) = .ok { config with scopes := scopes } := by
  have hinput : (fields.put "scopes" input).get? "scopes" = some input := by
    rw [Record.get?_put, if_pos rfl]
  cases hown : Scopes.ofDatum ((fields.get? "scopes").getD .null) with
  | error fault =>
    simp only [ofRecord, hown, reduceCtorEq] at h
  | ok own =>
    simp only [ofRecord, hown] at h
    simp only [ofRecord, hinput, Option.getD_some, hscopes, validate_put,
      validate_scopes fields own scopes]
    cases hvalid : validate fields own with
    | valid other =>
      rw [hvalid] at h
      obtain rfl := Except.ok.inj h
      rfl
    | invalid issues =>
      rw [hvalid] at h
      cases h
    | overflow =>
      rw [hvalid] at h
      cases h

end OAuthConfig

end SignIn
