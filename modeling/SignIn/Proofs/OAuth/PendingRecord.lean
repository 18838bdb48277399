import SignIn.OAuth.Pending
import SignIn.Proofs.Json.Written
import SignIn.Proofs.Text.Utf8

/-!
# Pending logins in the cache

A pending login that can be written is read back as it was, with an absent verifier kept apart from
an empty one. So different logins have different records.
-/

namespace SignIn

namespace Json

/-! ## What is written has a UTF-8 form -/

theorem encodable_escape {c : CodePoint} (hc : c.isSurrogate = false) :
    Utf8.encodable (escape c) = true := by
  have hnumber : ∀ n < 0x20, Utf8.encodable (Text.hexadecimal 4 n) = true := by decide
  have hpair : Utf8.encodable [Quoted.backslash, c] = true := by
    rw [Utf8.encodable_cons, Utf8.encodable_cons]
    exact ⟨by decide, hc, rfl⟩
  unfold escape
  split
  · exact hpair
  iterate 5
    split
    · decide
  split
  · rename_i h
    exact Utf8.encodable_append.2 ⟨by decide, hnumber c.val h⟩
  · exact Utf8.encodable_cons.2 ⟨hc, rfl⟩

theorem encodable_literal {t : Text} (h : Utf8.encodable t = true) :
    Utf8.encodable (literal t) = true := by
  have hbody : Utf8.encodable (t.flatMap escape) = true := by
    induction t with
    | nil => rfl
    | cons c t ih =>
      obtain ⟨hc, ht⟩ := Utf8.encodable_cons.1 h
      rw [List.flatMap_cons]
      exact Utf8.encodable_append.2 ⟨encodable_escape hc, ih ht⟩
  rw [literal, List.cons_append, Utf8.encodable_cons]
  exact ⟨by decide, Utf8.encodable_append.2 ⟨hbody, by decide⟩⟩

theorem encodable_object {fields : List (Text × Text)}
    (h : ∀ f ∈ fields, Utf8.encodable f.1 = true ∧ Utf8.encodable f.2 = true) :
    Utf8.encodable (object fields) = true := by
  have hfields : ∀ t ∈ fields.map (fun f => literal f.1 ++ (":" : Text) ++ f.2),
      Utf8.encodable t = true := by
    intro t ht
    obtain ⟨f, hf, rfl⟩ := List.mem_map.1 ht
    obtain ⟨hname, hvalue⟩ := h f hf
    exact Utf8.encodable_append.2
      ⟨Utf8.encodable_append.2 ⟨encodable_literal hname, by decide⟩, hvalue⟩
  have hseparator : Utf8.encodable "," = true := by decide
  have hjoin := (Utf8.encodable_joinWith hseparator).2 hfields
  exact Utf8.encodable_append.2 ⟨Utf8.encodable_append.2 ⟨by decide, hjoin⟩, by decide⟩

end Json

namespace Validated

theorem below_ne_overflow {α : Type} {a : Validated α} (h : a ≠ .overflow) (name : Text) :
    a.below name ≠ .overflow := by
  cases a with
  | valid value => nofun
  | invalid issues => nofun
  | overflow => exact absurd rfl h

theorem map_ne_overflow {α β : Type} {a : Validated α} (h : a ≠ .overflow) (f : α → β) :
    f <$> a ≠ .overflow := by
  cases a with
  | valid value => nofun
  | invalid issues => nofun
  | overflow => exact absurd rfl h

theorem seq_ne_overflow {α β : Type} {f : Validated (α → β)} {a : Validated α}
    (hf : f ≠ .overflow) (ha : a ≠ .overflow) : f <*> a ≠ .overflow := by
  cases f with
  | overflow => exact absurd rfl hf
  | _ =>
    cases a with
    | overflow => exact absurd rfl ha
    | _ => nofun

end Validated

namespace PendingLogin

/-! ## Records -/

/-- Reading a record of texts never meets a value that is too large. -/
theorem ofRecord_ne_overflow (fields : Record) : ofRecord fields ≠ .overflow := by
  have htext (d : Datum) : Reading.text d ≠ .overflow := by
    cases d <;> nofun
  have hrequired (name : String) : Reading.required fields name Reading.text ≠ .overflow := by
    unfold Reading.required
    split
    · exact Validated.below_ne_overflow (htext _) _
    · nofun
  have hoptional : Reading.optionalText fields "code_verifier" ≠ .overflow := by
    unfold Reading.optionalText Reading.field
    split
    · apply Validated.below_ne_overflow
      unfold Reading.optional
      split
      · nofun
      · exact Validated.map_ne_overflow (htext _) some
    · nofun
  exact Validated.seq_ne_overflow
    (Validated.seq_ne_overflow (Validated.map_ne_overflow (hrequired "key") _) (hrequired "state"))
    hoptional

theorem ofStored_ne_overflow (stored : Datum) : ofStored stored ≠ .overflow := by
  unfold ofStored ofJson
  split
  · split
    · nofun
    · split
      · nofun
      · exact ofRecord_ne_overflow _
      · nofun
  · nofun

/-- The fields of a record with their written forms and their values. -/
def writtenFields (p : PendingLogin) : List (Text × Text × Datum) :=
  [("key", Json.literal p.key, .text p.key), ("state", Json.literal p.state, .text p.state),
    ("code_verifier", Json.literalOrNull p.codeVerifier, Datum.ofText? p.codeVerifier)]

theorem toJson?_eq_some_iff {p : PendingLogin} {t : Text} :
    p.toJson? = some t ↔
      p.encodable = true ∧ Json.object (p.writtenFields.map fun f => (f.1, f.2.1)) = t := by
  unfold toJson?
  split <;> simp_all [writtenFields]

theorem encodable_iff {p : PendingLogin} :
    p.encodable = true ↔ Utf8.encodable p.key = true ∧ Utf8.encodable p.state = true ∧
      ∀ v, p.codeVerifier = some v → Utf8.encodable v = true := by
  unfold encodable
  cases p.codeVerifier <;> simp [and_assoc]

/-- A login that can be written has a UTF-8 form in all its parts. -/
theorem encodable_parts_of_toJson? {p : PendingLogin} {t : Text} (h : p.toJson? = some t) :
    Utf8.encodable p.key = true ∧ Utf8.encodable p.state = true ∧
      ∀ v, p.codeVerifier = some v → Utf8.encodable v = true := by
  obtain ⟨hp, -⟩ := toJson?_eq_some_iff.1 h
  exact encodable_iff.1 hp

theorem encodable_of_toJson? {p : PendingLogin} {t : Text} (h : p.toJson? = some t) :
    Utf8.encodable t = true := by
  obtain ⟨hkey, hstate, hverifier⟩ := encodable_parts_of_toJson? h
  obtain ⟨-, rfl⟩ := toJson?_eq_some_iff.1 h
  have hvalue : Utf8.encodable (Json.literalOrNull p.codeVerifier) = true := by
    cases hv : p.codeVerifier with
    | none => decide
    | some v => exact Json.encodable_literal (hverifier v hv)
  apply Json.encodable_object
  intro f hf
  simp only [writtenFields, List.map_cons, List.map_nil, List.mem_cons, List.not_mem_nil,
    or_false] at hf
  rcases hf with rfl | rfl | rfl
  · exact ⟨rfl, Json.encodable_literal hkey⟩
  · exact ⟨rfl, Json.encodable_literal hstate⟩
  · exact ⟨rfl, hvalue⟩

theorem writes_of_mem_writtenFields {p : PendingLogin} {f : Text × Text × Datum}
    (hf : f ∈ p.writtenFields) : Json.Writes f.2.1 f.2.2 := by
  simp only [writtenFields, List.mem_cons, List.not_mem_nil, or_false] at hf
  rcases hf with rfl | rfl | rfl
  · exact Json.writes_literal p.key
  · exact Json.writes_literal p.state
  · exact Json.writes_literalOrNull p.codeVerifier

/-- The fields as which a record is read. -/
def readFields (p : PendingLogin) : Record :=
  [("key", .text p.key), ("state", .text p.state),
    ("code_verifier", Datum.ofText? p.codeVerifier)]

theorem ofFields_writtenFields (p : PendingLogin) :
    Record.ofFields (p.writtenFields.map fun f => (f.1, f.2.2)) = p.readFields := rfl

theorem ofRecord_readFields (p : PendingLogin) : ofRecord p.readFields = .valid p := by
  obtain ⟨key, state, codeVerifier⟩ := p
  cases codeVerifier <;> rfl

/-- A stored login is read back as it was. -/
theorem ofStored_of_toJson? {p : PendingLogin} {t : Text} (h : p.toJson? = some t) :
    ofStored (.text t) = .valid p := by
  have hencodable := encodable_of_toJson? h
  obtain ⟨_, rfl⟩ := toJson?_eq_some_iff.1 h
  have hdepth : Json.Dialect.stored.admits 0 = true := rfl
  have hread := Json.read?_object hdepth p.writtenFields (List.cons_ne_nil _ _) fun f =>
    writes_of_mem_writtenFields
  rw [ofFields_writtenFields] at hread
  simp only [ofStored, ofJson, hencodable, Bool.not_true, Bool.false_eq_true, if_false, hread]
  exact ofRecord_readFields p

/-- Two logins with the same record are the same. -/
theorem toJson?_injective {p q : PendingLogin} {t : Text} (hp : p.toJson? = some t)
    (hq : q.toJson? = some t) : p = q := by
  have hread := (ofStored_of_toJson? hp).symm.trans (ofStored_of_toJson? hq)
  exact Validated.valid.inj hread

/-- A login whose texts have a UTF-8 form can be written, is read back as it was, with an absent
verifier apart from an empty one, and has a record of its own. -/
theorem survives_storage {p : PendingLogin} (hkey : Utf8.encodable p.key = true)
    (hstate : Utf8.encodable p.state = true)
    (hverifier : ∀ v ∈ p.codeVerifier, Utf8.encodable v = true) :
    ∃ t, p.toJson? = some t ∧ ofStored (.text t) = .valid p ∧
      ∀ q : PendingLogin, q ≠ p → q.toJson? ≠ some t := by
  have hp : p.encodable = true := encodable_iff.2 ⟨hkey, hstate, hverifier⟩
  obtain ⟨t, ht⟩ := Option.isSome_iff_exists.1 (toJson?_isSome.trans hp)
  exact ⟨t, ht, ofStored_of_toJson? ht, fun q hne hq => hne (toJson?_injective hq ht)⟩

/-- A login with characters that are escaped and characters that are not, and an empty verifier. -/
def awkwardLogin : PendingLogin := ⟨"k\u0000\"\\/\n", "\u001f\u007f\u00e9\u2028😀", some []⟩

/-- The login comes back with its empty verifier, and without one it is written otherwise. -/
theorem survives_storage_awkward :
    Utf8.encodable awkwardLogin.key = true ∧ Utf8.encodable awkwardLogin.state = true ∧
      (∀ v ∈ awkwardLogin.codeVerifier, Utf8.encodable v = true) ∧
      ∃ t, awkwardLogin.toJson? = some t ∧ ofStored (.text t) = .valid awkwardLogin ∧
        { awkwardLogin with codeVerifier := none }.toJson? ≠ some t := by
  have hkey : Utf8.encodable awkwardLogin.key = true := by decide
  have hstate : Utf8.encodable awkwardLogin.state = true := by decide
  have hverifier : ∀ v ∈ awkwardLogin.codeVerifier, Utf8.encodable v = true := by decide
  obtain ⟨t, ht, hread, hothers⟩ := survives_storage hkey hstate hverifier
  exact ⟨hkey, hstate, hverifier, t, ht, hread, hothers _ (by decide)⟩

end PendingLogin

end SignIn
