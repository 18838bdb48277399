import SignIn.Directory.Login

/-!
# Entries of a directory

An attribute has one value or several, and a value is a text or octets. Of an attribute that is asked
for, the first value counts, in text. There is none where the attribute is missing or has no values,
and octets that are no text cannot be told.
-/

namespace SignIn

namespace Directory

/-! ## Shapes -/

/-- A value of an attribute: a text or octets. -/
inductive IsValue : Datum → Prop
  | text (t : Text) : IsValue (.text t)
  | octets (o : Octets) : IsValue (.octets o)

/-- A value that can be told: a text, or octets that are the UTF-8 form of one. -/
inductive IsReadable : Datum → Prop
  | text (t : Text) : IsReadable (.text t)
  | octets {o : Octets} {t : Text} (decodes : Utf8.decode? o = some t) : IsReadable (.octets o)

/-- One value or a list of values, all of some kind. -/
inductive IsAttribute (kind : Datum → Prop) : Datum → Prop
  | single {d : Datum} (is : kind d) : IsAttribute kind d
  | several {items : List Datum} (are : ∀ d ∈ items, kind d) : IsAttribute kind (.list items)

/-- An entry whose attributes have values of some kind, or none. -/
inductive IsEntry (kind : Datum → Prop) : Datum → Prop
  | absent : IsEntry kind .null
  | present {fields : Record} (attributes : ∀ f ∈ fields, IsAttribute kind f.2) :
    IsEntry kind (.record fields)

theorem IsReadable.isValue {d : Datum} (h : IsReadable d) : IsValue d := by
  cases h with
  | text t => exact .text t
  | octets decodes => exact .octets _

theorem IsAttribute.mono {kind wider : Datum → Prop} (hwider : ∀ d, kind d → wider d) {d : Datum}
    (h : IsAttribute kind d) : IsAttribute wider d := by
  cases h with
  | single is => exact .single (hwider d is)
  | several are => exact .several fun d hd => hwider d (are d hd)

theorem IsEntry.mono {kind wider : Datum → Prop} (hwider : ∀ d, kind d → wider d) {d : Datum}
    (h : IsEntry kind d) : IsEntry wider d := by
  cases h with
  | absent => exact .absent
  | present attributes => exact .present fun f hf => (attributes f hf).mono hwider

theorem IsEntry.ofReadable {d : Datum} (h : IsEntry IsReadable d) : IsEntry IsValue d :=
  h.mono fun _ hvalue => hvalue.isValue

/-! ## First values -/

/-- The first value of an attribute, null where there is none. -/
def first : Datum → Datum
  | .list [] => .null
  | .list (d :: _) => d
  | d => d

/-- A value in text, which octets must be the UTF-8 form of. -/
def inText : Datum → Except Fault Datum
  | .octets o =>
    match Utf8.decode? o with
    | some t => .ok (.text t)
    | none => .error .undecodable
  | d => .ok d

/-- The first value of an attribute in text, if it is one. -/
def firstText? (values : Datum) : Option Text :=
  match first values with
  | .text t => some t
  | .octets o => Utf8.decode? o
  | _ => none

/-- The first value of an attribute is octets that are no text. -/
def IsGarbled (values : Datum) : Prop := ∃ o, first values = .octets o ∧ Utf8.decode? o = none

section values

variable {values : Datum}

theorem first_of_isValue {d : Datum} (h : IsValue d) : first d = d := by
  cases h <;> rfl

/-- Only the first value counts. -/
theorem firstValue_eq_inText (values : Datum) : firstValue values = inText (first values) := by
  cases values with
  | list items => cases items <;> rfl
  | _ => rfl

theorem firstValue_of_isGarbled (h : IsGarbled values) :
    firstValue values = .error .undecodable := by
  obtain ⟨o, hfirst, hdecode⟩ := h
  simp only [firstValue_eq_inText, hfirst, inText, hdecode]

/-- The first value is given in text, unless it is octets that are no text. -/
theorem firstValue_eq (hfirst : first values = .null ∨ IsValue (first values))
    (h : ¬ IsGarbled values) : firstValue values = .ok (Datum.ofText? (firstText? values)) := by
  rw [firstValue_eq_inText, firstText?]
  unfold IsGarbled at h
  generalize first values = d at hfirst h ⊢
  rcases hfirst with rfl | hvalue
  · rfl
  · cases hvalue with
    | text t => rfl
    | octets o =>
      cases hdecode : Utf8.decode? o with
      | none => exact absurd ⟨o, rfl, hdecode⟩ h
      | some t => simp only [inText, hdecode, Datum.ofText?]

theorem not_isGarbled (hfirst : first values = .null ∨ IsReadable (first values)) :
    ¬ IsGarbled values := by
  rintro ⟨o, hoctets, hdecode⟩
  rw [hoctets] at hfirst
  rcases hfirst with hnull | hreadable
  · cases hnull
  · cases hreadable with
    | octets decodes =>
      rw [hdecode] at decodes
      cases decodes

end values

/-- An attribute of an entry has no value, or its first value is of the kind. -/
theorem first_valuesOf {kind : Datum → Prop} (hkind : ∀ d, kind d → IsValue d) {fields : Record}
    (h : ∀ f ∈ fields, IsAttribute kind f.2) (name : Text) :
    first (valuesOf fields name) = .null ∨ kind (first (valuesOf fields name)) := by
  unfold valuesOf Record.get?
  cases hfound : fields.lookup name with
  | none => exact .inl rfl
  | some d =>
    obtain ⟨before, after, hsplit, -⟩ := List.lookup_eq_some_iff.1 hfound
    have hattribute : IsAttribute kind d := h (name, d) (by simp [hsplit])
    cases hattribute with
    | single is =>
      right
      rw [Option.getD_some, first_of_isValue (hkind d is)]
      exact is
    | @several items are =>
      cases items with
      | nil => exact .inl rfl
      | cons d rest => exact .inr (are d List.mem_cons_self)

end Directory

end SignIn
