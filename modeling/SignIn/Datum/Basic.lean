import SignIn.Text.Basic
import SignIn.Number.Binary64

/-!
# Dynamic values

Provider answers, directory entries and unvalidated configuration are dynamic values. A record keeps
its fields in the order of their first appearance, and a field that is written again keeps its place
and takes the later value.
-/

namespace SignIn

inductive Datum where
  | null
  | bool (value : Bool)
  | int (value : Int)
  | real (value : Binary64)
  | text (value : Text)
  | octets (value : Octets)
  | list (items : List Datum)
  | record (fields : List (Text × Datum))

instance : Inhabited Datum := ⟨.null⟩

/-- The fields of a record, in order, each name once. -/
abbrev Record := List (Text × Datum)

namespace Record

def get? (fields : Record) (name : Text) : Option Datum := fields.lookup name

def has (fields : Record) (name : Text) : Bool := (get? fields name).isSome

/-- Writes a field: in its place if it is present, at the end otherwise. -/
def put : Record → Text → Datum → Record
  | [], name, value => [(name, value)]
  | (key, old) :: rest, name, value =>
    if key = name then (key, value) :: rest else (key, old) :: put rest name value

/-- A record of fields that may repeat. -/
def ofFields (fields : List (Text × Datum)) : Record :=
  fields.foldl (fun r f => put r f.1 f.2) []

def without (fields : Record) (name : Text) : Record := fields.filter fun f => f.1 ≠ name

theorem get?_put (fields : Record) (name key : Text) (value : Datum) :
    get? (put fields name value) key = if key = name then some value else get? fields key := by
  induction fields with
  | nil =>
    by_cases h : key = name
    · simp [put, get?, h]
    · simp [put, get?, List.lookup_cons, h, beq_eq_false_iff_ne.mpr h]
  | cons f rest ih =>
    obtain ⟨k, old⟩ := f
    simp only [get?] at ih ⊢
    by_cases hk : k = name
    · subst hk
      by_cases h : key = k
      · simp [put, h]
      · simp [put, List.lookup_cons, h, beq_eq_false_iff_ne.mpr h]
    · simp only [put, if_neg hk, List.lookup_cons]
      by_cases h : key = k
      · subst h
        simp [hk]
      · simp [beq_eq_false_iff_ne.mpr h, ih]

theorem get?_without (fields : Record) (name key : Text) :
    get? (without fields name) key = if key = name then none else get? fields key := by
  induction fields with
  | nil => simp [without, get?]
  | cons f rest ih =>
    obtain ⟨k, value⟩ := f
    simp only [get?, without] at ih ⊢
    by_cases hk : k = name
    · simp only [hk, List.filter_cons, ne_eq, not_true_eq_false, decide_false, Bool.false_eq_true,
        if_false, ih, List.lookup_cons]
      by_cases h : key = name
      · simp [h]
      · simp [h, beq_eq_false_iff_ne.mpr h]
    · simp only [hk, List.filter_cons, ne_eq, not_false_eq_true, decide_true, if_true,
        List.lookup_cons, ih]
      by_cases h : key = k
      · simp [h, hk]
      · simp [beq_eq_false_iff_ne.mpr h]

end Record

namespace Datum

/-- Whether a value counts as true: all do but null, false, zero and the empty ones. -/
def truthy : Datum → Bool
  | .null => false
  | .bool b => b
  | .int n => n ≠ 0
  | .real x => !x.isZero
  | .text t => !t.isEmpty
  | .octets o => !o.isEmpty
  | .list items => !items.isEmpty
  | .record fields => !fields.isEmpty

def text? : Datum → Option Text
  | .text t => some t
  | _ => none

def ofText? : Option Text → Datum
  | none => .null
  | some t => .text t

end Datum

end SignIn
