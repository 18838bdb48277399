import SignIn.Error

/-!
# Pairs in dynamic values

A record may also be given as a list of pairs. A list has its items, a text its characters and a
record the names of its fields; a pair is a value with two of them. A name may be any value but a
list or a record. Main statement: a record is given by the list of its fields.
-/

namespace SignIn

namespace Datum

/-- What a value consists of. -/
def items : Datum → Except Fault (List Datum)
  | .list items => .ok items
  | .text t => .ok (t.map fun c => .text [c])
  | .record fields => .ok (fields.map fun f => .text f.1)
  | _ => .error .wrongType

def pair (d : Datum) : Except Fault (Datum × Datum) := do
  match ← d.items with
  | [first, second] => return (first, second)
  | _ => throw .badValue

def field : Datum × Datum → Except Fault (Text × Datum)
  | (.list _, _) => .error .wrongType
  | (.record _, _) => .error .wrongType
  | (name, value) => .ok (name.display, value)

/-- The record that a value gives, by itself or by its pairs. -/
def asRecord : Datum → Except Fault Record
  | .record fields => .ok fields
  | d => do return Record.ofFields (← (← d.items).mapM fun item => do field (← item.pair))

@[simp] theorem field_text (name : Text) (value : Datum) :
    field (.text name, value) = .ok (name, value) := rfl

@[simp] theorem pair_list (first second : Datum) :
    pair (.list [first, second]) = .ok (first, second) := rfl

theorem asRecord_list (fields : Record) :
    asRecord (.list (fields.map fun f => .list [.text f.1, f.2])) =
      .ok (Record.ofFields fields) := by
  have h : (fields.map fun f => Datum.list [.text f.1, f.2]).mapM
      (fun item => do field (← item.pair)) = Except.ok fields := by
    induction fields with
    | nil => rfl
    | cons f rest ih =>
      rw [List.map_cons, List.mapM_cons, ih]
      rfl
  simp only [asRecord, items, bind, Except.bind, pure, Except.pure] at h ⊢
  rw [h]

end Datum

end SignIn
