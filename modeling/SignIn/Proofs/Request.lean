import SignIn.Cache.Expiring
import SignIn.Request

/-!
# The parameters of a request

A parameter is asked for by name, where a blank one counts as absent, or the parameters are read as
a record, where it does not. The names of the parameters are distinct, so leaving out the blank ones
changes nothing for those who ask by name.
-/

namespace SignIn

namespace Text

theorem present?_eq_filter (value : Option Text) :
    present? value = value.filter fun t => !t.isBlank := by
  cases value with
  | none => rfl
  | some t => cases h : t.isBlank <;> simp [present?, Option.filter, h]

theorem isPresent_eq (value : Option Text) :
    isPresent value = value.any fun t => !t.isBlank := by
  cases value with
  | none => rfl
  | some t => cases h : t.isBlank <;> simp [isPresent, present?, h]

end Text

/-- Whether a value counts as missing: a blank text, or what counts as false. -/
def Datum.isMissing : Datum → Bool
  | .text t => t.isBlank
  | d => !d.truthy

namespace Datum

theorem isMissing_ofText? (t : Option Text) : (ofText? t).isMissing = !Text.isPresent t := by
  rw [Text.isPresent_eq]
  cases t with
  | none => rfl
  | some t => exact (Bool.not_not t.isBlank).symm

/-- What counts as false is missing. -/
theorem isMissing_of_not_truthy {d : Datum} (h : d.truthy = false) : d.isMissing = true := by
  cases d with
  | text t =>
    have ht : t = [] := by simpa [truthy] using h
    rw [ht]
    rfl
  | _ => simp [isMissing, h]

theorem eq_text_of_text? {d : Datum} {t : Text} (h : d.text? = some t) : d = .text t := by
  cases d with
  | text u => rw [Option.some.inj h]
  | _ => cases h

/-- A value that counts as true and is no text is not missing. -/
theorem isMissing_of_text?_none {d : Datum} (htruthy : d.truthy = true) (h : d.text? = none) :
    d.isMissing = false := by
  cases d with
  | text t => cases h
  | _ => simp [isMissing, htruthy]

end Datum

namespace Request

variable {request : Request}

/-- The value of a parameter as it is given, blank or not. -/
def given? (request : Request) (name : Text) : Option Text := request.params.lookup name

theorem get_eq_present? (request : Request) (name : Text) :
    request.get name = Text.present? (request.given? name) := rfl

/-- A parameter that is asked for by name is not blank. -/
theorem isBlank_of_get {name t : Text} (h : request.get name = some t) : t.isBlank = false := by
  rw [get_eq_present?, Text.present?_eq_filter, Option.filter_eq_some_iff] at h
  simpa using h.2

/-- The names of the parameters are distinct, as in a dictionary. -/
def IsDictionary (request : Request) : Prop := (request.params.map Prod.fst).Nodup

theorem given?_withoutBlanks (hnames : request.IsDictionary) (name : Text) :
    request.withoutBlanks.given? name = request.get name := by
  rw [get_eq_present?, Text.present?_eq_filter]
  exact ExpiringCache.lookup_filter hnames (fun p => !p.2.isBlank) name

/-- A parameter that is asked for by name is the same without the blank ones. -/
theorem get_withoutBlanks (hnames : request.IsDictionary) (name : Text) :
    request.withoutBlanks.get name = request.get name := by
  rw [get_eq_present?, given?_withoutBlanks hnames, get_eq_present?]
  cases request.given? name with
  | none => rfl
  | some t => cases h : t.isBlank <;> simp [Text.present?, h]

theorem get?_record (request : Request) (name : Text) :
    request.record.get? name = (request.given? name).map .text := by
  rw [record, Record.get?, given?]
  induction request.params with
  | nil => rfl
  | cons p params ih =>
    rw [List.map_cons, List.lookup_cons, List.lookup_cons]
    cases name == p.1 with
    | true => rfl
    | false => exact ih

end Request

end SignIn
