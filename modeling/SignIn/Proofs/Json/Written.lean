import SignIn.Json.Reader
import SignIn.Json.Writer

/-!
# Reading back what was written

The reader undoes the writer. A string literal gives back its text whatever characters it holds, and
an object gives back its fields in order, in every dialect and whatever follows.
-/

namespace SignIn

namespace Json

/-! ## String literals -/

/-- The part of a string literal as which a code point is read: controls without an escape of one
letter come as numbers. -/
def pieceOf (c : CodePoint) : Piece :=
  if c.val = 8 ∨ c.val = 9 ∨ c.val = 10 ∨ c.val = 12 ∨ c.val = 13 then .plain c
  else if c.val < 0x20 then .escaped c.val
  else .plain c

/-- The four digits of a control character are read as its number. -/
def IsControlNumber (n : Nat) : List CodePoint → Prop
  | [a, b, c, d] => unit? a b c d = some n
  | _ => False

instance (n : Nat) (t : List CodePoint) : Decidable (IsControlNumber n t) := by
  unfold IsControlNumber
  split <;> infer_instance

theorem isControlNumber_hexadecimal :
    ∀ n < 0x20, IsControlNumber n (Text.hexadecimal 4 n) := by decide

theorem pieces_cons_plain {c : CodePoint} (hdouble : c ≠ Quoted.double)
    (hcontrol : ¬ c.val < 0x20) (hbackslash : c ≠ Quoted.backslash) (t : Text) :
    pieces (c :: t) = (pieces t).map fun p => (.plain c :: p.1, p.2) := by
  rw [pieces.eq_def]
  simp only [if_neg hdouble, if_neg hcontrol, if_pos hbackslash]

theorem pieces_letter {e d : CodePoint} (h : letterEscape? e = some d) (t : Text) :
    pieces (Quoted.backslash :: e :: t) = (pieces t).map fun p => (.plain d :: p.1, p.2) := by
  rw [pieces.eq_def]
  simp only [if_neg (by decide : Quoted.backslash ≠ Quoted.double),
    if_neg (by decide : ¬ Quoted.backslash.val < 0x20), ne_eq, not_true_eq_false, if_false, h]

theorem pieces_number {h1 h2 h3 h4 : CodePoint} {n : Nat} (h : unit? h1 h2 h3 h4 = some n)
    (t : Text) :
    pieces (Quoted.backslash :: CodePoint.ofChar 'u' :: h1 :: h2 :: h3 :: h4 :: t) =
      (pieces t).map fun p => (.escaped n :: p.1, p.2) := by
  have hletter : letterEscape? (CodePoint.ofChar 'u') = none := by decide
  rw [pieces.eq_def]
  simp only [if_neg (by decide : Quoted.backslash ≠ Quoted.double),
    if_neg (by decide : ¬ Quoted.backslash.val < 0x20), ne_eq, not_true_eq_false, if_false,
    hletter, h]

/-- The number of a letter is read as the code point for which the letter stands. -/
theorem eq_of_val {c : CodePoint} {n : Nat} (h : c.val = n) (hn : n < 0x110000) : c = ⟨n, hn⟩ := by
  cases c
  simp_all

theorem pieces_escape_append (c : CodePoint) (t : Text) :
    pieces (escape c ++ t) = (pieces t).map fun p => (pieceOf c :: p.1, p.2) := by
  unfold escape
  split
  · rename_i h
    have hpiece : pieceOf c = .plain c := by rcases h with rfl | rfl <;> rfl
    have hletter : letterEscape? c = some c := by rcases h with rfl | rfl <;> rfl
    rw [hpiece]
    exact pieces_letter hletter t
  rename_i hquote
  obtain ⟨hdouble, hbackslash⟩ := not_or.1 hquote
  split
  · rename_i h
    obtain rfl := eq_of_val h (by decide)
    exact pieces_letter rfl t
  split
  · rename_i h
    obtain rfl := eq_of_val h (by decide)
    exact pieces_letter rfl t
  split
  · rename_i h
    obtain rfl := eq_of_val h (by decide)
    exact pieces_letter rfl t
  split
  · rename_i h
    obtain rfl := eq_of_val h (by decide)
    exact pieces_letter rfl t
  split
  · rename_i h
    obtain rfl := eq_of_val h (by decide)
    exact pieces_letter rfl t
  rename_i h8 h9 h10 h12 h13
  have hpiece : pieceOf c = if c.val < 0x20 then .escaped c.val else .plain c := by
    rw [pieceOf, if_neg (by simp [h8, h9, h10, h12, h13])]
  rw [hpiece]
  split
  · rename_i h
    have hnumber := isControlNumber_hexadecimal c.val h
    generalize Text.hexadecimal 4 c.val = digits at hnumber
    match digits, hnumber with
    | [h1, h2, h3, h4], hnumber => exact pieces_number hnumber t
  · rename_i h
    exact pieces_cons_plain hdouble h hbackslash t

theorem pieces_flatMap_escape (t rest : Text) :
    pieces (t.flatMap escape ++ Quoted.double :: rest) = some (t.map pieceOf, rest) := by
  induction t with
  | nil =>
    rw [List.flatMap_nil, List.nil_append, pieces.eq_def]
    rfl
  | cons c t ih =>
    rw [List.flatMap_cons, List.append_assoc, pieces_escape_append, ih]
    rfl

/-- A control character is no surrogate, so that its number stands alone. -/
theorem assemble?_escaped {lone : Bool} {n : Nat} (hn : n < 0x20) (ps : List Piece) :
    assemble? lone (.escaped n :: ps) =
      (CodePoint.ofNat? n).bind fun c => (assemble? lone ps).map (c :: ·) := by
  have hhigh : Wide.isHigh n = false := by simp [Wide.isHigh]; omega
  have hlow : Wide.isLow n = false := by simp [Wide.isLow]; omega
  rw [assemble?.eq_def]
  simp only [hhigh, hlow, Bool.or_self, Bool.false_and, Bool.false_eq_true, if_false]
  split <;> rfl

theorem assemble?_pieceOf (lone : Bool) (c : CodePoint) (ps : List Piece) :
    assemble? lone (pieceOf c :: ps) = (assemble? lone ps).map (c :: ·) := by
  unfold pieceOf
  split
  · rfl
  split
  · rename_i h
    rw [assemble?_escaped h, CodePoint.ofNat?, dif_pos c.val_lt]
    rfl
  · rfl

theorem assemble?_map_pieceOf (lone : Bool) (t : Text) :
    assemble? lone (t.map pieceOf) = some t := by
  induction t with
  | nil => rfl
  | cons c t ih => rw [List.map_cons, assemble?_pieceOf, ih]; rfl

/-- The text of a literal is read back. -/
theorem readString_flatMap_escape (dialect : Dialect) (t rest : Text) :
    readString dialect (t.flatMap escape ++ Quoted.double :: rest) = some (t, rest) := by
  simp only [readString, pieces_flatMap_escape, assemble?_map_pieceOf, Option.bind_eq_bind,
    Option.bind_some, Option.pure_def]

/-! ## Values and records -/

/-- A text is a written form of a value: whatever follows it, the value is read from it. -/
def Writes (t : Text) (d : Datum) : Prop :=
  ∀ (dialect : Dialect) (depth fuel : Nat) (rest : Text),
    readValue dialect depth (fuel + 1) (t ++ rest) = some (d, rest)

theorem skip_cons {c : CodePoint} (h : isSpace c = false) (t : Text) : skip (c :: t) = c :: t := by
  rw [skip, List.dropWhile_cons, h]
  rfl

theorem writes_literal (t : Text) : Writes (literal t) (.text t) := by
  intro dialect depth fuel rest
  have hlit : literal t ++ rest = Quoted.double :: (t.flatMap escape ++ Quoted.double :: rest) := by
    simp [literal]
  rw [hlit, readValue, skip_cons (by decide)]
  simp only [if_true, readString_flatMap_escape, Option.map_some]

theorem writes_null : Writes "null" .null := fun _ _ _ _ => rfl

theorem writes_literalOrNull (t : Option Text) :
    Writes (literalOrNull t) (Datum.ofText? t) := by
  cases t with
  | none => exact writes_null
  | some t => exact writes_literal t

/-- A field of a record as it is written. -/
def writtenField (f : Text × Text) : Text := literal f.1 ++ (":" : Text) ++ f.2

def closingBrace : CodePoint := ⟨125, by decide⟩

def openingBrace : CodePoint := ⟨123, by decide⟩

/-- One field is read; what follows it decides how to go on. -/
theorem readFields_field {name value : Text} {d : Datum} (hvalue : Writes value d)
    (dialect : Dialect) (depth fuel : Nat) (rest : Text) :
    readFields dialect depth (fuel + 2) (writtenField (name, value) ++ rest) =
      match skip rest with
      | c :: u =>
        if c.val = 125 then some ([(name, d)], u)
        else if c = CodePoint.ofChar ',' then
          (readFields dialect depth (fuel + 1) u).map fun p => ((name, d) :: p.1, p.2)
        else none
      | [] => none := by
  have hfield : writtenField (name, value) ++ rest =
      Quoted.double :: (name.flatMap escape ++ Quoted.double ::
        CodePoint.ofChar ':' :: (value ++ rest)) := by
    simp [writtenField, literal, Text.ofString]
  rw [hfield, readFields, skip_cons (by decide)]
  simp only [ne_eq, not_true_eq_false, if_false, readString_flatMap_escape]
  rw [skip_cons (by decide)]
  cases hskip : skip rest with
  | nil => simp only [hvalue dialect depth fuel rest, not_true_eq_false, if_false, hskip]
  | cons c u => simp only [hvalue dialect depth fuel rest, not_true_eq_false, if_false, hskip]

/-- The fields of a record are read back in order. -/
theorem readFields_joinWith (dialect : Dialect) (depth : Nat)
    {fields : List (Text × Text × Datum)} (hne : fields ≠ [])
    (hfields : ∀ f ∈ fields, Writes f.2.1 f.2.2) (fuel : Nat) (hfuel : fields.length < fuel)
    (rest : Text) :
    readFields dialect depth fuel
        (Text.joinWith "," (fields.map fun f => writtenField (f.1, f.2.1)) ++ closingBrace :: rest) =
      some (fields.map fun f => (f.1, f.2.2), rest) := by
  induction fields generalizing fuel with
  | nil => exact absurd rfl hne
  | cons f fields ih =>
    obtain ⟨fuel, rfl⟩ : ∃ k, fuel = k + 2 := ⟨fuel - 2, by simp at hfuel; omega⟩
    have hf := hfields f List.mem_cons_self
    cases fields with
    | nil =>
      rw [List.map_cons, List.map_nil, Text.joinWith, readFields_field hf, skip_cons (by decide)]
      rfl
    | cons g fields =>
      have hrest := ih (List.cons_ne_nil g fields)
        (fun h hmem => hfields h (List.mem_cons_of_mem f hmem)) (fuel + 1)
        (by simp at hfuel ⊢; omega)
      have hcomma (t : Text) : skip (Text.ofString "," ++ t) = CodePoint.ofChar ',' :: t :=
        skip_cons (by decide) t
      rw [List.map_cons] at hrest ⊢
      rw [List.map_cons, Text.joinWith_cons "," _ (List.cons_ne_nil _ _), List.append_assoc,
        List.append_assoc, readFields_field hf, hcomma]
      simp only [hrest]
      rfl

theorem length_le_joinWith {ts : List Text} (h : ∀ t ∈ ts, t ≠ []) :
    ts.length ≤ (Text.joinWith "," ts).length := by
  induction ts with
  | nil => exact Nat.zero_le _
  | cons t ts ih =>
    have ht : 0 < t.length := List.length_pos_iff.2 (h t List.mem_cons_self)
    have hts := ih fun u hu => h u (List.mem_cons_of_mem t hu)
    cases ts with
    | nil => exact ht
    | cons u ts =>
      simp only [Text.joinWith, List.length_append, List.length_cons] at hts ⊢
      omega

/-- A record with a field is read when its fields are. -/
theorem readValue_of_readFields {dialect : Dialect} {depth fuel : Nat} {inner rest : Text}
    {fields : List (Text × Datum)} (hdepth : dialect.admits depth = true)
    (hfields : readFields dialect (depth + 1) fuel (Quoted.double :: inner) = some (fields, rest)) :
    readValue dialect depth (fuel + 1) (openingBrace :: Quoted.double :: inner) =
      some (.record (Record.ofFields fields), rest) := by
  rw [readValue, skip_cons (by decide)]
  simp only [if_neg (by decide : openingBrace ≠ Quoted.double),
    if_neg (by decide : openingBrace ≠ CodePoint.ofChar '[')]
  rw [if_pos (by decide : openingBrace.val = 123), skip_cons (by decide)]
  simp only [if_neg (by decide : ¬ Quoted.double.val = 125), hdepth, if_true, hfields,
    Option.map_some]

/-- A record of written values is read back with all its fields. -/
theorem read?_object {dialect : Dialect} (hdepth : dialect.admits 0 = true)
    (fields : List (Text × Text × Datum)) (hne : fields ≠ [])
    (hfields : ∀ f ∈ fields, Writes f.2.1 f.2.2) :
    read? dialect (object (fields.map fun f => (f.1, f.2.1))) =
      some (.record (Record.ofFields (fields.map fun f => (f.1, f.2.2)))) := by
  let written := fields.map fun f => writtenField (f.1, f.2.1)
  let body := Text.joinWith "," written
  have hobject : object (fields.map fun f => (f.1, f.2.1)) =
      openingBrace :: (body ++ [closingBrace]) := by
    simp only [object, List.map_map]
    rfl
  have hwritten : ∀ t ∈ written, t ≠ [] := by
    intro t ht
    obtain ⟨f, _, rfl⟩ := List.mem_map.1 ht
    exact List.cons_ne_nil _ _
  have hlength : fields.length ≤ body.length := by
    have := length_le_joinWith hwritten
    rwa [List.length_map] at this
  obtain ⟨inner, hinner⟩ : ∃ inner, body ++ [closingBrace] = Quoted.double :: inner := by
    cases fields with
    | nil => exact absurd rfl hne
    | cons f fields =>
      cases fields with
      | nil => exact ⟨_, rfl⟩
      | cons g fields => exact ⟨_, rfl⟩
  have hread := readFields_joinWith dialect 1 hne hfields
    (2 * (openingBrace :: (body ++ [closingBrace])).length + 1)
    (by simp only [List.length_cons, List.length_append]; omega) []
  have hvalue := readValue_of_readFields hdepth (hinner ▸ hread)
  rw [← hinner] at hvalue
  rw [hobject, read?, hvalue]
  rfl

end Json

end SignIn
