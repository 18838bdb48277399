import SignIn.Codec.Form
import SignIn.Proofs.Text.Utf8

/-!
# Reading back encoded fields

Percent encoding and the encoding of form bodies are undone by their decoders, and neither leaves a
sign in a name or a value that divides fields. So a query string and a form body give back exactly
the fields they were written from, in order.
-/

namespace SignIn

namespace Text

/-! ## Cutting texts -/

theorem cutAt?_append {c : CodePoint} {before : Text} (h : c ∉ before) (after : Text) :
    cutAt? c (before ++ c :: after) = some (before, after) := by
  induction before with
  | nil => simp [cutAt?]
  | cons d before ih =>
    have hd : d ≠ c := fun hdc => h (by simp [hdc])
    have hbefore : c ∉ before := fun hc => h (List.mem_cons_of_mem d hc)
    simp [cutAt?, hd, ih hbefore]

theorem pieces_of_notMem {c : CodePoint} {t : Text} (h : c ∉ t) : pieces c t = [t] := by
  induction t with
  | nil => rfl
  | cons d t ih =>
    have hd : d ≠ c := fun hdc => h (by simp [hdc])
    have ht : c ∉ t := fun hc => h (List.mem_cons_of_mem d hc)
    simp [pieces, hd, ih ht]

theorem pieces_append {c : CodePoint} {t : Text} (h : c ∉ t) (rest : Text) :
    pieces c (t ++ c :: rest) = t :: pieces c rest := by
  induction t with
  | nil => simp [pieces]
  | cons d t ih =>
    have hd : d ≠ c := fun hdc => h (by simp [hdc])
    have ht : c ∉ t := fun hc => h (List.mem_cons_of_mem d hc)
    simp [pieces, hd, ih ht]

/-- Joining pieces by a sign that none of them holds is undone by cutting at that sign. -/
theorem pieces_joinWith {c : CodePoint} {parts : List Text} (hparts : parts ≠ [])
    (h : ∀ p ∈ parts, c ∉ p) : pieces c (joinWith [c] parts) = parts := by
  induction parts with
  | nil => exact absurd rfl hparts
  | cons p rest ih =>
    have hp : c ∉ p := h p List.mem_cons_self
    cases rest with
    | nil => exact pieces_of_notMem hp
    | cons q rest =>
      have hrest := ih (List.cons_ne_nil q rest) fun r hr => h r (List.mem_cons_of_mem p hr)
      rw [joinWith_cons [c] p (List.cons_ne_nil q rest), List.append_assoc,
        List.singleton_append, pieces_append hp, hrest]

end Text

namespace Percent

/-! ## Percent encoding -/

theorem hexValue?_hexDigit (n : Nat) : (hexDigit n).hexValue? = some (n % 16) := by
  have hn : n % 16 < 16 := Nat.mod_lt _ (by decide)
  unfold CodePoint.hexValue? CodePoint.isAsciiDigit
  by_cases h : n % 16 < 10
  · have hval : (hexDigit n).val = 0x30 + n % 16 := by simp [hexDigit, hexDigitNumber, h]
    rw [if_pos (by simp [hval]; omega), hval]
    congr 1
    omega
  · have hval : (hexDigit n).val = 0x41 + (n % 16 - 10) := by simp [hexDigit, hexDigitNumber, h]
    rw [if_neg (by simp [hval]; omega), if_pos (by rw [hval]; omega), hval]
    congr 1
    omega

theorem isUnreserved_hexDigit (n : Nat) : (hexDigit n).isUnreserved = true := by
  have hn : n % 16 < 16 := Nat.mod_lt _ (by decide)
  have hval : (hexDigit n).val = if n % 16 < 10 then 0x30 + n % 16 else 0x41 + (n % 16 - 10) := rfl
  simp only [CodePoint.isUnreserved, CodePoint.isAsciiAlphanumeric, CodePoint.isAsciiDigit,
    CodePoint.isAsciiUpper, CodePoint.isAsciiLower, hval, Bool.or_eq_true, Bool.and_eq_true,
    decide_eq_true_eq]
  split <;> omega

/-- The number of an octet is put together from its two hexadecimal digits. -/
theorem octet_of_digits (b : UInt8) :
    UInt8.ofNat (16 * (b.toNat / 16 % 16) + b.toNat % 16) = b := by
  have hb : b.toNat < 256 := b.toNat_lt
  rw [show 16 * (b.toNat / 16 % 16) + b.toNat % 16 = b.toNat by omega]
  exact UInt8.ofNat_toNat

theorem decodeOctets?_escape_append (b : UInt8) (rest : Text) :
    decodeOctets? (escape b ++ rest) = (decodeOctets? rest).map (b :: ·) := by
  rw [escape, List.cons_append, List.cons_append, List.cons_append, List.nil_append,
    decodeOctets?, if_pos rfl]
  simp only [hexValue?_hexDigit, octet_of_digits]

theorem decodeOctets?_cons_of_isAscii {c : CodePoint} (hsign : c ≠ sign) (hascii : c.isAscii = true)
    (t : Text) : decodeOctets? (c :: t) = (decodeOctets? t).map (UInt8.ofNat c.val :: ·) := by
  rw [decodeOctets?.eq_def]
  simp only [if_neg hsign, if_pos hascii]

theorem decodeOctets?_octet_append {safe : CodePoint → Bool} (hsafe : safe sign = false)
    (b : UInt8) (rest : Text) :
    decodeOctets? (octet safe b ++ rest) = (decodeOctets? rest).map (b :: ·) := by
  unfold octet
  dsimp only
  split
  · rename_i h
    obtain ⟨hascii, hb⟩ := Bool.and_eq_true_iff.1 h
    have hsign : CodePoint.ofByte b ≠ sign := by
      intro hc
      rw [hc, hsafe] at hb
      cases hb
    have hvalue : UInt8.ofNat (CodePoint.ofByte b).val = b := UInt8.ofNat_toNat
    rw [List.singleton_append, decodeOctets?_cons_of_isAscii hsign hascii, hvalue]
  · exact decodeOctets?_escape_append b rest

/-- Octets are read back from their encoding. -/
theorem decodeOctets?_encodeOctets {safe : CodePoint → Bool} (hsafe : safe sign = false)
    (octets : Octets) : decodeOctets? (encodeOctets safe octets) = some octets := by
  induction octets with
  | nil => rfl
  | cons b octets ih =>
    rw [encodeOctets] at ih ⊢
    rw [List.flatMap_cons, decodeOctets?_octet_append hsafe, ih]
    rfl

/-- A text is read back from its percent encoding. -/
theorem decode?_of_encode? {t u : Text} (h : encode? t = some u) : decode? u = some t := by
  obtain ⟨octets, hoctets, rfl⟩ := Option.map_eq_some_iff.1 h
  rw [decode?, decodeOctets?_encodeOctets rfl, Option.bind_some]
  exact Utf8.decode?_of_encode? hoctets

/-- What stands in an encoded text: unreserved characters and percent signs. -/
theorem mem_octet {b : UInt8} {c : CodePoint} (h : c ∈ octet CodePoint.isUnreserved b) :
    c.isUnreserved = true ∨ c = sign := by
  unfold octet at h
  dsimp only at h
  split at h
  · rename_i hsafe
    rw [List.mem_singleton] at h
    exact .inl (h ▸ (Bool.and_eq_true_iff.1 hsafe).2)
  · simp only [escape, List.mem_cons, List.not_mem_nil, or_false] at h
    rcases h with h | h | h
    · exact .inr h
    · exact .inl (h ▸ isUnreserved_hexDigit _)
    · exact .inl (h ▸ isUnreserved_hexDigit _)

theorem mem_of_encode? {t u : Text} (h : encode? t = some u) {c : CodePoint} (hc : c ∈ u) :
    c.isUnreserved = true ∨ c = sign := by
  obtain ⟨octets, _, rfl⟩ := Option.map_eq_some_iff.1 h
  obtain ⟨b, _, hb⟩ := List.mem_flatMap.1 hc
  exact mem_octet hb

/-- A sign that is neither unreserved nor the percent sign does not come up in an encoded text. -/
theorem notMem_of_encode? {t u : Text} (h : encode? t = some u) {c : CodePoint}
    (hunreserved : c.isUnreserved = false) (hsign : c ≠ sign) : c ∉ u := fun hc =>
  (mem_of_encode? h hc).elim (by simp [hunreserved]) hsign

end Percent

namespace Form

/-! ## Names and values of form bodies -/

theorem plusToSpace_append (t u : Text) : plusToSpace (t ++ u) = plusToSpace t ++ plusToSpace u :=
  List.map_append

/-- Only a space becomes a plus sign, so plus signs may be read as spaces. -/
theorem plusToSpace_octet {b : UInt8} (hb : b ≠ 0x20) : plusToSpace (octet b) = octet b := by
  have hplus (c : CodePoint) (hc : c ∈ octet b) : c ≠ CodePoint.ofChar '+' := by
    rw [octet, if_neg hb] at hc
    rintro rfl
    exact (Percent.mem_octet hc).elim (by decide) (by decide)
  rw [plusToSpace]
  exact List.map_congr_left (fun c hc => if_neg (hplus c hc)) |>.trans (List.map_id _)

theorem decodeOctets?_plusToSpace_octet_append (b : UInt8) (rest : Text) :
    Percent.decodeOctets? (plusToSpace (octet b) ++ rest) =
      (Percent.decodeOctets? rest).map (b :: ·) := by
  by_cases hb : b = 0x20
  · subst hb
    exact Percent.decodeOctets?_cons_of_isAscii (c := CodePoint.ofChar ' ') (by decide) rfl rest
  · rw [plusToSpace_octet hb, octet, if_neg hb]
    exact Percent.decodeOctets?_octet_append rfl b rest

theorem decodeOctets?_plusToSpace (octets : Octets) :
    Percent.decodeOctets? (plusToSpace (octets.flatMap octet)) = some octets := by
  induction octets with
  | nil => rfl
  | cons b octets ih =>
    rw [List.flatMap_cons, plusToSpace_append, decodeOctets?_plusToSpace_octet_append, ih]
    rfl

/-- A name or a value is read back from its form encoding. -/
theorem decode?_of_encodeText? {t u : Text} (h : encodeText? t = some u) :
    Percent.decode? (plusToSpace u) = some t := by
  obtain ⟨octets, hoctets, rfl⟩ := Option.map_eq_some_iff.1 h
  rw [Percent.decode?, decodeOctets?_plusToSpace, Option.bind_some]
  exact Utf8.decode?_of_encode? hoctets

theorem notMem_of_encodeText? {t u : Text} (h : encodeText? t = some u) {c : CodePoint}
    (hunreserved : c.isUnreserved = false) (hsign : c ≠ Percent.sign)
    (hplus : c ≠ CodePoint.ofChar '+') : c ∉ u := by
  obtain ⟨octets, _, rfl⟩ := Option.map_eq_some_iff.1 h
  intro hc
  obtain ⟨b, _, hb⟩ := List.mem_flatMap.1 hc
  by_cases hspace : b = 0x20
  · rw [octet, if_pos hspace, List.mem_singleton] at hb
    exact hplus hb
  · rw [octet, if_neg hspace] at hb
    exact (Percent.mem_octet hb).elim (by simp [hunreserved]) hsign

/-! ## Fields -/

/-- The sign between fields. -/
def fieldSign : CodePoint := CodePoint.ofChar '&'

/-- The sign between the name and the value of a field. -/
def valueSign : CodePoint := CodePoint.ofChar '='

/-- An encoding that can be undone and uses neither of the signs that divide fields. -/
structure Reversible (encode? decode? : Text → Option Text) : Prop where
  decode?_of_encode? : ∀ {t u : Text}, encode? t = some u → decode? u = some t
  fieldSign_notMem : ∀ {t u : Text}, encode? t = some u → fieldSign ∉ u
  valueSign_notMem : ∀ {t u : Text}, encode? t = some u → valueSign ∉ u

theorem reversible_percent : Reversible Percent.encode? Percent.decode? where
  decode?_of_encode? := Percent.decode?_of_encode?
  fieldSign_notMem h := Percent.notMem_of_encode? h (by decide) (by decide)
  valueSign_notMem h := Percent.notMem_of_encode? h (by decide) (by decide)

theorem reversible_encodeText? :
    Reversible encodeText? (fun part => Percent.decode? (plusToSpace part)) where
  decode?_of_encode? := decode?_of_encodeText?
  fieldSign_notMem h := notMem_of_encodeText? h (by decide) (by decide) (by decide)
  valueSign_notMem h := notMem_of_encodeText? h (by decide) (by decide) (by decide)

variable {encode? decode? : Text → Option Text}

theorem field?_eq_some_iff {f : Text × Text} {piece : Text} :
    field? encode? f = some piece ↔ ∃ name value, encode? f.1 = some name ∧
      encode? f.2 = some value ∧ piece = name ++ valueSign :: value := by
  unfold field?
  cases hname : encode? f.1 with
  | none => simp
  | some name =>
    cases hvalue : encode? f.2 with
    | none => simp
    | some value =>
      simp only [Option.bind_eq_bind, Option.bind_some, Option.pure_def, Option.some.injEq]
      constructor
      · intro h
        exact ⟨name, value, rfl, rfl, h.symm⟩
      · rintro ⟨_, _, rfl, rfl, rfl⟩
        rfl

/-- What a piece of a text between two dividing signs stands for. -/
def readField? (decode? : Text → Option Text) (piece : Text) : Option (Text × Text) := do
  let (name, value) ← Text.cutAt? valueSign piece
  let name ← decode? name
  let value ← decode? value
  return (name, value)

theorem readField?_of_field? (hcode : Reversible encode? decode?) {f : Text × Text} {piece : Text}
    (h : field? encode? f = some piece) : readField? decode? piece = some f := by
  obtain ⟨name, value, hname, hvalue, rfl⟩ := field?_eq_some_iff.1 h
  have hcut : Text.cutAt? valueSign (name ++ valueSign :: value) = some (name, value) :=
    Text.cutAt?_append (hcode.valueSign_notMem hname) value
  simp only [readField?, hcut, hcode.decode?_of_encode? hname, hcode.decode?_of_encode? hvalue,
    Option.bind_eq_bind, Option.bind_some, Option.pure_def]

theorem fieldSign_notMem_of_field? (hcode : Reversible encode? decode?) {f : Text × Text}
    {piece : Text} (h : field? encode? f = some piece) : fieldSign ∉ piece := by
  obtain ⟨name, value, hname, hvalue, rfl⟩ := field?_eq_some_iff.1 h
  intro hmem
  rcases List.mem_append.1 hmem with hmem | hmem
  · exact hcode.fieldSign_notMem hname hmem
  · rcases List.mem_cons.1 hmem with hmem | hmem
    · exact absurd hmem (by decide)
    · exact hcode.fieldSign_notMem hvalue hmem

theorem mapM_readField? (hcode : Reversible encode? decode?) {fields : Fields}
    {pieces : List Text} (h : fields.mapM (field? encode?) = some pieces) :
    pieces.mapM (readField? decode?) = some fields ∧ ∀ p ∈ pieces, fieldSign ∉ p := by
  induction fields generalizing pieces with
  | nil =>
    cases h
    exact ⟨rfl, by simp⟩
  | cons f fields ih =>
    simp only [List.mapM_cons, Option.bind_eq_bind, Option.bind_eq_some_iff, Option.pure_def,
      Option.some.injEq] at h
    obtain ⟨piece, hpiece, rest, hrest, rfl⟩ := h
    obtain ⟨hread, hnotMem⟩ := ih hrest
    refine ⟨?_, ?_⟩
    · simp only [List.mapM_cons, readField?_of_field? hcode hpiece, hread, Option.bind_eq_bind,
        Option.bind_some, Option.pure_def]
    · intro p hp
      rcases List.mem_cons.1 hp with rfl | hp
      · exact fieldSign_notMem_of_field? hcode hpiece
      · exact hnotMem p hp

/-- Fields are read back from the text they are joined to. -/
theorem split?_of_join? (hcode : Reversible encode? decode?) {fields : Fields} {t : Text}
    (h : join? encode? fields = some t) : split? decode? t = some fields := by
  obtain ⟨pieces, hpieces, rfl⟩ := Option.map_eq_some_iff.1 h
  obtain ⟨hread, hnotMem⟩ := mapM_readField? hcode hpieces
  cases fields with
  | nil =>
    cases hpieces
    rfl
  | cons f fields =>
    simp only [List.mapM_cons, Option.bind_eq_bind, Option.bind_eq_some_iff, Option.pure_def,
      Option.some.injEq] at hpieces
    obtain ⟨piece, hpiece, rest, _, rfl⟩ := hpieces
    have hne : Text.joinWith "&" (piece :: rest) ≠ [] := by
      obtain ⟨name, value, _, _, rfl⟩ := field?_eq_some_iff.1 hpiece
      cases rest <;> simp [Text.joinWith]
    have hcut : Text.pieces fieldSign (Text.joinWith [fieldSign] (piece :: rest)) = piece :: rest :=
      Text.pieces_joinWith (List.cons_ne_nil piece rest) hnotMem
    rw [split?, if_neg hne]
    exact (congrArg (List.mapM (readField? decode?)) hcut).trans hread

/-- Every field becomes a piece if and only if all parts can be encoded. -/
theorem exists_mapM_field?_iff {fields : Fields} :
    (∃ pieces, fields.mapM (field? encode?) = some pieces) ↔
      ∀ f ∈ fields, (∃ name, encode? f.1 = some name) ∧ ∃ value, encode? f.2 = some value := by
  induction fields with
  | nil => exact ⟨by simp, fun _ => ⟨[], rfl⟩⟩
  | cons f fields ih =>
    rw [List.forall_mem_cons, ← ih]
    simp only [List.mapM_cons, Option.bind_eq_bind, Option.bind_eq_some_iff, Option.pure_def,
      Option.some.injEq]
    constructor
    · rintro ⟨_, piece, hpiece, rest, hrest, -⟩
      obtain ⟨name, value, hname, hvalue, -⟩ := field?_eq_some_iff.1 hpiece
      exact ⟨⟨⟨name, hname⟩, value, hvalue⟩, rest, hrest⟩
    · rintro ⟨⟨⟨name, hname⟩, value, hvalue⟩, rest, hrest⟩
      exact ⟨_, _, field?_eq_some_iff.2 ⟨name, value, hname, hvalue, rfl⟩, rest, hrest, rfl⟩

/-- Fields can be joined if and only if their parts can be encoded. -/
theorem exists_join?_iff {fields : Fields} :
    (∃ t, join? encode? fields = some t) ↔
      ∀ f ∈ fields, (∃ name, encode? f.1 = some name) ∧ ∃ value, encode? f.2 = some value := by
  rw [← exists_mapM_field?_iff]
  simp only [join?, Option.map_eq_some_iff]
  constructor
  · rintro ⟨_, pieces, hpieces, -⟩
    exact ⟨pieces, hpieces⟩
  · rintro ⟨pieces, hpieces⟩
    exact ⟨_, pieces, hpieces, rfl⟩

/-- Fields can be written as a form body if and only if their texts have a UTF-8 form. -/
theorem exists_encode?_iff {fields : Fields} :
    (∃ t, Form.encode? fields = some t) ↔
      ∀ f ∈ fields, Utf8.encodable f.1 = true ∧ Utf8.encodable f.2 = true := by
  have hencode (t : Text) : (∃ u, encodeText? t = some u) ↔ Utf8.encodable t = true := by
    rw [encodeText?, ← Option.isSome_iff_exists, Option.isSome_map, Utf8.isSome_encode?]
  simp only [Form.encode?, exists_join?_iff, hencode]

/-- Fields can be written as a query string if and only if their texts have a UTF-8 form. -/
theorem exists_query?_iff {fields : Fields} :
    (∃ t, query? fields = some t) ↔
      ∀ f ∈ fields, Utf8.encodable f.1 = true ∧ Utf8.encodable f.2 = true := by
  have hencode (t : Text) : (∃ u, Percent.encode? t = some u) ↔ Utf8.encodable t = true := by
    rw [Percent.encode?, ← Option.isSome_iff_exists, Option.isSome_map, Utf8.isSome_encode?]
  simp only [query?, exists_join?_iff, hencode]

/-- Every piece is that of a field. -/
theorem exists_field?_of_mem {fields : Fields} {pieces : List Text}
    (h : fields.mapM (field? encode?) = some pieces) :
    ∀ p ∈ pieces, ∃ f, field? encode? f = some p := by
  induction fields generalizing pieces with
  | nil =>
    cases h
    simp
  | cons f fields ih =>
    simp only [List.mapM_cons, Option.bind_eq_bind, Option.bind_eq_some_iff, Option.pure_def,
      Option.some.injEq] at h
    obtain ⟨piece, hpiece, rest, hrest, rfl⟩ := h
    exact List.forall_mem_cons.2 ⟨⟨f, hpiece⟩, ih hrest⟩

/-- What stands in a query string: unreserved characters, percent signs, and the signs that divide
fields. -/
theorem mem_of_query? {fields : Fields} {t : Text} (h : query? fields = some t) {c : CodePoint}
    (hc : c ∈ t) :
    c.isUnreserved = true ∨ c = Percent.sign ∨ c = fieldSign ∨ c = valueSign := by
  obtain ⟨pieces, hpieces, rfl⟩ := Option.map_eq_some_iff.1 h
  rcases Text.mem_joinWith hc with hc | ⟨piece, hpiece, hc⟩
  · exact .inr (.inr (.inl (List.mem_singleton.1 hc)))
  · obtain ⟨f, hf⟩ := exists_field?_of_mem hpieces piece hpiece
    obtain ⟨name, value, hname, hvalue, rfl⟩ := field?_eq_some_iff.1 hf
    rw [List.mem_append, List.mem_cons] at hc
    rcases hc with hc | hc | hc
    · exact (Percent.mem_of_encode? hname hc).imp_right .inl
    · exact .inr (.inr (.inr hc))
    · exact (Percent.mem_of_encode? hvalue hc).imp_right .inl

/-- A query string gives back the fields it was written from. -/
theorem decodeQuery?_of_query? {fields : Fields} {t : Text} (h : query? fields = some t) :
    decodeQuery? t = some fields :=
  split?_of_join? reversible_percent h

/-- A form body gives back the fields it was written from. -/
theorem decode?_of_encode? {fields : Fields} {t : Text} (h : Form.encode? fields = some t) :
    Form.decode? t = some fields :=
  split?_of_join? reversible_encodeText? h

end Form

end SignIn
