import Mathlib.Tactic.IntervalCases
import SignIn.Bcrypt.Hash
import SignIn.Proofs.Codec.Fields
import SignIn.Proofs.Codec.Symbols

/-!
# Hash texts

The text of a setting is read back, whatever symbols follow it. A hash text begins with the text of
the setting that it was made under, so hashing the same password under the hash text itself gives
that text again, which is what a check compares. What is read is always a setting of this kind, in
whatever spelling it is given.
-/

namespace SignIn

namespace Bcrypt

/-- A setting under which passwords can be hashed: the salt has sixteen octets, and the cost is one
of those that a hash text may name. -/
structure Setting.IsProper (s : Setting) : Prop where
  length_salt : s.salt.length = 16
  cost_ge : 4 ≤ s.cost
  cost_le : s.cost ≤ 31

/-- The cost in a hash text, which has two digits. -/
def costText (cost : Nat) : Text :=
  List.replicate (2 - (Text.ofNat cost).length) (CodePoint.ofChar '0') ++ Text.ofNat cost

/-! ## The parts of a hash text -/

theorem ofName?_name (v : Version) : Version.ofName? v.name = some v := by
  cases v <;> decide

theorem separator_notMem_name (v : Version) : separator ∉ Text.ofString v.name := by
  cases v <;> decide

theorem name_ne_nil (v : Version) : Text.ofString v.name ≠ [] := by
  cases v <;> decide

/-- A cost is read back from its two digits. -/
theorem cost?_costText {cost : Nat} (hge : 4 ≤ cost) (hle : cost ≤ 31) :
    cost? (costText cost) = some cost ∧ separator ∉ costText cost ∧ costText cost ≠ [] := by
  interval_cases cost <;> decide

/-- No symbol of a salt or a hash separates parts. -/
theorem separator_notMem_symbols (octets : Octets) :
    separator ∉ Base64.symbols .crypt octets := by
  intro h
  obtain ⟨n, hn, hsymbol⟩ := Base64.exists_symbol_of_mem h
  have hvalue := Base64.value?_symbol .crypt hn
  have hnone : Base64.value? .crypt separator = none := rfl
  rw [← hsymbol, hnone] at hvalue
  cases hvalue

theorem salt?_symbols (salt : Octets) : salt? (Base64.symbols .crypt salt) = some salt := by
  unfold salt?
  rw [Base64.decodeUnpadded?_symbols]
  exact if_pos rfl

/-! ## The whole text -/

theorem toText_eq (s : Setting) :
    s.toText = [] ++ separator :: (Text.ofString s.version.name ++ separator :: (costText s.cost ++
      separator :: Base64.symbols .crypt s.salt)) := by
  simp [Setting.toText, costText]

/-- The parts of a text that begins with the text of a setting. -/
theorem pieces_toText_append {s : Setting} (h : s.IsProper) (tail : Octets) :
    Text.pieces separator (s.toText ++ Base64.symbols .crypt tail) =
      [[], Text.ofString s.version.name, costText s.cost,
        Base64.symbols .crypt s.salt ++ Base64.symbols .crypt tail] := by
  obtain ⟨-, hcost, -⟩ := cost?_costText h.cost_ge h.cost_le
  have hrest : separator ∉ Base64.symbols .crypt s.salt ++ Base64.symbols .crypt tail := by
    rw [List.mem_append, not_or]
    exact ⟨separator_notMem_symbols s.salt, separator_notMem_symbols tail⟩
  simp only [toText_eq, List.append_assoc, List.cons_append]
  rw [Text.pieces_append List.not_mem_nil, Text.pieces_append (separator_notMem_name s.version),
    Text.pieces_append hcost, Text.pieces_of_notMem hrest]

/-- A setting is read back from its text and whatever symbols follow. -/
theorem parse?_toText_append {s : Setting} (h : s.IsProper) (tail : Octets) :
    Setting.parse? (s.toText ++ Base64.symbols .crypt tail) = some s := by
  obtain ⟨hcost, -, hdigits⟩ := cost?_costText h.cost_ge h.cost_le
  have hlength : (Base64.symbols .crypt s.salt).length = 22 := by
    rw [Base64.length_symbols, h.length_salt]
  have htake : (Base64.symbols .crypt s.salt ++ Base64.symbols .crypt tail).take 22 =
      Base64.symbols .crypt s.salt := List.take_left' hlength
  have hrest : Base64.symbols .crypt s.salt ++ Base64.symbols .crypt tail ≠ [] := by
    intro hnil
    have hsalt := congrArg List.length (List.append_eq_nil_iff.1 hnil).1
    rw [hlength] at hsalt
    cases hsalt
  have hparts : (Text.pieces separator (s.toText ++ Base64.symbols .crypt tail)).filter (· ≠ []) =
      [Text.ofString s.version.name, costText s.cost,
        Base64.symbols .crypt s.salt ++ Base64.symbols .crypt tail] := by
    simp [pieces_toText_append h, name_ne_nil, hdigits, -List.append_eq_nil_iff, hrest]
  unfold Setting.parse?
  rw [hparts]
  simp [ofName?_name, hcost, hlength, htake, salt?_symbols]

theorem parse?_toText {s : Setting} (h : s.IsProper) : Setting.parse? s.toText = some s := by
  have hempty := parse?_toText_append h []
  rwa [Base64.symbols, List.append_nil] at hempty

/-! ## Settings that are read -/

/-- A salt is read only from the symbols that it is written in. -/
theorem eq_symbols_of_salt? {symbols : Text} {salt : Octets} (h : salt? symbols = some salt) :
    symbols = Base64.symbols .crypt salt := by
  obtain ⟨decoded, -, hread⟩ := Option.bind_eq_some_iff.1 h
  by_cases hsame : Base64.symbols .crypt decoded = symbols
  · rw [if_pos hsame] at hread
    rw [← Option.some.inj hread, hsame]
  · rw [if_neg hsame] at hread
    cases hread

theorem bounds_of_cost? {t : Text} {cost : Nat} (h : cost? t = some cost) :
    4 ≤ cost ∧ cost ≤ 31 := by
  unfold cost? at h
  extract_lets digits value at h
  by_cases hdigits : digits ≠ [] ∧ digits.all CodePoint.isAsciiDigit
  · rw [if_pos hdigits] at h
    by_cases hbounds : 4 ≤ value ∧ value ≤ 31
    · rw [if_pos hbounds] at h
      exact Option.some.inj h ▸ hbounds
    · rw [if_neg hbounds] at h
      cases h
  · rw [if_neg hdigits] at h
    cases h

/-- Whatever text a setting is read from, passwords can be hashed under it: 22 symbols are those of
sixteen octets. -/
theorem isProper_of_parse? {t : Text} {s : Setting} (h : Setting.parse? t = some s) :
    s.IsProper := by
  unfold Setting.parse? at h
  split at h
  · rename_i version cost rest hparts
    obtain ⟨v, -, h⟩ := Option.bind_eq_some_iff.1 h
    obtain ⟨c, hcost, h⟩ := Option.bind_eq_some_iff.1 h
    by_cases hshort : rest.length < 22
    · rw [if_pos hshort] at h
      cases h
    · rw [if_neg hshort] at h
      obtain ⟨salt, hsalt, hs⟩ := Option.bind_eq_some_iff.1 h
      obtain rfl := Option.some.inj hs
      obtain ⟨hge, hle⟩ := bounds_of_cost? hcost
      have hlength := congrArg List.length (eq_symbols_of_salt? hsalt)
      rw [List.length_take, Base64.length_symbols] at hlength
      exact ⟨by dsimp only; omega, hge, hle⟩
  · cases h

/-! ## Hashing and checking -/

def hashText (s : Setting) (password : Octets) : Text :=
  s.toText ++ Base64.symbols .crypt (digest s.cost s.salt password)

section hashing

variable {s : Setting} {salt : Text} {password : Octets}

theorem hash?_eq (s : Setting) (hlength : password.length ≤ maxPassword) :
    hash? password s = some (hashText s password) := if_pos hlength

/-- Hashing depends on the setting that is read from the salt text, not on its spelling. -/
theorem hashWith?_eq (hsalt : Setting.parse? salt = some s)
    (hlength : password.length ≤ maxPassword) :
    hashWith? password salt = some (hashText s password) := by
  rw [hashWith?, hsalt, Option.bind_some, hash?_eq s hlength]

/-- A password that is too long has no hash, whatever the salt text. -/
theorem hashWith?_of_long (salt : Text) (hlength : maxPassword < password.length) :
    hashWith? password salt = none := by
  have hhash (setting : Setting) : hash? password setting = none := if_neg (by omega)
  rw [hashWith?, Option.bind_eq_none_iff]
  exact fun setting _ => hhash setting

theorem parse?_hashText (h : s.IsProper) (password : Octets) :
    Setting.parse? (hashText s password) = some s :=
  parse?_toText_append h _

/-- A password belongs to its hash text. -/
theorem check?_hashText (h : s.IsProper) (hlength : password.length ≤ maxPassword) :
    check? password (hashText s password) = some true := by
  rw [check?, hashWith?_eq (parse?_hashText h password) hlength]
  exact congrArg some (decide_eq_true rfl)

/-- A password that is not too long has a hash text under every proper setting, and belongs to it. -/
theorem exists_hashWith? (h : s.IsProper) (hlength : password.length ≤ maxPassword) :
    ∃ t, hashWith? password s.toText = some t ∧ check? password t = some true :=
  ⟨hashText s password, hashWith?_eq (parse?_toText h) hlength, check?_hashText h hlength⟩

end hashing

end Bcrypt

end SignIn
