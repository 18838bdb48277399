import SignIn.Directory.Scheme
import SignIn.Proofs.Bcrypt.HashText
import SignIn.Proofs.Directory.Salted
import SignIn.Proofs.Text.Case

/-!
# The table of schemes

A password that a matcher writes is accepted by that matcher, in every spelling of the tag. The tag
tells the schemes of the table apart: none of them begins with another, so what one scheme has
written has no payload for any other, whatever text the payload is.
-/

namespace SignIn

namespace Directory

/-! ## What a matcher writes -/

/-- A matcher can write a password of some octets: its algorithm has a digest, its salts are not
empty, and a bcrypt password is not too long. -/
def Matcher.Usable (m : Matcher) (octets : Octets) : Prop :=
  match m with
  | .clear => True
  | .digest _ algorithm => ∃ a, algorithm.map DigestAlgorithm.ofName? = some (some a)
  | .salted _ _ saltLength => ∃ n, 1 ≤ n ∧ saltLength = some n
  | .bcrypt => octets.length ≤ Bcrypt.maxPassword

section written

variable {m : Matcher} {setting : Bcrypt.Setting} {password : Text} {octets : Octets}

theorem sameOctets_self {t : Text} (h : Utf8.encodable t = true) :
    Matcher.sameOctets t t = .ok true := by
  unfold Matcher.sameOctets
  rw [Utf8.encode?_of_encodable h]
  exact congrArg Except.ok (decide_eq_true rfl)

theorem digestPayload_eq {algorithm : Option Text} {a : DigestAlgorithm}
    (halgorithm : algorithm.map DigestAlgorithm.ofName? = some (some a))
    (hencode : Utf8.encode? password = some octets) :
    Matcher.digestPayload algorithm password = .ok (Base64.encode (a.digest octets)) := by
  rw [Matcher.digestPayload, Matcher.octetsOf, hencode, halgorithm]
  rfl

/-- The payload that a matcher writes is one that it accepts. -/
theorem exists_payload (husable : m.Usable octets) (hsetting : setting.IsProper)
    (hencode : Utf8.encode? password = some octets) (random : RandomStream) :
    ∃ payload, (m.payload setting.toText random password).1 = .ok payload ∧
      m.matchesPayload password payload = .ok true := by
  cases m with
  | clear =>
    have hencodable := (Utf8.encode?_eq_some_iff.1 hencode).1
    exact ⟨password, rfl, sameOctets_self hencodable⟩
  | digest scheme algorithm =>
    obtain ⟨a, halgorithm⟩ := husable
    have hpayload := digestPayload_eq halgorithm hencode
    refine ⟨_, hpayload, ?_⟩
    rw [Matcher.matchesPayload, hpayload]
    exact sameOctets_self (Base64.encodable_encode _)
  | salted scheme algorithm saltLength =>
    obtain ⟨n, hn, rfl⟩ := husable
    have hdrawn : (random.draw n.toNat).1 ≠ [] := by
      rw [← List.length_pos_iff, RandomStream.length_draw]
      omega
    refine ⟨saltedText algorithm octets (random.draw n.toNat).1, ?_,
      matchesPayload_saltedText scheme (some n) hencode hdrawn⟩
    rw [Matcher.payload, if_neg (by omega)]
    exact saltedPayload_eq hencode _
  | bcrypt =>
    obtain ⟨t, hhash, hcheck⟩ := Bcrypt.exists_hashWith? hsetting husable
    refine ⟨t, ?_, ?_⟩
    · rw [Matcher.payload, Matcher.bcryptPayload, Matcher.octetsOf, hencode]
      simp only [hhash, bind, Except.bind]
      rfl
    · rw [Matcher.matchesPayload, hencode]
      simp only [hcheck, Option.getD_some]

/-- The stored form of a password that is not blank is the tag followed by the payload. -/
theorem encode_of_payload {random : RandomStream} {payload : Text}
    (hblank : password.isBlank = false)
    (hpayload : (m.payload setting.toText random password).1 = .ok payload) :
    (m.encode setting.toText random (.text password)).1 = .ok (some (m.tag ++ payload)) := by
  have hnonBlank : Matcher.nonBlank? (.text password) = .ok (some password) := by
    rw [Matcher.nonBlank?, Text.present?, hblank]
    rfl
  rw [Matcher.encode, hnonBlank]
  simp only [hpayload, Except.map]

/-- Whatever is written begins with the tag. -/
theorem exists_of_encode {bcryptSalt stored : Text} {random : RandomStream} {given : Datum}
    (h : (m.encode bcryptSalt random given).1 = .ok (some stored)) :
    ∃ payload, stored = m.tag ++ payload := by
  unfold Matcher.encode at h
  split at h
  · cases h
  · cases h
  · cases hpayload : m.payload bcryptSalt random _ with
    | mk written rest =>
      rw [hpayload] at h
      cases written with
      | error fault => cases h
      | ok payload => exact ⟨payload, (Option.some.inj (Except.ok.inj h)).symm⟩

end written

/-! ## Spellings of the tag -/

section spelling

variable {m : Matcher} {spelled payload : Text}

theorem isBlank_tag (m : Matcher) : m.tag.isBlank = false := rfl

/-- The payload stands behind the tag in every spelling. -/
theorem payloadOf?_spelled (hspelled : spelled.toAsciiUpper = m.tag.toAsciiUpper) :
    m.payloadOf? (spelled ++ payload) = some payload := by
  have hlength := Text.length_eq_of_spelling hspelled
  apply payloadOf?_eq_some_iff.2
  rw [List.take_left' hlength, List.drop_left' hlength]
  exact ⟨Text.toUpper_eq_of_spelling hspelled, rfl⟩

/-- A payload is checked behind the tag in every spelling. -/
theorem accepts_spelled {password : Text} (hblank : password.isBlank = false)
    (hspelled : spelled.toAsciiUpper = m.tag.toAsciiUpper) :
    m.accepts (.text password) (.text (spelled ++ payload)) =
      m.matchesPayload password payload := by
  apply accepts_of_payloadOf? hblank
  · rw [Text.isBlank_append, Text.isBlank_eq_of_spelling hspelled, isBlank_tag, Bool.false_and]
  · exact payloadOf?_spelled hspelled

end spelling

/-- A matcher writes a password in a form that it accepts, in every spelling of the tag. -/
def Matcher.RoundTrips (m : Matcher) (bcryptSalt : Text) (random : RandomStream)
    (password : Text) : Prop :=
  ∃ payload, (m.encode bcryptSalt random (.text password)).1 = .ok (some (m.tag ++ payload)) ∧
    ∀ spelled, spelled.toAsciiUpper = m.tag.toAsciiUpper →
      m.accepts (.text password) (.text (spelled ++ payload)) = .ok true

/-- Every matcher that can write a password accepts what it has written. -/
theorem roundTrips_of_usable {m : Matcher} {setting : Bcrypt.Setting} {password : Text}
    {octets : Octets} (husable : m.Usable octets) (hsetting : setting.IsProper)
    (hblank : password.isBlank = false) (hencode : Utf8.encode? password = some octets)
    (random : RandomStream) : m.RoundTrips setting.toText random password := by
  obtain ⟨payload, hpayload, hmatches⟩ := exists_payload husable hsetting hencode random
  refine ⟨payload, encode_of_payload hblank hpayload, fun spelled hspelled => ?_⟩
  rw [accepts_spelled hblank hspelled, hmatches]

/-! ## The tags of the table -/

namespace Scheme

theorem scheme_matcher (s : Scheme) : s.matcher.scheme = Text.ofString s.name := by
  cases s <;> rfl

/-- The brace that ends a tag. -/
def closingBrace : CodePoint := CodePoint.ofChar '\x7d'

theorem tag_matcher (s : Scheme) :
    s.matcher.tag = (Text.ofString "\x7b" ++ Text.ofString s.name) ++ [closingBrace] := by
  rw [Matcher.tag, scheme_matcher, Text.concat_cons, Text.concat_cons, Text.concat_cons,
    Text.concat_nil, List.append_nil, List.append_assoc]
  rfl

theorem closingBrace_notMem (s : Scheme) :
    closingBrace ∉ Text.ofString "\x7b" ++ Text.ofString s.name := by
  cases s <;> decide

/-- Tags are in upper case. -/
theorem isUpper_tag (s : Scheme) : Text.IsUpper s.matcher.tag := by
  unfold Text.IsUpper
  cases s <;> decide

/-- The name of a scheme means that scheme. -/
theorem ofText?_name (s : Scheme) : ofText? s.name = some s := by
  cases s <;> decide

/-- No tag begins with another. -/
theorem eq_of_tag_isPrefix {s other : Scheme} (h : s.matcher.tag <+: other.matcher.tag) :
    s = other := by
  rw [tag_matcher, tag_matcher] at h
  have hclosed := Text.eq_of_isPrefix_of_closed (closingBrace_notMem s) (closingBrace_notMem other) h
  have hname : Text.ofString s.name = Text.ofString other.name := List.append_cancel_left hclosed
  have hsame := ofText?_name s
  rw [hname, ofText?_name] at hsame
  exact (Option.some.inj hsame).symm

/-- What is written behind the tag of one scheme has no payload for another. -/
theorem payloadOf?_other {s other : Scheme} (hother : other ≠ s) (payload : Text) :
    other.matcher.payloadOf? (s.matcher.tag ++ payload) = none := by
  cases hread : other.matcher.payloadOf? (s.matcher.tag ++ payload) with
  | none => rfl
  | some read =>
    have htag := (payloadOf?_eq_some_iff.1 hread).1
    rw [Text.toUpper_of_isUpper (isUpper_tag other)] at htag
    have hsame : s = other ∨ other = s :=
      (Text.isPrefix_of_toUpper_take (isUpper_tag s) htag).imp eq_of_tag_isPrefix eq_of_tag_isPrefix
    exact absurd (hsame.elim Eq.symm id) hother

/-- The matchers of the table can write every password, except that a bcrypt password must not be
too long. -/
theorem usable_matcher (s : Scheme) {octets : Octets}
    (h : s = .bcrypt → octets.length ≤ Bcrypt.maxPassword) : s.matcher.Usable octets := by
  have hdigest (a : DigestAlgorithm) : DigestAlgorithm.ofName? a.name = some a := by
    cases a <;> decide
  cases s with
  | bcrypt => exact h rfl
  | k5key => trivial
  | md5 => exact ⟨.md5, congrArg some (hdigest .md5)⟩
  | sha => exact ⟨.sha1, congrArg some (hdigest .sha1)⟩
  | sha256 => exact ⟨.sha256, congrArg some (hdigest .sha256)⟩
  | sha512 => exact ⟨.sha512, congrArg some (hdigest .sha512)⟩
  | smd5 | ssha | ssha256 | ssha512 => exact ⟨saltLength, by decide, rfl⟩

/-- What one scheme has written is refused by every other, for all passwords. -/
theorem other_refuses {s other : Scheme} (hother : other ≠ s) {bcryptSalt stored : Text}
    {random : RandomStream} {given : Datum}
    (h : (s.matcher.encode bcryptSalt random given).1 = .ok (some stored)) (password : Text) :
    other.matcher.accepts (.text password) (.text stored) = .ok false := by
  obtain ⟨payload, rfl⟩ := exists_of_encode h
  exact accepts_of_payloadOf?_none password (payloadOf?_other hother payload)

/-- Writing and checking agree over the whole table: a scheme accepts what it has written, in every
spelling of the tag, and every other scheme refuses it, whatever password is submitted. Matchers
with a salt accept what they have written also when they are not of the table. -/
theorem encode_accepts {setting : Bcrypt.Setting} (hsetting : setting.IsProper) {password : Text}
    {octets : Octets} (hblank : password.isBlank = false)
    (hencode : Utf8.encode? password = some octets) (random : RandomStream) :
    (∀ s : Scheme, (s = .bcrypt → octets.length ≤ Bcrypt.maxPassword) →
      s.matcher.RoundTrips setting.toText random password ∧
      ∀ stored, (s.matcher.encode setting.toText random (.text password)).1 = .ok (some stored) →
        ∀ other ≠ s, ∀ submitted,
          other.matcher.accepts (.text submitted) (.text stored) = .ok false) ∧
    ∀ (scheme : Text) (algorithm : DigestAlgorithm) (saltLength : Int), 1 ≤ saltLength →
      (Matcher.salted scheme algorithm (some saltLength)).RoundTrips setting.toText random
        password := by
  constructor
  · intro s hlength
    have htrips := roundTrips_of_usable (usable_matcher s hlength) hsetting hblank hencode random
    have hrefused (stored : Text)
        (hstored : (s.matcher.encode setting.toText random (.text password)).1 =
          .ok (some stored)) (other : Scheme) (hother : other ≠ s) (submitted : Text) :
        other.matcher.accepts (.text submitted) (.text stored) = .ok false :=
      other_refuses hother hstored submitted
    exact ⟨htrips, hrefused⟩
  · intro scheme algorithm saltLength hpositive
    have husable : (Matcher.salted scheme algorithm (some saltLength)).Usable octets :=
      ⟨saltLength, hpositive, rfl⟩
    exact roundTrips_of_usable husable hsetting hblank hencode random

/-- A bcrypt hash of a password is accepted, and a password of six octets is not too long for one. -/
theorem encode_accepts_bcrypt :
    Scheme.bcrypt.matcher.RoundTrips
        (Bcrypt.Setting.toText ⟨.v2b, 4, List.replicate 16 0⟩) ⟨fun _ => 0, 0⟩ "secret" ∧
      (Matcher.salted "MINE" .sha512 (some 1)).RoundTrips
        (Bcrypt.Setting.toText ⟨.v2b, 4, List.replicate 16 0⟩) ⟨fun _ => 0, 0⟩ "secret" := by
  have hsetting : Bcrypt.Setting.IsProper ⟨.v2b, 4, List.replicate 16 0⟩ :=
    ⟨rfl, by decide, by decide⟩
  have hencode : Utf8.encode? "secret" = some [115, 101, 99, 114, 101, 116] := by decide
  have hboth := encode_accepts hsetting (by decide) hencode ⟨fun _ => 0, 0⟩
  exact ⟨(hboth.1 .bcrypt fun _ => by decide).1, hboth.2 "MINE" .sha512 1 (by decide)⟩

end Scheme

end Directory

end SignIn
