import Mathlib.Data.List.Forall2
import SignIn.Proofs.Codec.Base64
import SignIn.Proofs.Codec.Fields
import SignIn.Proofs.OAuth.Course
import SignIn.Proofs.Request

/-!
# Secrets

Two secrets are interchangeable if they are the same or both of them are plain: not blank, and of
ASCII characters only. Whether a request can be written, where it goes and what is read of an answer
does not depend on which of two interchangeable secrets is used.
-/

namespace SignIn

/-! ## Plain texts -/

/-- A text that is not blank and holds ASCII characters only. -/
structure Text.IsPlain (t : Text) : Prop where
  notBlank : t.isBlank = false
  isAscii : t.all CodePoint.isAscii = true

namespace Text.IsPlain

variable {t : Text}

theorem encodable (h : t.IsPlain) : Utf8.encodable t = true := by
  have hascii := h.isAscii
  simp only [List.all_eq_true] at hascii
  simp only [Utf8.encodable, List.all_eq_true, Bool.not_eq_true']
  intro c hc
  have hsmall : c.val < 0x80 := by simpa [CodePoint.isAscii] using hascii c hc
  simp only [CodePoint.isSurrogate, Bool.and_eq_false_iff, decide_eq_false_iff_not]
  omega

theorem ne_nil (h : t.IsPlain) : t ≠ [] := by
  rintro rfl
  cases h.notBlank

theorem present?_some (h : t.IsPlain) : Text.present? (some t) = some t := by
  simp [Text.present?, h.notBlank]

theorem nonEmpty?_some (h : t.IsPlain) : OAuth.nonEmpty? (some t) = some t := if_neg h.ne_nil

/-- A random text is plain, unless it is made of nothing. -/
theorem encodeUrl {octets : Octets} (h : octets ≠ []) : (Base64.encodeUrl octets).IsPlain :=
  ⟨Base64.isBlank_encodeUrl h, Base64.isAscii_encodeUrl octets⟩

end Text.IsPlain

/-! ## Interchangeable values -/

/-- Two values are the same, or each is made of a plain text. -/
def Interchangeable {α : Type} (made : Text → α) (a b : α) : Prop :=
  a = b ∨ ∃ s t : Text, s.IsPlain ∧ t.IsPlain ∧ a = made s ∧ b = made t

namespace Interchangeable

variable {α β : Type} {made : Text → α} {a b : α}

theorem refl (a : α) : Interchangeable made a a := .inl rfl

theorem of_plain {s t : Text} (hs : s.IsPlain) (ht : t.IsPlain) :
    Interchangeable made (made s) (made t) := .inr ⟨s, t, hs, ht, rfl, rfl⟩

/-- What is made of interchangeable values is interchangeable. -/
theorem map (f : α → β) (h : Interchangeable made a b) :
    Interchangeable (fun t => f (made t)) (f a) (f b) := by
  rcases h with rfl | ⟨s, t, hs, ht, rfl, rfl⟩
  · exact refl _
  · exact of_plain hs ht

/-- What is told of every plain text in the same way is told of interchangeable values so. -/
theorem eq_of_plain {f : α → β} (h : Interchangeable made a b) (value : β)
    (hplain : ∀ t : Text, t.IsPlain → f (made t) = value) : f a = f b := by
  rcases h with rfl | ⟨s, t, hs, ht, rfl, rfl⟩
  · rfl
  · rw [hplain s hs, hplain t ht]

theorem encodable_eq {s t : Text} (h : Interchangeable (fun t => t) s t) :
    Utf8.encodable s = Utf8.encodable t := h.eq_of_plain true fun _ ht => ht.encodable

/-- Two values that may be missing are missing together, or both are there and interchangeable. -/
theorem none_or_some {a b : Option Text} (h : Interchangeable some a b) :
    (a = none ∧ b = none) ∨ ∃ s t, a = some s ∧ b = some t ∧ Interchangeable (fun t => t) s t := by
  rcases h with rfl | ⟨s, t, hs, ht, rfl, rfl⟩
  · cases a with
    | none => exact .inl ⟨rfl, rfl⟩
    | some s => exact .inr ⟨s, s, rfl, rfl, refl s⟩
  · exact .inr ⟨s, t, rfl, rfl, of_plain hs ht⟩

theorem present? {a b : Option Text} (h : Interchangeable some a b) :
    Interchangeable some (Text.present? a) (Text.present? b) := by
  rcases h with rfl | ⟨s, t, hs, ht, rfl, rfl⟩
  · exact refl _
  · rw [hs.present?_some, ht.present?_some]
    exact of_plain hs ht

theorem nonEmpty? {a b : Option Text} (h : Interchangeable some a b) :
    Interchangeable some (OAuth.nonEmpty? a) (OAuth.nonEmpty? b) := by
  rcases h with rfl | ⟨s, t, hs, ht, rfl, rfl⟩
  · exact refl _
  · rw [hs.nonEmpty?_some, ht.nonEmpty?_some]
    exact of_plain hs ht

theorem or {a b c d : Option Text} (h : Interchangeable some a b) (h' : Interchangeable some c d) :
    Interchangeable some (a.or c) (b.or d) := by
  rcases h with rfl | ⟨s, t, hs, ht, rfl, rfl⟩
  · cases a with
    | none => exact h'
    | some s => exact refl _
  · exact of_plain hs ht

end Interchangeable

/-! ## Forms -/

/-- Two records have the same fields in the same order, with interchangeable values. -/
def FieldsMatch (form other : Record) : Prop :=
  List.Forall₂ (fun f g => f.1 = g.1 ∧ Interchangeable Datum.text f.2 g.2) form other

namespace FieldsMatch

variable {form other : Record}

theorem refl (form : Record) : FieldsMatch form form :=
  List.forall₂_same.2 fun _ _ => ⟨rfl, .refl _⟩

theorem forall_name (h : FieldsMatch form other) (p : Text → Prop) (hform : ∀ f ∈ form, p f.1) :
    ∀ f ∈ other, p f.1 := by
  induction h with
  | nil => exact hform
  | cons hfield hrest ih =>
    obtain ⟨hfirst, hlater⟩ := List.forall_mem_cons.1 hform
    exact List.forall_mem_cons.2 ⟨hfield.1 ▸ hfirst, ih hlater⟩

theorem put (h : FieldsMatch form other) (name : Text) {value value' : Datum}
    (hvalue : Interchangeable .text value value') :
    FieldsMatch (form.put name value) (other.put name value') := by
  induction h with
  | nil => exact .cons ⟨rfl, hvalue⟩ .nil
  | @cons f g form other hfield hrest ih =>
    obtain ⟨key, old⟩ := f
    obtain ⟨key', old'⟩ := g
    obtain ⟨rfl, hold⟩ := hfield
    unfold Record.put
    split
    · exact .cons ⟨rfl, hvalue⟩ hrest
    · exact .cons ⟨rfl, hold⟩ ih

theorem putAll (h : FieldsMatch form other) {fields fields' : Record}
    (hfields : FieldsMatch fields fields') :
    FieldsMatch (OAuth.putAll form fields) (OAuth.putAll other fields') := by
  induction hfields generalizing form other with
  | nil => exact h
  | @cons f g fields fields' hfield hrest ih =>
    obtain ⟨key, value⟩ := f
    obtain ⟨key', value'⟩ := g
    obtain ⟨rfl, hvalue⟩ := hfield
    exact ih (h.put key hvalue)

theorem filled (h : FieldsMatch form other) :
    FieldsMatch (OAuth.filled form) (OAuth.filled other) := by
  apply List.rel_filter _ h
  rintro ⟨key, value⟩ ⟨key', value'⟩ ⟨-, hvalue⟩
  rcases hvalue with hsame | ⟨s, t, -, -, hs, ht⟩
  · dsimp only at hsame
    rw [hsame]
  · dsimp only at hs ht
    rw [hs, ht]

/-- The fields that a form gives have a UTF-8 form or not, whichever secrets are in it. -/
theorem encodable_iff (h : FieldsMatch form other) :
    (∀ f ∈ Form.ofRecord form, Utf8.encodable f.1 = true ∧ Utf8.encodable f.2 = true) ↔
      ∀ f ∈ Form.ofRecord other, Utf8.encodable f.1 = true ∧ Utf8.encodable f.2 = true := by
  induction h with
  | nil => exact Iff.rfl
  | @cons f g form other hfield hrest ih =>
    obtain ⟨key, value⟩ := f
    obtain ⟨key', value'⟩ := g
    obtain ⟨rfl, hvalue⟩ := hfield
    simp only [Form.ofRecord, List.flatMap_cons, List.forall_mem_append] at ih ⊢
    refine and_congr ?_ ih
    rcases hvalue with rfl | ⟨s, t, hs, ht, rfl, rfl⟩
    · exact Iff.rfl
    · simp [Form.scalar, hs.encodable, ht.encodable]

end FieldsMatch

/-! ## Records -/

/-- Two lists of fields have the same names in the same order. The values are the same too, but for
those of secret fields, which are interchangeable. -/
def AgreeBut {α : Type} (made : Text → α) (secrets : List Text) (fields other : List (Text × α)) :
    Prop :=
  List.Forall₂
    (fun f g => f.1 = g.1 ∧ Interchangeable made f.2 g.2 ∧ (f.1 ∉ secrets → f.2 = g.2)) fields other

namespace AgreeBut

variable {α : Type} {made : Text → α} {secrets : List Text} {fields other : List (Text × α)}

theorem refl (fields : List (Text × α)) : AgreeBut made secrets fields fields :=
  List.forall₂_same.2 fun _ _ => ⟨rfl, .refl _, fun _ => rfl⟩

/-- The value of a secret field may be any interchangeable one. -/
theorem cons (h : AgreeBut made secrets fields other) {name : Text} (hname : name ∈ secrets)
    {value value' : α} (hvalue : Interchangeable made value value') :
    AgreeBut made secrets ((name, value) :: fields) ((name, value') :: other) :=
  List.Forall₂.cons ⟨rfl, hvalue, fun h => absurd hname h⟩ h

theorem lookup (h : AgreeBut made secrets fields other) (name : Text) :
    Interchangeable (fun t => some (made t)) (fields.lookup name) (other.lookup name) := by
  induction h with
  | nil => exact .refl _
  | @cons f g fields other hfield hrest ih =>
    obtain ⟨key, value⟩ := f
    obtain ⟨key', value'⟩ := g
    obtain ⟨rfl, hvalue, -⟩ := hfield
    rw [List.lookup_cons, List.lookup_cons]
    cases name == key with
    | true => exact hvalue.map some
    | false => exact ih

theorem lookup_eq (h : AgreeBut made secrets fields other) {name : Text} (hname : name ∉ secrets) :
    fields.lookup name = other.lookup name := by
  induction h with
  | nil => rfl
  | @cons f g fields other hfield hrest ih =>
    obtain ⟨key, value⟩ := f
    obtain ⟨key', value'⟩ := g
    obtain ⟨rfl, -, hsame⟩ := hfield
    rw [List.lookup_cons, List.lookup_cons]
    cases hkey : name == key with
    | true =>
      obtain rfl := eq_of_beq hkey
      exact congrArg some (hsame hname)
    | false => exact ih

end AgreeBut

/-! ## Results -/

/-- Two results are failures, or values in a relation. -/
def EndAlike {ε α β : Type} (R : α → β → Prop) (first : Except ε α) (second : Except ε β) : Prop :=
  (∃ e e', first = .error e ∧ second = .error e') ∨
    ∃ a b, first = .ok a ∧ second = .ok b ∧ R a b

namespace EndAlike

variable {ε α β γ δ : Type} {R : α → β → Prop} {S : γ → δ → Prop} {first : Except ε α}
  {second : Except ε β}

theorem error (e e' : ε) : EndAlike R (.error e : Except ε α) (.error e') := .inl ⟨e, e', rfl, rfl⟩

theorem ok {a : α} {b : β} (h : R a b) : EndAlike R (.ok a : Except ε α) (.ok b) :=
  .inr ⟨a, b, rfl, rfl, h⟩

theorem refl (first : Except ε α) : EndAlike Eq first first := by
  cases first with
  | error e => exact error e e
  | ok a => exact ok rfl

theorem imp {S : α → β → Prop} (h : EndAlike R first second) (hRS : ∀ a b, R a b → S a b) :
    EndAlike S first second := by
  rcases h with ⟨e, e', rfl, rfl⟩ | ⟨a, b, rfl, rfl, hab⟩
  · exact error e e'
  · exact ok (hRS a b hab)

theorem bind (h : EndAlike R first second) {next : α → Except ε γ} {next' : β → Except ε δ}
    (hnext : ∀ a b, R a b → EndAlike S (next a) (next' b)) :
    EndAlike S (first >>= next) (second >>= next') := by
  rcases h with ⟨e, e', rfl, rfl⟩ | ⟨a, b, rfl, rfl, hab⟩
  · exact error e e'
  · exact hnext a b hab

end EndAlike

/-! ## Requests -/

/-- Two calls can be written as requests or not, and if so both name a host or neither does. -/
def SentAlike (call other : Call) : Prop :=
  EndAlike (fun request request' => request.hasOrigin = request'.hasOrigin)
    (WireRequest.ofCall call) (WireRequest.ofCall other)

/-- Calls to one address are sent alike, if their bodies can be written and their headers are
admitted alike. -/
theorem sentAlike_of_parts {method url : Option Text} {payload payload' : Payload}
    {headers headers' : Except Fault Fields}
    (hbody : payload.body?.isSome = payload'.body?.isSome)
    (hheaders : EndAlike (fun _ _ => True) headers headers') :
    SentAlike ⟨method, url, .ok payload, headers⟩ ⟨method, url, .ok payload', headers'⟩ := by
  unfold SentAlike WireRequest.ofCall
  cases url with
  | none => exact .error _ _
  | some address =>
  refine (EndAlike.refl (Url.parse address)).bind ?_
  rintro url _ rfl
  refine hheaders.bind fun fields fields' _ => ?_
  cases method with
  | none => exact .error _ _
  | some method =>
  refine (EndAlike.refl (.ok method.toUpper)).bind ?_
  rintro method _ rfl
  have hpayloads : EndAlike (fun p q => p = payload ∧ q = payload')
      (.ok payload : Except Fault Payload) (.ok payload') := .ok ⟨rfl, rfl⟩
  refine hpayloads.bind ?_
  rintro payload payload' ⟨rfl, rfl⟩
  cases hpayload : payload.body? with
  | none =>
    rw [hpayload] at hbody
    have hpayload' : payload'.body? = none := by
      rw [← Option.not_isSome_iff_eq_none, ← hbody]
      exact Bool.false_ne_true
    simp only [hpayload']
    exact .error _ _
  | some body =>
    rw [hpayload] at hbody
    obtain ⟨body', hpayload'⟩ := Option.isSome_iff_exists.1 hbody.symm
    simp only [hpayload']
    have hbodies : EndAlike (fun _ _ => True) (.ok body : Except Fault Text) (.ok body') :=
      .ok trivial
    refine hbodies.bind fun _ _ _ => ?_
    cases url.fromRoot.host.all CodePoint.isAscii with
    | false => exact .error _ _
    | true =>
      cases url.fromRoot.login? with
      | none => exact .ok rfl
      | some login =>
        refine (EndAlike.refl ((WireRequest.basic login).map some)).bind ?_
        exact fun _ _ _ => .ok rfl

namespace OAuth

theorem sentAlike_tokenCall (url : Option Text) {form other : Record} (h : FieldsMatch form other) :
    SentAlike (tokenCall url form) (tokenCall url other) := by
  apply sentAlike_of_parts
  · rw [Bool.eq_iff_iff, Option.isSome_iff_exists, Option.isSome_iff_exists, Payload.body?,
      Payload.body?, Form.exists_encode?_iff, Form.exists_encode?_iff]
    exact h.encodable_iff
  · cases Headers.ofTexts [("Content-Type", "application/x-www-form-urlencoded")] with
    | error fault => exact .error _ _
    | ok fields => exact .ok trivial

theorem sentAlike_userInfoCall (url : Option Text) {s t : Text}
    (h : Interchangeable (fun t => t) s t) :
    SentAlike (userInfoCall url s) (userInfoCall url t) := by
  apply sentAlike_of_parts rfl
  rcases h with rfl | ⟨s, t, hs, ht, rfl, rfl⟩
  · cases Headers.ofTexts [("Authorization", ("Bearer " : Text) ++ s)] with
    | error fault => exact .error _ _
    | ok fields => exact .ok trivial
  · have hplain {t : Text} (ht : t.IsPlain) :
        Headers.ofTexts [("Authorization", ("Bearer " : Text) ++ t)] =
          .ok [("Authorization", ("Bearer " : Text) ++ t)] := by
      have hvalue : (("Bearer " : Text) ++ t).all CodePoint.isAscii = true := by
        rw [List.all_append, ht.isAscii]
        decide
      have hname : (Text.ofString "Authorization").all CodePoint.isAscii = true := by decide
      simp only [Headers.ofTexts, List.mapM_cons, List.mapM_nil, Headers.header, hvalue, hname,
        Bool.not_true, Bool.false_eq_true, if_false, if_true]
      rfl
    rw [hplain hs, hplain ht]
    exact .ok trivial

/-! ## What two runs agree on -/

/-- Two configurations agree on everything but the secret and the password of the client. -/
inductive ConfigsMatch (c : OAuthConfig) : OAuthConfig → Prop
  | intro {clientSecret password : Option Text}
    (secrets : Interchangeable some c.clientSecret clientSecret)
    (passwords : Interchangeable some c.password password) :
    ConfigsMatch c { c with clientSecret := clientSecret, password := password }

def secretParameters : List Text := ["password", "code", "access_token", "state"]

/-- Two requests agree on everything but secret parameters. -/
structure RequestsMatch (request other : Request) : Prop where
  params : AgreeBut (fun t => t) secretParameters request.params other.params
  cacheKey : request.cacheKey = other.cacheKey

namespace RequestsMatch

variable {request other : Request}

theorem given? (h : RequestsMatch request other) (name : Text) :
    Interchangeable some (request.given? name) (other.given? name) := h.params.lookup name

theorem get (h : RequestsMatch request other) (name : Text) :
    Interchangeable some (request.get name) (other.get name) := (h.given? name).present?

theorem given?_eq (h : RequestsMatch request other) {name : Text}
    (hname : name ∉ secretParameters) : request.given? name = other.given? name :=
  h.params.lookup_eq hname

theorem get_eq (h : RequestsMatch request other) {name : Text} (hname : name ∉ secretParameters) :
    request.get name = other.get name := by
  rw [Request.get_eq_present?, Request.get_eq_present?, h.given?_eq hname]

end RequestsMatch

/-- The fields of an answer to a token request that carry secrets. -/
def secretFields : List Text := ["access_token", "refresh_token", "id_token"]

/-- Two payloads agree on everything but secret fields. -/
abbrev PayloadsMatch (payload other : Record) : Prop :=
  AgreeBut Datum.text secretFields payload other

/-- Two replies are the same, or answers of success with one status. The records that the answers
hold are in a relation, or neither answer holds a record. -/
inductive RepliesMatch (R : Record → Record → Prop) : Reply → Reply → Prop
  | same (reply : Reply) : RepliesMatch R reply reply
  | records {answer other : Answer} {payload payload' : Record} (success : answer.isSuccess = true)
    (status : answer.status = other.status)
    (depth : Json.isTooDeep answer.body = Json.isTooDeep other.body)
    (read : Json.readOctets? answer.body = some (.record payload))
    (read' : Json.readOctets? other.body = some (.record payload')) (related : R payload payload') :
    RepliesMatch R (.answer answer) (.answer other)
  | unreadable {answer other : Answer} (success : answer.isSuccess = true)
    (status : answer.status = other.status)
    (unread : ∀ payload, Json.readOctets? answer.body ≠ some (.record payload))
    (unread' : ∀ payload, Json.readOctets? other.body ≠ some (.record payload)) :
    RepliesMatch R (.answer answer) (.answer other)

/-! ## Tokens -/

/-- Two records are read as tokens alike. -/
structure TokensAlike (payload other : Record) : Prop where
  error : payload.get? "error" = other.get? "error"
  life : payload.get? "expires_in" = other.get? "expires_in"
  accessToken : Interchangeable (fun t => some (.text t)) (payload.get? "access_token")
    (other.get? "access_token")

theorem PayloadsMatch.tokensAlike {payload other : Record} (h : PayloadsMatch payload other) :
    TokensAlike payload other :=
  ⟨h.lookup_eq (by decide), h.lookup_eq (by decide), h.lookup _⟩

theorem RequestsMatch.tokensAlike {request other : Request} (h : RequestsMatch request other) :
    TokensAlike request.record other.record := by
  constructor
  · rw [Request.get?_record, Request.get?_record, h.given?_eq (by decide)]
  · rw [Request.get?_record, Request.get?_record, h.given?_eq (by decide)]
  · rw [Request.get?_record, Request.get?_record]
    exact (h.given? _).map (Option.map Datum.text)

theorem TokensAlike.refusalIn? {payload other : Record} (h : TokensAlike payload other) :
    (refusalIn? payload).isSome = (refusalIn? other).isSome := by
  unfold OAuth.refusalIn?
  rw [h.error]
  dsimp only
  split <;> rfl

theorem TokensAlike.usableToken? {payload other : Record} (h : TokensAlike payload other) :
    Interchangeable some (usableToken? payload) (usableToken? other) := by
  have htext := h.accessToken.map fun d => d.bind Datum.text?
  exact Interchangeable.present? htext

/-- Records that are read as tokens alike give the same log, and both give a token or neither. -/
theorem tokenOfPayload_alike {payload other : Record} (h : TokensAlike payload other) :
    (tokenOfPayload payload).2 = (tokenOfPayload other).2 ∧
      EndAlike (fun token token' =>
          Interchangeable (fun t => t) token.accessToken token'.accessToken)
        (tokenOfPayload payload).1 (tokenOfPayload other).1 := by
  have hrefusal := h.refusalIn?
  unfold tokenOfPayload
  cases hfirst : OAuth.refusalIn? payload with
  | some refusal =>
    rw [hfirst] at hrefusal
    obtain ⟨refusal', hsecond⟩ := Option.isSome_iff_exists.1 hrefusal.symm
    rw [hsecond]
    exact ⟨rfl, .error _ _⟩
  | none =>
    rw [hfirst] at hrefusal
    have hsecond : OAuth.refusalIn? other = none := by
      rw [← Option.not_isSome_iff_eq_none, ← hrefusal]
      exact Bool.false_ne_true
    rw [hsecond, h.life]
    rcases h.usableToken?.none_or_some with ⟨hnone, hnone'⟩ | ⟨s, t, hs, ht, hst⟩
    · simp only [hnone, hnone']
      exact ⟨trivial, .error _ _⟩
    · simp only [hs, ht]
      cases StatedLife.ofDatum ((other.get? "expires_in").getD .null) with
      | absent => exact ⟨rfl, .ok hst⟩
      | seconds n => exact ⟨rfl, .ok hst⟩
      | ignored => exact ⟨rfl, .ok hst⟩
      | excessive => exact ⟨rfl, .error _ _⟩

end OAuth

end SignIn
