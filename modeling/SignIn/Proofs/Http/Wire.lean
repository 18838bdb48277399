import SignIn.Http.Exchange

/-!
# Requests on the wire

What the parts of a request are made from. The method is written in capitals, the body is that of the
payload, and the authorization is that of the headers unless the address names a user or a password.
-/

namespace SignIn

theorem exists_of_bind_eq_ok {ε α β : Type} {x : Except ε α} {next : α → Except ε β} {b : β}
    (h : x >>= next = .ok b) : ∃ a, x = .ok a ∧ next a = .ok b := by
  cases x with
  | error failure => cases h
  | ok a => exact ⟨a, rfl, h⟩

namespace Headers

theorem header_text_eq_ok {f g : Text × Text} (h : header (.text f.1, .text f.2) = .ok g) :
    g = f := by
  obtain ⟨name, value⟩ := f
  simp only [header] at h
  split at h
  · cases h
  · split at h
    · exact (Except.ok.inj h).symm
    · cases h

/-- Headers of texts are the texts. -/
theorem ofTexts_eq_ok {texts fields : Fields} (h : ofTexts texts = .ok fields) :
    fields = texts := by
  unfold ofTexts at h
  induction texts generalizing fields with
  | nil => cases h; rfl
  | cons f texts ih =>
    rw [List.mapM_cons] at h
    obtain ⟨g, hg, h⟩ := exists_of_bind_eq_ok h
    obtain ⟨rest, hrest, h⟩ := exists_of_bind_eq_ok h
    cases h
    rw [header_text_eq_ok hg, ih hrest]

end Headers

/-- The request that goes out for a call, if the call can be written as one. -/
def Call.request? (call : Call) : Option WireRequest := (WireRequest.ofCall call).toOption

namespace WireRequest

/-- What a request is made from. -/
structure Made (call : Call) (request : WireRequest) (address method : Text) (url : Url)
    (fields : Fields) (payload : Payload) : Prop where
  callUrl : call.url = some address
  parse : Url.parse address = .ok url
  callMethod : call.method = some method
  method : request.method = method.toUpper
  callHeaders : call.headers = .ok fields
  callPayload : call.payload = .ok payload
  body : payload.body? = some request.body
  authorization : (match url.fromRoot.login? with
    | some login => (basic login).map some
    | none => .ok (header? "authorization" fields)) = .ok request.authorization

theorem made_of_request? {call : Call} {request : WireRequest} (h : call.request? = some request) :
    ∃ address method url fields payload, Made call request address method url fields payload := by
  have hcall : ofCall call = .ok request := by
    unfold Call.request? at h
    cases hcall : ofCall call with
    | error fault =>
      rw [hcall] at h
      cases h
    | ok other =>
      rw [hcall] at h
      cases h
      rfl
  unfold ofCall at hcall
  obtain ⟨callMethod, callUrl, callPayload, callHeaders⟩ := call
  cases callUrl with
  | none => cases hcall
  | some address =>
  obtain ⟨url, hparse, hcall⟩ := exists_of_bind_eq_ok hcall
  obtain ⟨fields, hfields, hcall⟩ := exists_of_bind_eq_ok hcall
  cases callMethod with
  | none => cases hcall
  | some method =>
  obtain ⟨upper, hupper, hcall⟩ := exists_of_bind_eq_ok hcall
  obtain rfl := Except.ok.inj hupper
  obtain ⟨payload, hpayload, hcall⟩ := exists_of_bind_eq_ok hcall
  cases hbody : payload.body? with
  | none =>
    simp only [hbody] at hcall
    cases hcall
  | some body =>
  simp only [hbody] at hcall
  obtain ⟨written, hwritten, hcall⟩ := exists_of_bind_eq_ok hcall
  obtain rfl := Except.ok.inj hwritten
  split at hcall
  · cases hcall
  · cases hlogin : url.fromRoot.login? with
    | none =>
      simp only [hlogin] at hcall
      cases hcall
      exact ⟨address, method, url, fields, payload, rfl, hparse, rfl, rfl, hfields, hpayload, hbody,
        by rw [hlogin]⟩
    | some login =>
      simp only [hlogin] at hcall
      obtain ⟨authorization, hauthorization, hcall⟩ := exists_of_bind_eq_ok hcall
      cases hcall
      exact ⟨address, method, url, fields, payload, rfl, hparse, rfl, rfl, hfields, hpayload, hbody,
        by rw [hlogin]; exact hauthorization⟩

end WireRequest

end SignIn
