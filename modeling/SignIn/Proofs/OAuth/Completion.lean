import SignIn.Proofs.Cache.Expiry
import SignIn.Proofs.OAuth.Parameters
import SignIn.Proofs.OAuth.Runs

/-!
# Started logins can be completed

A login that has been started stays in the cache as long as nobody touches its key and its expiry has
not come. A callback that brings back the state of the authorization address is then found right,
and its token is requested with the code and with the verifier of the challenge, if there was one.
-/

namespace SignIn

namespace OAuth

/-! ## Runs that leave a key alone -/

def IsBefore (now : Instant) (expiresAt : Option Instant) : Prop :=
  ∀ t, expiresAt = some t → now < t

/-- No step of a run touches a key, and the clock stays before an expiry. -/
def Undisturbed (engine : Engine) (key : Text) (expiresAt : Option Instant) :
    List Step → World → Prop
  | [], w => IsBefore w.clock expiresAt
  | step :: rest, w => IsBefore w.clock expiresAt ∧
    (∀ e ∈ (step.run engine w).2.journal, ¬ e.Touches w.clock key) ∧
    Undisturbed engine key expiresAt rest (step.run engine w).2

theorem isLive_of_isBefore {now : Instant} {entry : CacheEntry Datum}
    (h : IsBefore now entry.expiresAt) : entry.isLive now = true := by
  unfold CacheEntry.isLive
  split
  · rfl
  · rename_i t ht
    exact decide_eq_true (h t ht)

/-- An entry is still there, and alive, after a run that leaves its key alone. -/
theorem find?_worldAfter {engine : Engine} {key : Text} {entry : CacheEntry Datum}
    {steps : List Step} {w : World} (h : Undisturbed engine key entry.expiresAt steps w)
    (hfind : w.cache.find? (.text key) = some entry) :
    (worldAfter engine steps w).cache.find? (.text key) = some entry ∧
      entry.isLive (worldAfter engine steps w).clock = true := by
  induction steps generalizing w with
  | nil => exact ⟨hfind, isLive_of_isBefore h⟩
  | cons step rest ih =>
    obtain ⟨hbefore, huntouched, hrest⟩ := h
    have haccesses : ∀ e ∈ accesses (step.run engine w).2.journal, ¬ e.Touches w.clock key := by
      intro e he
      exact huntouched e (List.mem_filter.1 he).1
    apply ih hrest
    rw [cache_run]
    exact find?_foldl_effect haccesses (isLive_of_isBefore hbefore) hfind

/-! ## The state of a new login -/

/-- The state of a new login is not blank, unless a random one is to be made of nothing. -/
theorem present?_of_isNewState {config : OAuthConfig} {entropy : Int} {state : Text}
    (h : IsNewState config entropy state)
    (hstate : Text.isPresent config.state = true ∨ 1 ≤ entropy) :
    Text.present? (some state) = some state := by
  cases h with
  | own hpresent =>
    unfold Text.present? at hpresent ⊢
    split at hpresent
    · cases hpresent
    · split at hpresent
      · cases hpresent
      · rename_i hblank
        cases hpresent
        exact if_neg hblank
  | @random octets habsent hnonneg hsize =>
    have hpositive : octets ≠ [] := by
      rintro rfl
      rcases hstate with hpresent | hentropy
      · rw [Text.isPresent, habsent] at hpresent
        cases hpresent
      · rw [List.length_nil] at hsize
        omega
    rw [Text.present?, Base64.isBlank_encodeUrl hpositive]
    rfl

/-- A stored login is found right by a request that brings back its state. -/
theorem stateCheck_of_toJson? {pending : PendingLogin} {stored : Text} {request : Request}
    (hstored : pending.toJson? = some stored)
    (hstate : request.get "state" = some pending.state) :
    stateCheck request (.text stored) = .ok pending := by
  obtain ⟨-, hencodable, -⟩ := PendingLogin.encodable_parts_of_toJson? hstored
  have hmatches : stateMatches pending pending.state = .ok true := by
    unfold stateMatches
    simp [Utf8.encode?_of_encodable hencodable]
  simp only [stateCheck, PendingLogin.ofStored_of_toJson? hstored, hstate, hmatches]

/-- The state that comes back is checked against what the cache shows. -/
theorem consumeState_run (config : OAuthConfig) (request : Request) (w : World) :
    ((consumeState config request).runIn w).1 =
      stateCheck request (shown w.cache w.clock config request) := by
  obtain ⟨result, events, rest, ⟨-, -, rfl⟩, hrun⟩ :=
    does_judgeState config request (shown w.cache w.clock config request) w.replies
  have htake := Action.runIn_cacheTake_text (stateKey config request) w
  rw [consumeState_eq, Action.runIn_bind_ok htake]
  refine congrArg Prod.fst (hrun _ ?_)
  rfl

/-! ## The calls of a course -/

/-- The calls of a journal that post something. -/
def posts (events : List Event) : List Call :=
  (calls events).filter fun call => call.method = some (Text.ofString "POST")

section course

variable {mapper : Mapper} {c : OAuthConfig} {replies : List Reply} {token : AccessToken}
  {form : Record} {es : List Event} {found : Except Failure User}

theorem calls_of_identifies (h : Identifies mapper c replies token es found) :
    calls es = [userInfoCall c.userInfoUrl token.accessToken] := by
  cases h with
  | unclaimed failure => exact calls_deedsOf _
  | mapped answers accepted => rw [calls_append, calls_deedsOf]; rfl

/-- A course that asks for a token posts its form and nothing else. -/
theorem posts_of_course (h : Course mapper c replies (.asks form) es found) :
    posts es = [tokenCall c.tokenUrl form] := by
  have htoken : (tokenCall c.tokenUrl form).method = some (Text.ofString "POST") := rfl
  cases h with
  | unobtained form failure => simp [posts, calls_deedsOf, htoken]
  | @obtained form token es found grants identifies =>
    have hget : (userInfoCall c.userInfoUrl token.accessToken).method ≠
        some (Text.ofString "POST") := by
      change some (Text.ofString "GET") ≠ some (Text.ofString "POST")
      decide
    simp [posts, calls_deedsOf, calls_of_identifies identifies, htoken, hget]

theorem calls_of_carried (h : Course mapper c replies (.carries token) es found) :
    calls es = [userInfoCall c.userInfoUrl token.accessToken] := by
  cases h with
  | carried identifies => exact calls_of_identifies identifies

end course

/-! ## Callbacks to a started login -/

/-- A callback brings back a state under the key of an earlier request, and no refusal. -/
structure BringsBack (request : Request) (state : Text) (callback : Request) : Prop where
  cacheKey_eq : callback.cacheKey = request.cacheKey
  error_absent : callback.get "error" = none
  description_absent : callback.get "error_description" = none
  state_eq : callback.params.lookup ("state" : Text) = some state

/-- What a callback comes to whose state is found right. -/
structure Passes (engine : Engine) (c : OAuthConfig) (callback : Request) (replies : List Reply)
    (challenged : Prop) (w : World) : Prop where
  /-- The check of the state finds the pending login right. -/
  checked : ∃ pending, ((consumeState c callback).runIn w).1 = .ok pending
  /-- The call takes the login, so it gets to that check. -/
  taken : ∃ value, accesses
      ((Step.authenticate (.oauth c) callback replies).run engine w).2.journal =
    [.cacheTake (.text (stateKey c callback)) value]
  /-- A code is posted once, with a verifier if and only if there was a challenge. -/
  asks : c.grantType = .authorizationCode → ∀ code, callback.get "code" = some code →
    Utf8.encodable code = true → ∃ call form body fields,
      posts ((Step.authenticate (.oauth c) callback replies).run engine w).2.journal = [call] ∧
      call.PostsForm c.tokenUrl form ∧
      (Payload.form form).body? = some body ∧ Form.decode? body = some fields ∧
      Form.valuesOf "code" fields = [code] ∧
      (Form.valuesOf "code_verifier" fields ≠ [] ↔ challenged)
  /-- A token of the callback itself is used to fetch the claims. -/
  carries : c.grantType = .implicit → ∀ token, (tokenOfPayload callback.record).1 = .ok token →
    ∃ call, calls ((Step.authenticate (.oauth c) callback replies).run engine w).2.journal =
      [call] ∧ call.GetsAsBearer c.userInfoUrl token.accessToken

theorem stateKey_eq_of_cacheKey {c : OAuthConfig} {request callback : Request}
    (h : callback.cacheKey = request.cacheKey) : stateKey c callback = stateKey c request := by
  rw [stateKey, h]
  rfl

/-- The values of the form by which a code is posted. -/
theorem exists_fields_of_codeForm {c : OAuthConfig} {code : Text} {verifier : Option Text}
    (hconfig : FormEncodable c) (hgrant : c.grantType = .authorizationCode)
    (hcode : Utf8.encodable code = true)
    (hverifier : ∀ v, verifier = some v → Utf8.encodable v = true) :
    ∃ body fields, (Payload.form (codeForm c code verifier)).body? = some body ∧
      Form.decode? body = some fields ∧ Form.valuesOf "code" fields = [code] ∧
      Form.valuesOf "code_verifier" fields = verifier.toList := by
  obtain ⟨body, hbody⟩ := exists_encode?_codeFields hconfig hcode hverifier
  refine ⟨body, codeFields c code verifier, ?_, Form.decode?_of_encode? hbody,
    valuesOf_code_codeFields, valuesOf_verifier_codeFields⟩
  rw [Payload.body?, ofRecord_codeForm hgrant, hbody]

/-- A callback passes whenever the cache still holds the login that it comes back to. -/
theorem passes_of_find? {engine : Engine} {c : OAuthConfig} {request callback : Request}
    {state stored : Text} {challenge : Option PkceChallenge} {entry : CacheEntry Datum}
    {replies : List Reply} {w : World}
    (hstarts : Starts engine (.oauth c) request c state challenge stored)
    (hpresent : Text.present? (some state) = some state) (hconfig : FormEncodable c)
    (hback : BringsBack request state callback)
    (hfind : w.cache.find? (.text (stateKey c request)) = some entry)
    (hvalue : entry.value = .text stored) (hlive : entry.isLive w.clock = true) :
    Passes engine c callback replies (challenge ≠ none) w := by
  have hkey : stateKey c callback = stateKey c request := stateKey_eq_of_cacheKey hback.cacheKey_eq
  have hget : callback.get "state" = some state := by rw [Request.get, hback.state_eq, hpresent]
  have hshown : shown w.cache w.clock c callback = .text stored := by
    rw [← hkey] at hfind
    rw [shown_of_find? hfind hlive, hvalue]
  have hstate : stateCheck callback (.text stored) =
      .ok (pendingLogin c request state challenge) :=
    stateCheck_of_toJson? hstarts.toJson? hget
  have hrefusal : refusal? callback = none := by
    simp [refusal?, hback.error_absent, hback.description_absent]
  have hcheck : checkAll (.oauth c) callback = .ok c :=
    checkAll_eq_ok_iff.2 ⟨rfl, hrefusal, (checkAll_eq_ok_iff.1 hstarts.admitted).2.2⟩
  have hredirects := usesRedirect_of_initiating hstarts.initiating
  have hcallback : isCallback c callback = true := by simp [isCallback, hget]
  obtain ⟨result, -, -, hleg⟩ := run_authenticate engine w (.oauth c) callback replies
  obtain ⟨es, found, hdeeds, -, course⟩ := course_of_callback hleg hcheck hredirects hcallback
  rw [hshown] at course hdeeds
  have hcalls : calls ((Step.authenticate (.oauth c) callback replies).run engine w).2.journal =
      calls es := by
    rw [← calls_deeds, hdeeds]
    rfl
  constructor
  · exact ⟨_, by rw [consumeState_run, hshown, hstate]⟩
  · refine ⟨.text stored, ?_⟩
    rw [← accesses_deeds, hdeeds]
    exact congrArg (List.cons _) (accesses_of_course course)
  · intro hgrant code hcode hencodable
    obtain ⟨-, -, hverifier⟩ := PendingLogin.encodable_parts_of_toJson? hstarts.toJson?
    obtain ⟨body, fields, hbody, hfields, hcodes, hverifiers⟩ :=
      exists_fields_of_codeForm hconfig hgrant hencodable hverifier
    have hsource : tokenSource c callback (.text stored) =
        .asks (codeForm c code (pendingLogin c request state challenge).codeVerifier) := by
      simp only [tokenSource, hgrant, hstate, codeSource, hcode]
    rw [hsource] at course
    refine ⟨_, _, body, fields, ?_, postsForm_tokenCall _ _, hbody, hfields, hcodes, ?_⟩
    · rw [posts, hcalls]
      exact posts_of_course course
    · rw [hverifiers]
      cases challenge <;> simp [pendingLogin]
  · intro hgrant token htoken
    have hsource : tokenSource c callback (.text stored) = .carries token := by
      simp only [tokenSource, hgrant, hstate, carriedSource, htoken]
    rw [hsource] at course
    exact ⟨_, by rw [hcalls, calls_of_carried course], getsAsBearer_userInfoCall _ _⟩

/-- Every started login can be completed: the authorization address holds one state, and a callback
that brings it back passes after every run that leaves the key of the login alone. -/
theorem started_login_completes {engine : Engine} {c : OAuthConfig} {request : Request}
    {replies : List Reply} {w : World} {url : Text} {expiresAt : Option Instant}
    (hconfig : FormEncodable c)
    (hstate : Text.isPresent c.state = true ∨ 1 ≤ engine.settings.stateEntropy)
    (hredirect : ((Step.authenticate (.oauth c) request replies).run engine w).1 =
      .ok (.outcome (.redirect url)))
    (hexpires : ExpiresAt w.clock (some (pendingLifetime c engine.settings)) expiresAt) :
    ∃ parameters state, appended? c url = some parameters ∧
      Form.valuesOf "state" parameters = [state] ∧
      ∀ steps callback answers,
        Undisturbed engine (stateKey c request) expiresAt steps
          ((Step.authenticate (.oauth c) request replies).run engine w).2 →
        BringsBack request state callback →
        Passes engine c callback answers (Form.valuesOf "code_challenge" parameters ≠ [])
          (worldAfter engine steps
            ((Step.authenticate (.oauth c) request replies).run engine w).2) := by
  obtain ⟨result, hresult, -, hleg⟩ := run_authenticate engine w (.oauth c) request replies
  obtain rfl := eq_of_map_outcome (hresult.symm.trans hredirect)
  obtain ⟨d, state, challenge, stored, hstarts, -, hset, hurl⟩ := starts_of_redirect hleg
  obtain rfl : c = d := (eq_of_checkAll hstarts.admitted rfl).symm
  refine ⟨_, state, appended?_of_authorizationUrl hurl,
    valuesOf_state_authorizationParameters c state challenge, ?_⟩
  intro steps callback answers hundisturbed hback
  obtain ⟨stamp, hstamp, hafter⟩ := ExpiringCache.find?_of_set hset
  obtain rfl := Except.ok.inj ((expiresAt_iff.1 hexpires).symm.trans hstamp)
  have hstored := hafter (.text (stateKey c request))
  rw [if_pos rfl] at hstored
  obtain ⟨hfind, hlive⟩ := find?_worldAfter hundisturbed hstored
  have hchallenged : (Form.valuesOf "code_challenge"
      (authorizationParameters c state challenge) ≠ []) = (challenge ≠ none) := by
    rw [valuesOf_challenge_authorizationParameters]
    cases challenge <;> simp
  rw [hchallenged]
  exact passes_of_find? hstarts (present?_of_isNewState hstarts.isNewState hstate) hconfig hback
    hfind rfl hlive

def begun : Except Failure StepResult × World :=
  (Step.authenticate (.oauth codeConfig) ⟨[], none⟩ []).run claimEngine freshWorld

/-- The challenge of the client, which is made from octets that are all zero. -/
def begunChallenge : PkceChallenge :=
  ⟨Base64.encodeUrl (List.replicate 64 0), Base64.encodeUrl (List.replicate 64 0), .plain⟩

/-- When the login of the client expires: after ten minutes, in units of the clock. -/
def begunExpiry : Instant := 600 * (Binary64.one : Int)

theorem undisturbed_of_otherKey {w : World} (h : IsBefore w.clock (some begunExpiry)) :
    Undisturbed claimEngine (stateKey codeConfig ⟨[], none⟩) (some begunExpiry)
      [.cacheDelete "k", .clock (begunExpiry - 1)] w := by
  have hlast : IsBefore (begunExpiry - 1) (some begunExpiry) := by
    intro t ht
    rw [← Option.some.inj ht]
    exact Int.sub_one_lt_of_le (Int.le_refl begunExpiry)
  refine ⟨h, ?_, h, ?_, hlast⟩
  · intro e he
    obtain rfl := List.mem_singleton.1 he
    exact (by decide +kernel : ("k" : Text) ≠ stateKey codeConfig ⟨[], none⟩)
  · intro e he
    cases he

/-- The login of the client expires after ten minutes. -/
theorem expiresAt_begun :
    ExpiresAt freshWorld.clock (some (pendingLifetime codeConfig claimEngine.settings))
      (some begunExpiry) := by
  rw [expiresAt_iff]
  have hoption : (expiry freshWorld.clock
      (some (pendingLifetime codeConfig claimEngine.settings))).toOption =
        some (some begunExpiry) := by decide +kernel
  cases hexpiry : expiry freshWorld.clock
      (some (pendingLifetime codeConfig claimEngine.settings)) with
  | error fault =>
    rw [hexpiry] at hoption
    cases hoption
  | ok t =>
    rw [hexpiry] at hoption
    rw [Option.some.inj hoption]

set_option maxRecDepth 4000 in
/-- The callback of the client passes after another key was removed and the clock has moved. -/
theorem codeRequest_passes :
    Undisturbed claimEngine (stateKey codeConfig ⟨[], none⟩) (some begunExpiry)
        [.cacheDelete "k", .clock (begunExpiry - 1)] begun.2 ∧
      Passes claimEngine codeConfig codeRequest [] True
        (worldAfter claimEngine [.cacheDelete "k", .clock (begunExpiry - 1)] begun.2) := by
  obtain ⟨-, -, hclock, -⟩ :=
    run_authenticate claimEngine freshWorld (.oauth codeConfig) ⟨[], none⟩ []
  have hfresh : IsBefore begun.2.clock (some begunExpiry) := by
    intro t ht
    rw [← Option.some.inj ht, begun, hclock]
    decide +kernel
  have hundisturbed := undisturbed_of_otherKey hfresh
  have hconfig : FormEncodable codeConfig := by
    constructor <;> intro t ht <;> cases ht
    decide
  obtain ⟨url, hmade⟩ : ∃ url, authorizationUrl codeConfig "s1" (some begunChallenge) = .ok url :=
    ⟨_, rfl⟩
  have hurl : begun.1 = .ok (.outcome (.redirect url)) := by
    have hmap : begun.1 = (((authorizationUrl codeConfig "s1" (some begunChallenge)).mapError
        .fault).map .redirect).map .outcome := rfl
    rw [hmap, hmade]
    rfl
  obtain ⟨parameters, state, happended, hstate, hpasses⟩ :=
    started_login_completes hconfig (.inl rfl) hurl expiresAt_begun
  obtain rfl := Option.some.inj (happended.symm.trans (appended?_of_authorizationUrl hmade))
  rw [valuesOf_state_authorizationParameters] at hstate
  obtain rfl := (List.cons.inj hstate).1
  have hback : BringsBack ⟨[], none⟩ "s1" codeRequest := ⟨rfl, rfl, rfl, rfl⟩
  have hpassed := hpasses [.cacheDelete "k", .clock (begunExpiry - 1)] codeRequest []
    hundisturbed hback
  rw [valuesOf_challenge_authorizationParameters] at hpassed
  exact ⟨hundisturbed, by simpa [begun] using hpassed⟩

end OAuth

end SignIn
