import SignIn.Proofs.OAuth.Persistence
import SignIn.Proofs.OAuth.Results

/-!
# When a login can begin

The first leg does not depend on the provider, so it can be told from the configuration, the
request, the settings and the clock alone whether it begins a login. It never fails with an error of
the library: where it begins no login, it ends in a fault.
-/

namespace SignIn

namespace OAuth

/-- An action that draws only has one result, which everything holds of that is known of it. -/
theorem Draws.and {α : Type} {action : Action α} {p q : Except Failure α → Prop}
    (hp : Draws action p) (hq : Draws action q) :
    Draws action fun result => p result ∧ q result := by
  intro random
  obtain ⟨result, after, hresult, hrun⟩ := hp random
  obtain ⟨other, after', hother, hrun'⟩ := hq random
  have hsame : result = other := by
    have hfirst := hrun (World.start 0 random) rfl
    have hsecond := hrun' (World.start 0 random) rfl
    exact congrArg Prod.fst (hfirst.symm.trans hsecond)
  exact ⟨result, after, ⟨hresult, hsame ▸ hother⟩, hrun⟩

/-! ## Opening -/

/-- A login can be opened: there is enough randomness, or a state of the caller that can be written,
and the key can be written. -/
structure CanOpen (settings : Settings) (c : OAuthConfig) (request : Request) : Prop where
  entropy : Text.present? c.state = none → 0 ≤ settings.stateEntropy
  state : ∀ t, Text.present? c.state = some t → Utf8.encodable t = true
  key : Utf8.encodable (stateKey c request) = true

/-- A new state is missing only for want of randomness. -/
theorem draws_newState_error (c : OAuthConfig) (entropy : Int) :
    Draws (newState c entropy) fun result => ∀ failure, result = .error failure →
      failure = .fault .badValue ∧ Text.present? c.state = none ∧ entropy < 0 := by
  unfold newState
  cases hpresent : Text.present? c.state with
  | some state => exact .of_runIn (fun w => rfl) (by simp)
  | none =>
    intro random
    cases htoken : random.token? entropy with
    | none =>
      have hnegative : entropy < 0 := by
        apply Int.not_le.1
        intro hnonneg
        rw [RandomStream.token?, if_neg (Int.not_lt.2 hnonneg)] at htoken
        cases htoken
      refine ⟨.error (.fault .badValue), random, ?_, ?_⟩
      · intro failure hfailure
        exact ⟨(Except.error.inj hfailure).symm, rfl, hnegative⟩
      · rintro w rfl
        simp only [Action.runIn_bind_ok (Action.runIn_get w), htoken]
        rfl
    | some drawn =>
      refine ⟨.ok drawn.1, drawn.2, by simp, ?_⟩
      rintro w rfl
      simp only [Action.runIn_bind_ok (Action.runIn_get w), htoken]
      rfl

/-- A verifier that is made from octets has a challenge. -/
theorem exists_challenge (method : ChallengeMethod) (octets : Octets) :
    ∃ challenge, Pkce.challenge method (Base64.encodeUrl octets) = .ok challenge := by
  obtain ⟨challenge, hchallenge⟩ := Pkce.exists_challenge? method octets
  exact ⟨challenge, by rw [Pkce.challenge, hchallenge]⟩

/-- A challenge that is wanted is always made. -/
theorem draws_newChallenge_ok (c : OAuthConfig) :
    Draws (newChallenge c) fun result => ∃ challenge, result = .ok challenge := by
  unfold newChallenge
  split
  · have hmade : Draws (Action.draw (Pkce.generate c.challengeMethod)) fun result =>
        ∃ challenge, result = .ok (.ok challenge) := by
      apply Draws.draw
      intro random
      obtain ⟨challenge, hchallenge⟩ :=
        exists_challenge c.challengeMethod (random.draw Pkce.verifierOctets).1
      let verifier := (Pkce.drawVerifier random).1
      refine ⟨⟨verifier, challenge, c.challengeMethod⟩, congrArg Except.ok ?_⟩
      exact congrArg (Except.map fun made => PkceChallenge.mk verifier made _) hchallenge
    apply hmade.bind (by simp)
    rintro _ ⟨challenge, hchallenge⟩
    obtain rfl := Except.ok.inj hchallenge
    exact .of_runIn (fun w => rfl) ⟨_, rfl⟩
  · exact .of_runIn (fun w => rfl) ⟨_, rfl⟩

/-- A new login can be written if its key and the state of the caller can. -/
theorem canOpen_iff_of_new {settings : Settings} {c : OAuthConfig} {request : Request}
    {state : Text} {challenge : Option PkceChallenge}
    (hstate : IsNewState c settings.stateEntropy state) (hchallenge : IsNewChallenge c challenge) :
    CanOpen settings c request ↔
      (pendingLogin c request state challenge).toJson?.isSome = true := by
  have hverifier : ∀ v, challenge.map PkceChallenge.verifier = some v →
      Utf8.encodable v = true := by
    intro v hv
    cases hchallenge with
    | none unused => cases hv
    | some used size made =>
      rw [← Option.some.inj hv]
      exact Base64.encodable_encodeUrl _
  rw [PendingLogin.toJson?_isSome, PendingLogin.encodable_iff]
  constructor
  · intro h
    refine ⟨h.key, ?_, hverifier⟩
    cases hstate with
    | own present => exact h.state _ present
    | random absent nonneg size => exact Base64.encodable_encodeUrl _
  · rintro ⟨hkey, hencodable, -⟩
    cases hstate with
    | own present =>
      refine ⟨fun habsent => ?_, fun t ht => ?_, hkey⟩
      · rw [present] at habsent
        cases habsent
      · rw [present] at ht
        exact Option.some.inj ht ▸ hencodable
    | random absent nonneg size =>
      refine ⟨fun _ => nonneg, fun t ht => ?_, hkey⟩
      rw [absent] at ht
      cases ht

/-- A login that can be opened is opened, and opening any other ends in a fault. -/
theorem draws_openLogin (settings : Settings) (c : OAuthConfig) (request : Request) :
    Draws (openLogin settings c request) fun result =>
      (CanOpen settings c request ∧ ∃ opening, result = .ok opening) ∨
        (¬ CanOpen settings c request ∧ ∃ fault, result = .error (.fault fault)) := by
  apply ((draws_newState c settings.stateEntropy).and (draws_newState_error c _)).bind
  · rintro failure ⟨-, herror⟩
    obtain ⟨rfl, habsent, hnegative⟩ := herror failure rfl
    exact .inr ⟨fun h => absurd (h.entropy habsent) (Int.not_le.2 hnegative), _, rfl⟩
  · rintro state ⟨hstate, -⟩
    apply ((draws_newChallenge c).and (draws_newChallenge_ok c)).bind
    · rintro failure ⟨-, challenge, hchallenge⟩
      cases hchallenge
    · rintro challenge ⟨hchallenge, -⟩
      have hcan : CanOpen settings c request ↔ _ :=
        canOpen_iff_of_new (hstate state rfl) (hchallenge challenge rfl)
      cases hstored : (pendingLogin c request state challenge).toJson? with
      | none =>
        rw [hstored] at hcan
        exact .of_runIn (fun w => rfl) (.inr ⟨fun h => absurd (hcan.1 h) (by simp), _, rfl⟩)
      | some stored =>
        rw [hstored] at hcan
        exact .of_runIn (fun w => rfl) (.inl ⟨hcan.2 rfl, _, rfl⟩)

/-! ## Beginning -/

/-- A login can begin: it can be opened, its expiry can be told, and the texts of the configuration
can be written into the authorization address. -/
structure CanBegin (settings : Settings) (c : OAuthConfig) (request : Request) (now : Instant) :
    Prop where
  opens : CanOpen settings c request
  lifetime : ∃ expiresAt, expiry now (some (pendingLifetime c settings)) = .ok expiresAt
  address : AddressEncodable c

section begin

variable {engine : Engine} {config : AnyConfig} {request : Request} {c : OAuthConfig}
  {state stored : Text} {challenge : Option PkceChallenge}

/-- A login whose expiry cannot be told ends in a fault when it is stored. -/
theorem result_of_expiry_error {w : World} {fault : Fault}
    (hexpiry : expiry w.clock (some (pendingLifetime c engine.settings)) = .error fault) :
    (((Opening.stores c state challenge stored).access engine.settings request >>= fun taken =>
      (Opening.stores c state challenge stored).settle engine.mapper request taken).runIn w).1 =
        .error (.fault fault) := by
  rw [runIn_of_touch_error
    (touch_of_set_error (ExpiringCache.set_of_expiry_error w.cache _ _ hexpiry))]

/-- A login whose expiry can be told is stored, and its result is that of the address. -/
theorem result_of_expiry_ok {w : World} {random : RandomStream} {expiresAt : Option Instant}
    (hexpiry : expiry w.clock (some (pendingLifetime c engine.settings)) = .ok expiresAt) :
    (((Opening.stores c state challenge stored).access engine.settings request >>= fun taken =>
      (Opening.stores c state challenge stored).settle engine.mapper request taken).runIn
        { w with random := random }).1 =
        ((authorizationUrl c state challenge).mapError .fault).map .redirect := by
  obtain ⟨after, hset⟩ := ExpiringCache.exists_set_of_expiry w.cache
    (.text (stateKey c request)) (.text stored) hexpiry
  have htouch : ((Opening.stores c state challenge stored).touch engine.settings request w.clock
      w.cache).result = .ok .null := by rw [touch_of_set hset]
  have hsettle : ComesTo ((Opening.stores c state challenge stored).settle engine.mapper request
      .null) w.replies (((authorizationUrl c state challenge).mapError .fault).map .redirect)
      w.replies := by
    apply ComesTo.log_bind
    cases authorizationUrl c state challenge with
    | error fault => exact .of_error fun w => rfl
    | ok url => exact .of_runIn fun w => rfl
  exact result_of_access _ htouch hsettle

/-- A first leg that has opened is about to store a login. -/
theorem starts_of_opens {opening : Opening} (h : Opens engine config request (.ok opening))
    (hcheck : checkAll config request = .ok c) (hstage : stage c request = .initiating) :
    ∃ state challenge stored, opening = .stores c state challenge stored ∧
      Starts engine config request c state challenge stored := by
  cases h with
  | @stores d state challenge stored hstarts =>
    obtain rfl := Except.ok.inj (hstarts.admitted.symm.trans hcheck)
    exact ⟨state, challenge, stored, rfl, hstarts⟩
  | takes hadmitted hcompleting =>
    obtain rfl := Except.ok.inj (hadmitted.symm.trans hcheck)
    cases hstage.symm.trans hcompleting
  | passes hadmitted hcompleting =>
    obtain rfl := Except.ok.inj (hadmitted.symm.trans hcheck)
    cases hstage.symm.trans hcompleting

/-- The first leg begins a login that can begin, and ends in a fault for any other. -/
theorem result_of_initiating (hcheck : checkAll config request = .ok c)
    (hstage : stage c request = .initiating) (w : World) :
    (CanBegin engine.settings c request w.clock ∧
        ∃ url, ((authenticate engine config request).runIn w).1 = .ok (.redirect url)) ∨
      (¬ CanBegin engine.settings c request w.clock ∧
        ∃ fault, ((authenticate engine config request).runIn w).1 = .error (.fault fault)) := by
  have hopen : openCall engine config request = openLogin engine.settings c request := by
    simp only [openCall, hcheck, Action.ofExcept, pure_bind, hstage]
  have hdraws := draws_openCall engine config request
  rw [hopen] at hdraws
  obtain ⟨opened, random, ⟨hopens, hopened⟩, hrun⟩ :=
    hdraws.and (draws_openLogin engine.settings c request) w.random
  rw [authenticate_eq, hopen]
  cases opened with
  | error failure =>
    rw [Action.runIn_bind_error (hrun w rfl)]
    rcases hopened with ⟨-, opening, hok⟩ | ⟨hcannot, fault, herror⟩
    · cases hok
    · obtain rfl := Except.error.inj herror
      exact .inr ⟨fun h => hcannot h.opens, fault, rfl⟩
  | ok opening =>
    rw [Action.runIn_bind_ok (hrun w rfl)]
    have hcan : CanOpen engine.settings c request := by
      rcases hopened with ⟨hcan, -⟩ | ⟨-, fault, herror⟩
      · exact hcan
      · cases herror
    obtain ⟨state, challenge, stored, rfl, hstarts⟩ := starts_of_opens hopens hcheck hstage
    cases hexpiry : expiry w.clock (some (pendingLifetime c engine.settings)) with
    | error fault =>
      refine .inr ⟨?_, fault, result_of_expiry_error hexpiry⟩
      rintro ⟨-, ⟨expiresAt, hok⟩, -⟩
      rw [hexpiry] at hok
      cases hok
    | ok expiresAt =>
      rw [result_of_expiry_ok hexpiry]
      have haddress := exists_url_iff_of_starts hstarts
      cases hurl : authorizationUrl c state challenge with
      | error fault =>
        refine .inr ⟨?_, fault, rfl⟩
        rintro ⟨-, -, hencodable⟩
        obtain ⟨url, hok⟩ := haddress.2 hencodable
        rw [hurl] at hok
        cases hok
      | ok url => exact .inl ⟨⟨hcan, ⟨expiresAt, hexpiry⟩, haddress.1 ⟨url, hurl⟩⟩, url, rfl⟩

end begin

end OAuth

end SignIn
