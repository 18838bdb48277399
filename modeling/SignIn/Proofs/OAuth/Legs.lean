import SignIn.Proofs.OAuth.Course

/-!
# The legs of a sign-in

A call of the engine falls into three parts. It opens without touching the cache, it then makes at
most one access to the cache, and it settles without touching the cache again. What a whole call
leaves in the journal, in the cache and as its result follows from the three parts.
-/

namespace SignIn

namespace OAuth

/-! ## Opening -/

/-- The configuration with which a call goes on, after all checks that come before the cache. -/
def checkAll (config : AnyConfig) (request : Request) : Except Failure OAuthConfig :=
  match refusal? request with
  | some error => .error (.auth error)
  | none =>
    match config with
    | .oauth config =>
      match configProblem? config with
      | some problem => .error (.auth (.invalidConfig problem))
      | none => .ok config
    | other => .error (.auth (.invalidConfig (.wrongKind .oauth other.kind)))

theorem checkAll_eq_ok_iff {config : AnyConfig} {request : Request} {c : OAuthConfig} :
    checkAll config request = .ok c ↔
      config = .oauth c ∧ refusal? request = none ∧ configProblem? c = none := by
  unfold checkAll
  cases hrefusal : refusal? request with
  | some error => simp
  | none =>
    cases config with
    | oauth config =>
      cases hproblem : configProblem? config with
      | some problem =>
        simp only [hproblem, reduceCtorEq, false_iff]
        rintro ⟨hc, -, hnone⟩
        cases hc
        rw [hproblem] at hnone
        cases hnone
      | none =>
        simp only [hproblem, Except.ok.injEq, AnyConfig.oauth.injEq, true_and]
        constructor
        · rintro rfl
          exact ⟨rfl, hproblem⟩
        · rintro ⟨hc, -⟩
          exact hc
    | _ => simp

/-- The checks hand on the configuration that they are made with. -/
theorem eq_of_checkAll {config : AnyConfig} {request : Request} {c d : OAuthConfig}
    (h : checkAll config request = .ok d) (hconfig : config = .oauth c) : d = c := by
  have hd : config = .oauth d := (checkAll_eq_ok_iff.1 h).1
  exact AnyConfig.oauth.inj (hd.symm.trans hconfig)

/-- What a call is about to do with the cache, and what it needs to go on afterwards. -/
inductive Opening where
  | stores (config : OAuthConfig) (state : Text) (challenge : Option PkceChallenge) (stored : Text)
  | takes (config : OAuthConfig)
  | passes (config : OAuthConfig)

/-- The login that the first leg leaves pending. -/
def pendingLogin (config : OAuthConfig) (request : Request) (state : Text)
    (challenge : Option PkceChallenge) : PendingLogin :=
  ⟨stateKey config request, state, challenge.map PkceChallenge.verifier⟩

def openLogin (settings : Settings) (config : OAuthConfig) (request : Request) :
    Action Opening := do
  let state ← newState config settings.stateEntropy
  let challenge ← newChallenge config
  match (pendingLogin config request state challenge).toJson? with
  | some stored => return .stores config state challenge stored
  | none => Action.faulty .unserializable

def openCall (engine : Engine) (config : AnyConfig) (request : Request) : Action Opening := do
  let config ← Action.ofExcept (checkAll config request)
  match stage config request with
  | .initiating => openLogin engine.settings config request
  | .completing => return if config.usesRedirect then .takes config else .passes config

/-- The state of a new login is that of the caller or else random. -/
inductive IsNewState (config : OAuthConfig) (entropy : Int) : Text → Prop
  | own {state : Text} (present : Text.present? config.state = some state) :
    IsNewState config entropy state
  | random {octets : Octets} (absent : Text.present? config.state = none)
    (nonneg : 0 ≤ entropy) (size : octets.length = entropy.toNat) :
    IsNewState config entropy (Base64.encodeUrl octets)

/-- Whether a new login is to have a challenge. -/
def OAuthConfig.usesPkce (config : OAuthConfig) : Prop :=
  config.enablePkce = true ∧ config.responseType = .code

/-- A new login has a challenge made from a random verifier, if it is to have one at all. -/
inductive IsNewChallenge (config : OAuthConfig) : Option PkceChallenge → Prop
  | none (unused : ¬ OAuthConfig.usesPkce config) : IsNewChallenge config none
  | some {octets : Octets} {challenge : Text} (used : OAuthConfig.usesPkce config)
    (size : octets.length = Pkce.verifierOctets)
    (made : Pkce.challenge? config.challengeMethod (Base64.encodeUrl octets) = some challenge) :
    IsNewChallenge config (some ⟨Base64.encodeUrl octets, challenge, config.challengeMethod⟩)

/-- A login is started with a state and a challenge, and written down to be stored. -/
structure Starts (engine : Engine) (config : AnyConfig) (request : Request) (c : OAuthConfig)
    (state : Text) (challenge : Option PkceChallenge) (stored : Text) : Prop where
  admitted : checkAll config request = .ok c
  initiating : stage c request = .initiating
  isNewState : IsNewState c engine.settings.stateEntropy state
  isNewChallenge : IsNewChallenge c challenge
  toJson? : (pendingLogin c request state challenge).toJson? = some stored

theorem draws_newState (config : OAuthConfig) (entropy : Int) :
    Draws (newState config entropy) fun result =>
      ∀ state, result = .ok state → IsNewState config entropy state := by
  unfold newState
  cases hpresent : Text.present? config.state with
  | some state =>
    exact .of_runIn (fun w => rfl) fun other hother => Except.ok.inj hother ▸ .own hpresent
  | none =>
    intro random
    by_cases hneg : entropy < 0
    · refine ⟨.error (.fault .badValue), random, by simp, ?_⟩
      rintro w rfl
      have htoken : w.random.token? entropy = none := by rw [RandomStream.token?, if_pos hneg]
      simp only [Action.runIn_bind_ok (Action.runIn_get w), htoken]
      rfl
    · refine ⟨.ok (Base64.encodeUrl (random.draw entropy.toNat).1),
        (random.draw entropy.toNat).2, ?_, ?_⟩
      · intro state hstate
        exact Except.ok.inj hstate ▸
          .random hpresent (Int.not_lt.1 hneg) (random.length_draw entropy.toNat)
      · rintro w rfl
        have htoken : w.random.token? entropy =
            some (Base64.encodeUrl (w.random.draw entropy.toNat).1,
              (w.random.draw entropy.toNat).2) := by rw [RandomStream.token?, if_neg hneg]
        simp only [Action.runIn_bind_ok (Action.runIn_get w), htoken]
        rfl

theorem draws_newChallenge (config : OAuthConfig) :
    Draws (newChallenge config) fun result =>
      ∀ challenge, result = .ok challenge → IsNewChallenge config challenge := by
  unfold newChallenge
  split
  · rename_i hused
    have hused : OAuthConfig.usesPkce config := by simpa [OAuthConfig.usesPkce] using hused
    refine (Draws.draw (p := fun result => ∀ made, result = .ok made → ∃ octets : Octets,
      octets.length = Pkce.verifierOctets ∧ made =
        (Pkce.challenge config.challengeMethod (Base64.encodeUrl octets)).map fun challenge =>
          ⟨Base64.encodeUrl octets, challenge, config.challengeMethod⟩) ?_).bind (by simp) ?_
    · intro random made hmade
      exact ⟨_, random.length_draw _, (Except.ok.inj hmade).symm⟩
    · intro made hmade
      obtain ⟨octets, hsize, rfl⟩ := hmade made rfl
      cases hchallenge : Pkce.challenge? config.challengeMethod (Base64.encodeUrl octets) with
      | none =>
        simp only [Pkce.challenge, hchallenge]
        exact .of_runIn (fun w => rfl) (by simp)
      | some challenge =>
        simp only [Pkce.challenge, hchallenge]
        apply Draws.of_runIn (fun w => rfl)
        intro other hother
        rw [← Except.ok.inj hother]
        exact .some hused hsize hchallenge
  · rename_i hunused
    have hunused : ¬ OAuthConfig.usesPkce config := by simpa [OAuthConfig.usesPkce] using hunused
    exact .of_runIn (fun w => rfl) fun other hother => Except.ok.inj hother ▸ .none hunused

/-- What opening a call comes to. A call that completes a sign-in opens whenever it is admitted. -/
inductive Opens (engine : Engine) (config : AnyConfig) (request : Request) :
    Except Failure Opening → Prop
  | failed (failure : Failure)
    (initiating : ∀ c, checkAll config request = .ok c → stage c request = .initiating) :
    Opens engine config request (.error failure)
  | stores {c : OAuthConfig} {state : Text} {challenge : Option PkceChallenge} {stored : Text}
    (starts : Starts engine config request c state challenge stored) :
    Opens engine config request (.ok (.stores c state challenge stored))
  | takes {c : OAuthConfig} (admitted : checkAll config request = .ok c)
    (completing : stage c request = .completing) (redirects : c.usesRedirect = true) :
    Opens engine config request (.ok (.takes c))
  | passes {c : OAuthConfig} (admitted : checkAll config request = .ok c)
    (completing : stage c request = .completing) (direct : c.usesRedirect = false) :
    Opens engine config request (.ok (.passes c))

theorem draws_openCall (engine : Engine) (config : AnyConfig) (request : Request) :
    Draws (openCall engine config request) (Opens engine config request) := by
  unfold openCall
  cases hcheck : checkAll config request with
  | error failure => exact .of_runIn (fun w => rfl) (.failed failure (by simp [hcheck]))
  | ok c =>
    simp only [Action.ofExcept, pure_bind]
    cases hstage : stage c request with
    | initiating =>
      have hinitiating : ∀ c, checkAll config request = .ok c → stage c request = .initiating := by
        intro other hother
        rw [hcheck] at hother
        exact Except.ok.inj hother ▸ hstage
      refine (draws_newState c engine.settings.stateEntropy).bind
        (fun failure _ => .failed failure hinitiating) fun state hstate => ?_
      refine (draws_newChallenge c).bind
        (fun failure _ => .failed failure hinitiating) fun challenge hchallenge => ?_
      cases hstored : (pendingLogin c request state challenge).toJson? with
      | none => exact .of_runIn (fun w => rfl) (.failed _ hinitiating)
      | some stored =>
        exact .of_runIn (fun w => rfl)
          (.stores ⟨hcheck, hstage, hstate state rfl, hchallenge challenge rfl, hstored⟩)
    | completing =>
      cases hredirect : c.usesRedirect with
      | true => exact .of_runIn (fun w => rfl) (.takes hcheck hstage hredirect)
      | false => exact .of_runIn (fun w => rfl) (.passes hcheck hstage hredirect)

/-! ## The access to the cache -/

/-- Makes the access to the cache that a call has opened with, and hands out what was taken. -/
def Opening.access (settings : Settings) (request : Request) : Opening → Action Datum
  | .stores config _ _ stored => do
    Action.cacheSet (.text (stateKey config request)) (.text stored)
      (some (pendingLifetime config settings))
    return .null
  | .takes config => Action.cacheTake (.text (stateKey config request))
  | .passes _ => return .null

def storing (settings : Settings) (config : OAuthConfig) (request : Request) (stored : Text) :
    Event :=
  .cacheSet (.text (stateKey config request)) (.text stored)
    (some (pendingLifetime config settings))

/-- What the cache shows of the login that is pending for a request; null for none. -/
def shown (cache : MemoryCache) (now : Instant) (config : OAuthConfig) (request : Request) :
    Datum :=
  (cache.lookup now (.text (stateKey config request))).getD .null

section shown

variable {cache : MemoryCache} {now : Instant} {config : OAuthConfig} {request : Request}
  {entry : CacheEntry Datum}

theorem shown_of_find? (hfind : cache.find? (.text (stateKey config request)) = some entry)
    (hlive : entry.isLive now = true) : shown cache now config request = entry.value := by
  rw [shown, ExpiringCache.lookup, hfind]
  simp only [hlive, if_true, Option.getD_some]

variable (cache now config request) in
/-- A cache shows the value of a live entry, or nothing. -/
theorem shown_eq_null_or :
    shown cache now config request = .null ∨
      ∃ entry, cache.find? (.text (stateKey config request)) = some entry ∧
        entry.isLive now = true ∧ shown cache now config request = entry.value := by
  cases hfind : cache.find? (.text (stateKey config request)) with
  | none =>
    rw [shown, ExpiringCache.lookup, hfind]
    exact .inl rfl
  | some entry =>
    by_cases hlive : entry.isLive now = true
    · exact .inr ⟨entry, rfl, hlive, shown_of_find? hfind hlive⟩
    · rw [shown, ExpiringCache.lookup, hfind]
      simp [hlive]

end shown

structure Touch where
  result : Except Failure Datum
  cache : MemoryCache
  events : List Event

def Opening.touch (settings : Settings) (request : Request) (now : Instant) (cache : MemoryCache) :
    Opening → Touch
  | .stores config _ _ stored =>
    match cache.set now (.text (stateKey config request)) (.text stored)
      (some (pendingLifetime config settings)) with
    | .ok after =>
      ⟨.ok .null, after, [storing settings config request stored,
        .logged (MemoryCache.storedRecord (.text (stateKey config request))
          (some (pendingLifetime config settings)))]⟩
    | .error fault => ⟨.error (.fault fault), cache, [storing settings config request stored]⟩
  | .takes config =>
    ⟨.ok (shown cache now config request), cache.erase (.text (stateKey config request)),
      [.cacheTake (.text (stateKey config request)) (shown cache now config request)]⟩
  | .passes _ => ⟨.ok .null, cache, []⟩

theorem touch_of_set {settings : Settings} {request : Request} {now : Instant}
    {cache after : MemoryCache} {config : OAuthConfig} {state stored : Text}
    {challenge : Option PkceChallenge}
    (hset : cache.set now (.text (stateKey config request)) (.text stored)
      (some (pendingLifetime config settings)) = .ok after) :
    (Opening.stores config state challenge stored).touch settings request now cache =
      ⟨.ok .null, after, [storing settings config request stored,
        .logged (MemoryCache.storedRecord (.text (stateKey config request))
          (some (pendingLifetime config settings)))]⟩ := by
  simp only [Opening.touch, hset]

theorem touch_of_set_error {settings : Settings} {request : Request} {now : Instant}
    {cache : MemoryCache} {config : OAuthConfig} {state stored : Text}
    {challenge : Option PkceChallenge} {fault : Fault}
    (hset : cache.set now (.text (stateKey config request)) (.text stored)
      (some (pendingLifetime config settings)) = .error fault) :
    (Opening.stores config state challenge stored).touch settings request now cache =
      ⟨.error (.fault fault), cache, [storing settings config request stored]⟩ := by
  simp only [Opening.touch, hset]

theorem runIn_access (settings : Settings) (request : Request) (opening : Opening) (w : World) :
    (opening.access settings request).runIn w =
      ((opening.touch settings request w.clock w.cache).result, { w with
        cache := (opening.touch settings request w.clock w.cache).cache
        journal := w.journal ++ (opening.touch settings request w.clock w.cache).events }) := by
  cases opening with
  | stores config state challenge stored =>
    cases hset : w.cache.set w.clock (.text (stateKey config request)) (.text stored)
      (some (pendingLifetime config settings)) with
    | ok after =>
      rw [touch_of_set hset, Opening.access, Action.runIn_bind, Action.runIn_cacheSet_text, hset]
      rfl
    | error fault =>
      rw [touch_of_set_error hset, Opening.access, Action.runIn_bind,
        Action.runIn_cacheSet_text, hset]
      rfl
  | takes config => rfl
  | passes config =>
    simp only [Opening.access, Opening.touch, List.append_nil]
    rfl

/-! ## Settling -/

def Opening.settle (mapper : Mapper) (request : Request) (taken : Datum) : Opening → Action Outcome
  | .stores config state challenge _ => do
    Action.log .info .oauthEngine ["OAuth2 flow initiated: ", config.platform, " (response_type=",
      config.responseType.name, ", pkce=", (Datum.bool challenge.isSome).display, ")"]
    return .redirect (← Action.ofFault (authorizationUrl config state challenge))
  | .takes config => return .user (← completeAfter mapper config request taken)
  | .passes config => return .user (← completeAfter mapper config request taken)

inductive Settles (mapper : Mapper) (request : Request) (replies : List Reply) (taken : Datum) :
    Opening → List Event → Except Failure Outcome → Prop
  | redirected (config : OAuthConfig) (state : Text) (challenge : Option PkceChallenge)
    (stored : Text) :
    Settles mapper request replies taken (.stores config state challenge stored) []
      (((authorizationUrl config state challenge).mapError .fault).map .redirect)
  | taken {config : OAuthConfig} {es : List Event} {result : Except Failure User}
    (course : Course mapper config replies (tokenSource config request taken) es result) :
    Settles mapper request replies taken (.takes config) es (result.map .user)
  | passed {config : OAuthConfig} {es : List Event} {result : Except Failure User}
    (course : Course mapper config replies (tokenSource config request taken) es result) :
    Settles mapper request replies taken (.passes config) es (result.map .user)

theorem Does.map {α β : Type} {action : Action α} {f : α → β} {replies : List Reply}
    {p : List Event → List Reply → Except Failure α → Prop}
    {q : List Event → List Reply → Except Failure β → Prop} (h : Does action replies p)
    (hf : ∀ es rest result, p es rest result → q es rest (result.map f)) :
    Does (action >>= fun a => pure (f a)) replies q := by
  apply h.bind fun es rest failure => hf es rest (.error failure)
  intro es rest a ha
  apply of_runIn fun w => rfl
  rw [List.append_nil]
  exact hf es rest (.ok a) ha

theorem does_settle (mapper : Mapper) (request : Request) (taken : Datum) (opening : Opening)
    (replies : List Reply) :
    Does (opening.settle mapper request taken) replies fun es _ result =>
      Settles mapper request replies taken opening es result := by
  cases opening with
  | stores config state challenge stored =>
    have hredirected : Settles mapper request replies taken _ _ _ :=
      .redirected config state challenge stored
    unfold Opening.settle
    refine .log_bind ?_
    cases hurl : authorizationUrl config state challenge with
    | error fault =>
      rw [hurl] at hredirected
      exact .of_runIn (fun w => rfl) hredirected
    | ok url =>
      rw [hurl] at hredirected
      exact .of_runIn (fun w => rfl) hredirected
  | takes config =>
    exact (does_completeAfter mapper config request taken replies).map fun _ _ _ h => .taken h
  | passes config =>
    exact (does_completeAfter mapper config request taken replies).map fun _ _ _ h => .passed h

/-! ## The three parts together -/

theorem initiate_eq (engine : Engine) (config : OAuthConfig) (request : Request) :
    (initiate engine.settings config request >>= fun url => pure (.redirect url)) =
      openLogin engine.settings config request >>= fun opening =>
        opening.access engine.settings request >>= fun taken =>
          opening.settle engine.mapper request taken := by
  unfold initiate openLogin
  simp only [bind_assoc]
  refine congrArg _ (funext fun state => congrArg _ (funext fun challenge => ?_))
  unfold pendingLogin
  cases hstored : PendingLogin.toJson? ⟨stateKey config request, state,
      challenge.map PkceChallenge.verifier⟩ with
  | some stored => simp only [pure_bind, bind_assoc, Opening.access, Opening.settle]
  | none => rfl

theorem obtainToken_eq (config : OAuthConfig) (request : Request) :
    obtainToken config request =
      (if config.usesRedirect then Action.cacheTake (.text (stateKey config request))
        else pure .null) >>= tokenAfter config request := by
  unfold obtainToken tokenAfter OAuthConfig.usesRedirect
  cases config.grantType with
  | clientCredentials => rfl
  | password => rfl
  | authorizationCode =>
    cases hcode : request.get "code" with
    | none =>
      simp only [GrantType.usesRedirect, if_true, codeToken, hcode, consumeState_eq, bind_assoc]
    | some code =>
      simp only [GrantType.usesRedirect, if_true, codeToken, hcode, consumeState_eq, bind_assoc]
  | implicit =>
    simp only [GrantType.usesRedirect, if_true, implicitToken, consumeState_eq, bind_assoc]

theorem complete_eq (engine : Engine) (config : OAuthConfig) (request : Request) :
    (complete engine.mapper config request >>= fun user => pure (.user user)) =
      (pure (if config.usesRedirect then .takes config else .passes config) : Action Opening) >>=
        fun opening => opening.access engine.settings request >>= fun taken =>
          opening.settle engine.mapper request taken := by
  have hcomplete : complete engine.mapper config request =
      obtainToken config request >>= identify engine.mapper config := rfl
  rw [hcomplete, obtainToken_eq, pure_bind]
  cases config.usesRedirect with
  | true => simp only [if_true, bind_assoc, Opening.access, Opening.settle, completeAfter]
  | false =>
    simp only [Bool.false_eq_true, if_false, bind_assoc, Opening.access, Opening.settle,
      completeAfter]

/-- A call is its three parts, one after the other. -/
theorem authenticate_eq (engine : Engine) (config : AnyConfig) (request : Request) :
    authenticate engine config request =
      openCall engine config request >>= fun opening =>
        opening.access engine.settings request >>= fun taken =>
          opening.settle engine.mapper request taken := by
  unfold authenticate openCall checkAll checkRefusal
  cases refusal? request with
  | some error => rfl
  | none =>
    cases config with
    | oauth config =>
      simp only [Action.ofExcept, pure_bind, authenticateWith, checkConfig]
      cases configProblem? config with
      | some problem => rfl
      | none =>
        simp only [pure_bind]
        cases stage config request with
        | initiating => exact initiate_eq engine config request
        | completing => exact complete_eq engine config request
    | _ => rfl

/-! ## What a whole call leaves -/

/-- What one call comes to at a moment, with a cache and the replies to come: its deeds, its result
and the cache that it leaves. -/
inductive Leg (engine : Engine) (config : AnyConfig) (request : Request) (now : Instant)
    (cache : MemoryCache) (replies : List Reply) :
    List Event → Except Failure Outcome → MemoryCache → Prop
  | unopened (failure : Failure)
    (initiating : ∀ c, checkAll config request = .ok c → stage c request = .initiating) :
    Leg engine config request now cache replies [] (.error failure) cache
  | unstored {c : OAuthConfig} {state : Text} {challenge : Option PkceChallenge} {stored : Text}
    {fault : Fault} (starts : Starts engine config request c state challenge stored)
    (unset : cache.set now (.text (stateKey c request)) (.text stored)
      (some (pendingLifetime c engine.settings)) = .error fault) :
    Leg engine config request now cache replies [storing engine.settings c request stored]
      (.error (.fault fault)) cache
  | stored {c : OAuthConfig} {state : Text} {challenge : Option PkceChallenge} {stored : Text}
    {after : MemoryCache} (starts : Starts engine config request c state challenge stored)
    (set : cache.set now (.text (stateKey c request)) (.text stored)
      (some (pendingLifetime c engine.settings)) = .ok after) :
    Leg engine config request now cache replies [storing engine.settings c request stored]
      (((authorizationUrl c state challenge).mapError .fault).map .redirect) after
  | returned {c : OAuthConfig} {es : List Event} {result : Except Failure User}
    (admitted : checkAll config request = .ok c) (completing : stage c request = .completing)
    (redirects : c.usesRedirect = true)
    (course : Course engine.mapper c replies (tokenSource c request (shown cache now c request)) es
      result) :
    Leg engine config request now cache replies
      (.cacheTake (.text (stateKey c request)) (shown cache now c request) :: es)
      (result.map .user) (cache.erase (.text (stateKey c request)))
  | direct {c : OAuthConfig} {es : List Event} {result : Except Failure User}
    (admitted : checkAll config request = .ok c) (completing : stage c request = .completing)
    (direct : c.usesRedirect = false)
    (course : Course engine.mapper c replies (tokenSource c request .null) es result) :
    Leg engine config request now cache replies es (result.map .user) cache

/-- A call whose access has failed ends there. -/
theorem runIn_of_touch_error {engine : Engine} {request : Request} {opening : Opening} {w : World}
    {failure : Failure} {after : MemoryCache} {events : List Event}
    (htouch : opening.touch engine.settings request w.clock w.cache =
      ⟨.error failure, after, events⟩) :
    (opening.access engine.settings request >>= fun taken =>
      opening.settle engine.mapper request taken).runIn w =
        (.error failure, ⟨w.clock, w.random, after, w.replies, w.journal ++ events⟩) := by
  apply Action.runIn_bind_error
  rw [runIn_access, htouch]

/-- A call whose access has succeeded goes on to settle. -/
theorem runIn_of_touch {engine : Engine} {request : Request} (opening : Opening) {w : World}
    {taken : Datum} {after : MemoryCache} {events : List Event}
    (htouch : opening.touch engine.settings request w.clock w.cache = ⟨.ok taken, after, events⟩) :
    ∃ result settled rest,
      (opening.access engine.settings request >>= fun taken =>
        opening.settle engine.mapper request taken).runIn w =
          (result, ⟨w.clock, w.random, after, rest, w.journal ++ (events ++ settled)⟩) ∧
      Settles engine.mapper request w.replies taken opening (deeds settled) result := by
  obtain ⟨result, settled, rest, hsettles, hrun⟩ :=
    does_settle engine.mapper request taken opening w.replies
  refine ⟨result, settled, rest, ?_, hsettles⟩
  have haccess := runIn_access engine.settings request opening w
  rw [htouch] at haccess
  have hsettle := hrun ⟨w.clock, w.random, after, w.replies, w.journal ++ events⟩ rfl
  rw [Action.runIn_bind_ok haccess, hsettle]
  simp only [World.advance, List.append_assoc]

section opened

variable {engine : Engine} {config : AnyConfig} {request : Request} {opening : Opening}
  {now : Instant} {cache after : MemoryCache} {replies : List Reply} {events es : List Event}

/-- A call whose access has failed is a leg without more. -/
theorem leg_of_touch_error {failure : Failure}
    (hopens : Opens engine config request (.ok opening))
    (htouch : opening.touch engine.settings request now cache = ⟨.error failure, after, events⟩) :
    Leg engine config request now cache replies (deeds events) (.error failure) after := by
  cases hopens with
  | @stores c state challenge stored starts =>
    cases hset : cache.set now (.text (stateKey c request)) (.text stored)
      (some (pendingLifetime c engine.settings)) with
    | error fault =>
      rw [touch_of_set_error hset] at htouch
      cases htouch
      exact .unstored starts hset
    | ok stocked =>
      rw [touch_of_set hset] at htouch
      cases htouch
  | takes hadmitted hcompleting hredirects => cases htouch
  | passes hadmitted hcompleting hdirect => cases htouch

/-- A call whose access has succeeded is a leg together with what settling it comes to. -/
theorem leg_of_settles {taken : Datum} {result : Except Failure Outcome}
    (hopens : Opens engine config request (.ok opening))
    (htouch : opening.touch engine.settings request now cache = ⟨.ok taken, after, events⟩)
    (hsettles : Settles engine.mapper request replies taken opening es result) :
    Leg engine config request now cache replies (deeds events ++ es) result after := by
  cases hopens with
  | @stores c state challenge stored starts =>
    cases hset : cache.set now (.text (stateKey c request)) (.text stored)
      (some (pendingLifetime c engine.settings)) with
    | error fault =>
      rw [touch_of_set_error hset] at htouch
      cases htouch
    | ok stocked =>
      rw [touch_of_set hset] at htouch
      cases htouch
      cases hsettles with
      | redirected => exact .stored starts hset
  | takes hadmitted hcompleting hredirects =>
    cases htouch
    cases hsettles with
    | taken course => exact .returned hadmitted hcompleting hredirects course
  | passes hadmitted hcompleting hdirect =>
    cases htouch
    cases hsettles with
    | passed course => exact .direct hadmitted hcompleting hdirect course

/-- A call that has opened is a leg of a sign-in. -/
theorem leg_of_opening (hopens : Opens engine config request (.ok opening)) (w : World) :
    ∃ result events rest after,
      (opening.access engine.settings request >>= fun taken =>
        opening.settle engine.mapper request taken).runIn w =
          (result, ⟨w.clock, w.random, after, rest, w.journal ++ events⟩) ∧
      Leg engine config request w.clock w.cache w.replies (deeds events) result after := by
  rcases htouch : opening.touch engine.settings request w.clock w.cache with
    ⟨failure | taken, after, events⟩
  · exact ⟨_, _, _, _, runIn_of_touch_error htouch, leg_of_touch_error hopens htouch⟩
  · obtain ⟨result, settled, rest, hrun, hsettles⟩ := runIn_of_touch opening htouch
    refine ⟨result, _, rest, after, hrun, ?_⟩
    rw [deeds_append]
    exact leg_of_settles hopens htouch hsettles

end opened

/-- Every call is a leg of a sign-in. -/
theorem leg_authenticate (engine : Engine) (config : AnyConfig) (request : Request) (w : World) :
    ∃ result events rest random after,
      (authenticate engine config request).runIn w =
        (result, ⟨w.clock, random, after, rest, w.journal ++ events⟩) ∧
      Leg engine config request w.clock w.cache w.replies (deeds events) result after := by
  obtain ⟨opened, random, hopens, hrun⟩ := draws_openCall engine config request w.random
  rw [authenticate_eq]
  cases opened with
  | error failure =>
    refine ⟨.error failure, [], w.replies, random, w.cache, ?_, ?_⟩
    · rw [Action.runIn_bind_error (hrun w rfl), List.append_nil]
    · cases hopens with
      | failed failure hinitiating => exact .unopened failure hinitiating
  | ok opening =>
    obtain ⟨result, events, rest, after, hrest, hleg⟩ :=
      leg_of_opening hopens { w with random := random }
    exact ⟨result, events, rest, random, after, by rw [Action.runIn_bind_ok (hrun w rfl), hrest],
      hleg⟩

/-! ## What a leg tells of its call -/

section leg

variable {engine : Engine} {config : AnyConfig} {request : Request} {now : Instant}
  {cache after : MemoryCache} {replies : List Reply} {es : List Event}
  {result : Except Failure Outcome} {c : OAuthConfig}

theorem not_redirect_map {found : Except Failure User} {url : Text} :
    found.map Outcome.user ≠ .ok (.redirect url) := by
  cases found <;> simp [Except.map]

theorem not_user_map {url : Except Fault Text} {user : User} :
    (url.mapError Failure.fault).map Outcome.redirect ≠ .ok (.user user) := by
  cases url <;> nofun

/-- A redirect comes from a login that has been started and stored. -/
theorem starts_of_redirect {url : Text}
    (h : Leg engine config request now cache replies es (.ok (.redirect url)) after) :
    ∃ c state challenge stored, Starts engine config request c state challenge stored ∧
      es = [storing engine.settings c request stored] ∧
      cache.set now (.text (stateKey c request)) (.text stored)
        (some (pendingLifetime c engine.settings)) = .ok after ∧
      authorizationUrl c state challenge = .ok url := by
  generalize hresult : (.ok (.redirect url) : Except Failure Outcome) = result at h
  cases h with
  | unopened failure hinitiating => cases hresult
  | unstored starts hset => cases hresult
  | @stored c state challenge stored after starts hset =>
    refine ⟨c, state, challenge, stored, starts, rfl, hset, ?_⟩
    cases hurl : authorizationUrl c state challenge with
    | error fault =>
      rw [hurl] at hresult
      cases hresult
    | ok other =>
      rw [hurl] at hresult
      cases hresult
      rfl
  | returned admitted completing redirects course => exact absurd hresult.symm not_redirect_map
  | direct admitted completing hdirect course => exact absurd hresult.symm not_redirect_map

/-- A callback that passes the earlier checks takes the stored login, and its course follows. -/
theorem course_of_callback (h : Leg engine config request now cache replies es result after)
    (hcheck : checkAll config request = .ok c) (hredirects : c.usesRedirect = true)
    (hcallback : isCallback c request = true) :
    ∃ rest found, es = .cacheTake (.text (stateKey c request)) (shown cache now c request) :: rest ∧
      result = found.map .user ∧
      Course engine.mapper c replies (tokenSource c request (shown cache now c request)) rest
        found := by
  have hstage : stage c request = .completing := by simp [stage, hcallback]
  cases h with
  | unopened other hinitiating =>
    rw [hinitiating c hcheck] at hstage
    cases hstage
  | unstored starts hset =>
    obtain rfl := Except.ok.inj (starts.admitted.symm.trans hcheck)
    rw [starts.initiating] at hstage
    cases hstage
  | stored starts hset =>
    obtain rfl := Except.ok.inj (starts.admitted.symm.trans hcheck)
    rw [starts.initiating] at hstage
    cases hstage
  | @returned d es found admitted completing redirects course =>
    obtain rfl := Except.ok.inj (admitted.symm.trans hcheck)
    exact ⟨es, found, rfl, rfl, course⟩
  | @direct d es found admitted completing hdirect course =>
    obtain rfl := Except.ok.inj (admitted.symm.trans hcheck)
    rw [hdirect] at hredirects
    cases hredirects

end leg

end OAuth

end SignIn
