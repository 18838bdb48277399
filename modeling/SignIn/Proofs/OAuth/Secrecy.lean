import SignIn.Proofs.OAuth.Beginning
import SignIn.Proofs.OAuth.Twins
import SignIn.Proofs.OAuth.Visibility

/-!
# Logs without secrets

The log of a run does not depend on the secrets in it. Two runs whose steps agree on everything but
the secrets keep matching caches, and every step of one writes the log of its twin.
-/

namespace SignIn

namespace OAuth

/-! ## Caches -/

/-- Two entries are missing together, or expire together and hold matching values. -/
inductive EntriesMatch : Option (CacheEntry Datum) → Option (CacheEntry Datum) → Prop
  | none : EntriesMatch none none
  | some {stored stored' : Datum} (expiresAt : Option Instant)
    (values : StoredMatch stored stored') :
    EntriesMatch (some ⟨stored, expiresAt⟩) (some ⟨stored', expiresAt⟩)

/-- Two caches have matching entries under all keys. -/
def CachesMatch (cache other : MemoryCache) : Prop :=
  ∀ key, EntriesMatch (cache.find? key) (other.find? key)

theorem EntriesMatch.refl (entry : Option (CacheEntry Datum)) : EntriesMatch entry entry := by
  cases entry with
  | none => exact .none
  | some entry => exact .some entry.expiresAt (.same entry.value)

theorem EntriesMatch.filter {entry other : Option (CacheEntry Datum)}
    (h : EntriesMatch entry other) (now : Instant) :
    EntriesMatch (entry.filter (CacheEntry.isLive now)) (other.filter (CacheEntry.isLive now)) := by
  cases h with
  | none => exact .none
  | @some stored stored' expiresAt values =>
    have hlive : CacheEntry.isLive now ⟨stored, expiresAt⟩ =
        CacheEntry.isLive now ⟨stored', expiresAt⟩ := rfl
    rw [Option.filter_some, Option.filter_some, hlive]
    split
    · exact .some expiresAt values
    · exact .none

theorem EntriesMatch.value {entry other : Option (CacheEntry Datum)}
    (h : EntriesMatch entry other) :
    StoredMatch ((entry.map CacheEntry.value).getD .null)
      ((other.map CacheEntry.value).getD .null) := by
  cases h with
  | none => exact .same _
  | some expiresAt values => exact values

namespace CachesMatch

variable {cache other : MemoryCache}

theorem refl (cache : MemoryCache) : CachesMatch cache cache := fun _ => .refl _

theorem erase (h : CachesMatch cache other) (key : CacheKey) :
    CachesMatch (cache.erase key) (other.erase key) := by
  intro k
  rw [ExpiringCache.find?_erase, ExpiringCache.find?_erase]
  split
  · exact .none
  · exact h k

/-- Writes of matching values succeed or fail together, and leave matching caches. -/
theorem set (h : CachesMatch cache other) {stored stored' : Datum}
    (hstored : StoredMatch stored stored') (now : Instant) (key : CacheKey)
    (lifetime : Option Lifetime) :
    EndAlike CachesMatch (cache.set now key stored lifetime)
      (other.set now key stored' lifetime) := by
  cases hexpiry : expiry now lifetime with
  | error fault =>
    rw [ExpiringCache.set_of_expiry_error _ _ _ hexpiry,
      ExpiringCache.set_of_expiry_error _ _ _ hexpiry]
    exact .error _ _
  | ok expiresAt =>
    simp only [ExpiringCache.set, hexpiry]
    apply EndAlike.ok
    intro k
    rw [ExpiringCache.find?_insert, ExpiringCache.find?_insert, ExpiringCache.find?_sweep,
      ExpiringCache.find?_sweep]
    split
    · exact .some expiresAt hstored
    · exact (h k).filter now

/-- Matching caches show matching values. -/
theorem shown (h : CachesMatch cache other) (now : Instant) {c d : OAuthConfig}
    {request request' : Request} (hkeys : stateKey c request = stateKey d request') :
    StoredMatch (OAuth.shown cache now c request) (OAuth.shown other now d request') := by
  rw [shown_eq_held, shown_eq_held, held, held, hkeys]
  exact ((h _).filter now).value

end CachesMatch

/-! ## Opening -/

section opening

variable {c d : OAuthConfig} {request other : Request}

theorem stateKey_eq (hconfigs : ConfigsMatch c d) (hrequests : RequestsMatch request other) :
    stateKey c request = stateKey d other := by
  obtain ⟨-, -⟩ := hconfigs
  rw [stateKey, stateKey, hrequests.cacheKey]
  rfl

theorem checkAll_alike (hconfigs : ConfigsMatch c d) (hrequests : RequestsMatch request other) :
    EndAlike (fun a b => c = a ∧ d = b) (checkAll (.oauth c) request)
      (checkAll (.oauth d) other) := by
  have hproblem : configProblem? d = configProblem? c := by cases hconfigs; rfl
  have hrefusal : refusal? request = refusal? other := by
    rw [refusal?, refusal?, hrequests.get_eq (by decide), hrequests.get_eq (by decide)]
  unfold checkAll
  rw [hrefusal]
  cases refusal? other with
  | some error => exact .error _ _
  | none =>
    dsimp only
    rw [hproblem]
    cases configProblem? c with
    | some problem => exact .error _ _
    | none => exact .ok ⟨rfl, rfl⟩

theorem isCallback_eq (hconfigs : ConfigsMatch c d) (hrequests : RequestsMatch request other) :
    isCallback c request = isCallback d other := by
  have hget (name : Text) : (request.get name).isSome = (other.get name).isSome := by
    rcases (hrequests.get name).none_or_some with ⟨hnone, hnone'⟩ | ⟨t, u, ht, hu, -⟩
    · rw [hnone, hnone']
    · rw [ht, hu]
      rfl
  obtain ⟨-, -⟩ := hconfigs
  rw [isCallback, isCallback, hget, hget]

theorem stage_eq (hconfigs : ConfigsMatch c d) (hrequests : RequestsMatch request other) :
    stage c request = stage d other := by
  rw [stage, stage, isCallback_eq hconfigs hrequests]
  obtain ⟨-, -⟩ := hconfigs
  rfl

theorem canOpen_iff (hconfigs : ConfigsMatch c d) (hrequests : RequestsMatch request other)
    (settings : Settings) : CanOpen settings c request ↔ CanOpen settings d other := by
  have hkeys := stateKey_eq hconfigs hrequests
  obtain ⟨-, -⟩ := hconfigs
  constructor
  · rintro ⟨hentropy, hstate, hkey⟩
    exact ⟨hentropy, hstate, hkeys ▸ hkey⟩
  · rintro ⟨hentropy, hstate, hkey⟩
    exact ⟨hentropy, hstate, hkeys ▸ hkey⟩

/-- Random texts of one length are interchangeable. -/
theorem interchangeable_encodeUrl {octets octets' : Octets}
    (h : octets.length = octets'.length) :
    Interchangeable (fun t => t) (Base64.encodeUrl octets) (Base64.encodeUrl octets') := by
  by_cases hnil : octets = []
  · obtain rfl : octets' = [] := by
      rw [← List.length_eq_zero_iff, ← h, hnil, List.length_nil]
    rw [hnil]
    exact .refl _
  · have hnil' : octets' ≠ [] := by
      rintro rfl
      exact hnil (List.length_eq_zero_iff.1 h)
    exact .of_plain (.encodeUrl hnil) (.encodeUrl hnil')

/-- New logins of matching configurations are interchangeable. -/
theorem newLogin_alike (hconfigs : ConfigsMatch c d) {entropy : Int} {state state' : Text}
    {challenge challenge' : Option PkceChallenge} (hstate : IsNewState c entropy state)
    (hstate' : IsNewState d entropy state') (hchallenge : IsNewChallenge c challenge)
    (hchallenge' : IsNewChallenge d challenge') :
    Interchangeable (fun t => t) state state' ∧ challenge.isSome = challenge'.isSome ∧
      Interchangeable some (challenge.map PkceChallenge.verifier)
        (challenge'.map PkceChallenge.verifier) := by
  obtain ⟨-, -⟩ := hconfigs
  refine ⟨?_, ?_⟩
  · cases hstate with
    | own hpresent =>
      cases hstate' with
      | own hpresent' =>
        obtain rfl := Option.some.inj (hpresent.symm.trans hpresent')
        exact .refl _
      | random habsent hnonneg hsize =>
        cases hpresent.symm.trans habsent
    | random habsent hnonneg hsize =>
      cases hstate' with
      | own hpresent' => cases hpresent'.symm.trans habsent
      | random habsent' hnonneg' hsize' =>
        exact interchangeable_encodeUrl (hsize.trans hsize'.symm)
  · cases hchallenge with
    | none unused =>
      cases hchallenge' with
      | none unused' => exact ⟨rfl, .refl _⟩
      | some used size made => exact absurd used unused
    | some used size made =>
      cases hchallenge' with
      | none unused' => exact absurd used unused'
      | some used' size' made' =>
        exact ⟨rfl, (interchangeable_encodeUrl (size.trans size'.symm)).map some⟩

/-- Two calls with two configurations are about to do the same with the cache. -/
inductive OpeningsMatch (c d : OAuthConfig) (request : Request) : Opening → Opening → Prop
  | stores {state state' stored stored' : Text} {challenge challenge' : Option PkceChallenge}
    (challenges : challenge.isSome = challenge'.isSome)
    (written : StoredMatch (.text stored) (.text stored')) :
    OpeningsMatch c d request (.stores c state challenge stored)
      (.stores d state' challenge' stored')
  | takes (redirects : c.usesRedirect = true) (callback : isCallback c request = true) :
    OpeningsMatch c d request (.takes c) (.takes d)
  | passes : OpeningsMatch c d request (.passes c) (.passes d)

/-- What two actions that draw come to, whatever they draw. -/
theorem exists_runIn_of_draws {α : Type} {action other : Action α}
    {p q : Except Failure α → Prop} {R : α → α → Prop} (hp : Draws action p) (hq : Draws other q)
    (h : ∀ x y, p x → q y → EndAlike R x y) (v w : World) :
    ∃ x y random random', EndAlike R x y ∧ action.runIn v = (x, { v with random := random }) ∧
      other.runIn w = (y, { w with random := random' }) := by
  obtain ⟨x, random, hx, hv⟩ := hp v.random
  obtain ⟨y, random', hy, hw⟩ := hq w.random
  exact ⟨x, y, random, random', h x y hx hy, hv v rfl, hw w rfl⟩

theorem openLogin_alike (engine : Engine) (hconfigs : ConfigsMatch c d)
    (hrequests : RequestsMatch request other)
    (hcheck : checkAll (.oauth c) request = .ok c) (hcheck' : checkAll (.oauth d) other = .ok d)
    (hstage : stage c request = .initiating) (v w : World) :
    ∃ x y random random', EndAlike (OpeningsMatch c d request) x y ∧
      (openCall engine (.oauth c) request).runIn v = (x, { v with random := random }) ∧
      (openCall engine (.oauth d) other).runIn w = (y, { w with random := random' }) := by
  have hstage' : stage d other = .initiating := by rw [← stage_eq hconfigs hrequests, hstage]
  have hdraws := draws_openCall engine (.oauth c) request
  have hdraws' := draws_openCall engine (.oauth d) other
  have hopen : openCall engine (.oauth c) request = openLogin engine.settings c request := by
    simp only [openCall, hcheck, Action.ofExcept, pure_bind, hstage]
  have hopen' : openCall engine (.oauth d) other = openLogin engine.settings d other := by
    simp only [openCall, hcheck', Action.ofExcept, pure_bind, hstage']
  rw [hopen] at hdraws ⊢
  rw [hopen'] at hdraws' ⊢
  refine exists_runIn_of_draws (hdraws.and (draws_openLogin _ _ _))
    (hdraws'.and (draws_openLogin _ _ _)) ?_ v w
  rintro x y ⟨hopens, hx⟩ ⟨hopens', hy⟩
  rw [← canOpen_iff hconfigs hrequests] at hy
  rcases hx with ⟨hcan, opening, rfl⟩ | ⟨hcannot, fault, rfl⟩
  · rcases hy with ⟨-, opening', rfl⟩ | ⟨hcannot, -⟩
    · obtain ⟨state, challenge, stored, rfl, hstarts⟩ := starts_of_opens hopens hcheck hstage
      obtain ⟨state', challenge', stored', rfl, hstarts'⟩ :=
        starts_of_opens hopens' hcheck' hstage'
      obtain ⟨hstates, hchallenges, hverifiers⟩ := newLogin_alike hconfigs hstarts.isNewState
        hstarts'.isNewState hstarts.isNewChallenge hstarts'.isNewChallenge
      have hread := PendingLogin.ofStored_of_toJson? hstarts.toJson?
      have hread' := PendingLogin.ofStored_of_toJson? hstarts'.toJson?
      exact .ok (.stores hchallenges (.logins hread hread' hstates hverifiers))
    · exact absurd hcan hcannot
  · rcases hy with ⟨hcan, -⟩ | ⟨-, fault', rfl⟩
    · exact absurd hcan hcannot
    · exact .error _ _

/-- Two calls that differ in secrets only open alike, whatever they draw. -/
theorem openCall_alike (engine : Engine) (hconfigs : ConfigsMatch c d)
    (hrequests : RequestsMatch request other)
    (v w : World) :
    ∃ x y random random', EndAlike (OpeningsMatch c d request) x y ∧
      (openCall engine (.oauth c) request).runIn v = (x, { v with random := random }) ∧
      (openCall engine (.oauth d) other).runIn w = (y, { w with random := random' }) := by
  rcases checkAll_alike hconfigs hrequests with ⟨e, e', hcheck, hcheck'⟩ |
    ⟨_, _, hcheck, hcheck', rfl, rfl⟩
  · have hfails {config : AnyConfig} {r : Request} {failure : Failure}
        (h : checkAll config r = .error failure) :
        Draws (openCall engine config r) (· = .error failure) :=
      .of_runIn (fun w => by rw [openCall, h]; rfl) rfl
    refine exists_runIn_of_draws (hfails hcheck) (hfails hcheck') ?_ v w
    rintro x y rfl rfl
    exact .error _ _
  · cases hstage : stage c request with
    | initiating => exact openLogin_alike engine hconfigs hrequests hcheck hcheck' hstage v w
    | completing =>
      have hstage' : stage d other = .completing := by rw [← stage_eq hconfigs hrequests, hstage]
      have hcompletes {config : OAuthConfig} {r : Request}
          (h : checkAll (.oauth config) r = .ok config) (hr : stage config r = .completing) :
          Draws (openCall engine (.oauth config) r)
            (· = .ok (if config.usesRedirect then .takes config else .passes config)) :=
        .of_runIn (fun w => by simp only [openCall, h, Action.ofExcept, pure_bind, hr]; rfl) rfl
      refine exists_runIn_of_draws (hcompletes hcheck hstage) (hcompletes hcheck' hstage') ?_ v w
      rintro x y rfl rfl
      have hredirects : d.usesRedirect = c.usesRedirect := by cases hconfigs; rfl
      rw [hredirects]
      cases hredirect : c.usesRedirect with
      | false => exact .ok .passes
      | true =>
        have hcallback : isCallback c request = true := by
          rw [stage, hredirect] at hstage
          cases hcase : isCallback c request with
          | true => rfl
          | false =>
            rw [hcase] at hstage
            cases hstage
        exact .ok (.takes hredirect hcallback)

end opening

/-! ## Worlds -/

/-- Two worlds have one clock, matching caches and the same log. -/
structure WorldsMatch (v w : World) : Prop where
  clock : v.clock = w.clock
  caches : CachesMatch v.cache w.cache
  logs : logs v.journal = logs w.journal

/-- Twins take matching worlds to matching worlds. -/
theorem Twins.worldsMatch {α β : Type} {action : Action α} {other : Action β} {v w : World}
    {R : α → β → List Reply → List Reply → Prop}
    (h : Twins action other v.replies w.replies R) (hworlds : WorldsMatch v w) :
    WorldsMatch (action.runIn v).2 (other.runIn w).2 := by
  obtain ⟨result, result', events, events', rest, rest', hlogs, -, hrun, hrun'⟩ := h
  rw [hrun v rfl, hrun' w rfl]
  refine ⟨hworlds.clock, hworlds.caches, ?_⟩
  rw [World.journal_advance, World.journal_advance, logs_append, logs_append, hworlds.logs, hlogs]

section settling

variable {engine : Engine} {mapper : Mapper} {c d : OAuthConfig} {request other : Request}
  {x y : Opening}

/-- The accesses of two calls come to matching values, and leave matching caches and one log. -/
theorem touch_alike (settings : Settings) (hconfigs : ConfigsMatch c d)
    (hrequests : RequestsMatch request other)
    (hopenings : OpeningsMatch c d request x y) {cache cache' : MemoryCache}
    (hcaches : CachesMatch cache cache') (now : Instant)
    (hreturns : c.usesRedirect = true → isCallback c request = true →
      returnsState request (shown cache now c request) =
        returnsState other (shown cache' now d other)) :
    EndAlike
        (fun taken taken' => StoredMatch taken taken' ∧
          returnsState request taken = returnsState other taken')
        (x.touch settings request now cache).result
        (y.touch settings other now cache').result ∧
      CachesMatch (x.touch settings request now cache).cache
        (y.touch settings other now cache').cache ∧
      logs (x.touch settings request now cache).events =
        logs (y.touch settings other now cache').events := by
  have hkeys := stateKey_eq hconfigs hrequests
  cases hopenings with
  | stores challenges written =>
    have hlifetimes : pendingLifetime d settings = pendingLifetime c settings := by
      cases hconfigs; rfl
    have hset := hcaches.set written now (.text (stateKey d other))
      (some (pendingLifetime c settings))
    rcases hset with ⟨fault, fault', hset, hset'⟩ | ⟨after, after', hset, hset', hafter⟩
    · rw [touch_of_set_error (hkeys ▸ hset), touch_of_set_error (hlifetimes ▸ hset')]
      exact ⟨.error _ _, hcaches, rfl⟩
    · rw [touch_of_set (hkeys ▸ hset), touch_of_set (hlifetimes ▸ hset')]
      refine ⟨.ok ⟨.same _, rfl⟩, hafter, ?_⟩
      rw [hkeys, hlifetimes]
      rfl
  | takes redirects callback =>
    refine ⟨.ok ⟨hcaches.shown now hkeys, hreturns redirects callback⟩, ?_, rfl⟩
    simp only [Opening.touch, hkeys]
    exact hcaches.erase _
  | passes => exact ⟨.ok ⟨.same _, rfl⟩, hcaches, rfl⟩

/-- Settling a first leg reports it and does nothing more. -/
theorem settle_stores (config : OAuthConfig) (state stored : Text)
    (challenge : Option PkceChallenge) (taken : Datum) (w : World) :
    (((Opening.stores config state challenge stored).settle mapper request taken).runIn w).2 =
      w.advance w.replies [.logged (.of .info .oauthEngine ["OAuth2 flow initiated: ",
        config.platform, " (response_type=", config.responseType.name, ", pkce=",
        (Datum.bool challenge.isSome).display, ")"])] := by
  rw [Opening.settle, Action.runIn_bind_ok (Action.runIn_log _ _ _ w)]
  cases authorizationUrl config state challenge <;> rfl

/-- Two calls that have opened alike settle with one log. -/
theorem worldsMatch_settle (hmapper : mapper.ByClaims) (hconfigs : ConfigsMatch c d)
    (hrequests : RequestsMatch request other) (hopenings : OpeningsMatch c d request x y)
    {taken taken' : Datum} (hstored : StoredMatch taken taken')
    (hreturns : returnsState request taken = returnsState other taken') {v w : World}
    (hworlds : WorldsMatch v w) (htraffic : TrafficMatch v.replies w.replies)
    (himplicit : c.grantType = .implicit → v.replies = w.replies) :
    WorldsMatch ((x.settle mapper request taken).runIn v).2
      ((y.settle mapper other taken').runIn w).2 := by
  have hcompletes : Twins
      (completeAfter mapper c request taken >>= fun user => pure (Outcome.user user))
      (completeAfter mapper d other taken' >>= fun user => pure (Outcome.user user))
      v.replies w.replies fun _ _ _ _ => True := by
    apply (twins_completeAfter hmapper hconfigs hrequests hstored hreturns htraffic himplicit).bind
    intro _ _ _ _ _
    exact .of_runIn (fun w => rfl) (fun w => rfl) (.ok trivial)
  cases hopenings with
  | stores challenges written =>
    obtain ⟨-, -⟩ := hconfigs
    rw [settle_stores, settle_stores, challenges]
    refine ⟨hworlds.clock, hworlds.caches, ?_⟩
    rw [World.journal_advance, World.journal_advance, logs_append, logs_append, hworlds.logs]
  | takes redirects callback => exact hcompletes.worldsMatch hworlds
  | passes => exact hcompletes.worldsMatch hworlds

/-- Two calls that have opened alike take matching worlds to matching worlds. -/
theorem worldsMatch_opened (hmapper : engine.mapper.ByClaims) (hconfigs : ConfigsMatch c d)
    (hrequests : RequestsMatch request other) (hopenings : OpeningsMatch c d request x y)
    {v w : World} (hworlds : WorldsMatch v w)
    (hreturns : c.usesRedirect = true → isCallback c request = true →
      returnsState request (shown v.cache v.clock c request) =
        returnsState other (shown w.cache w.clock d other))
    (htraffic : TrafficMatch v.replies w.replies)
    (himplicit : c.grantType = .implicit → v.replies = w.replies) :
    WorldsMatch
      ((x.access engine.settings request >>= fun taken =>
        x.settle engine.mapper request taken).runIn v).2
      ((y.access engine.settings other >>= fun taken =>
        y.settle engine.mapper other taken).runIn w).2 := by
  rw [← hworlds.clock] at hreturns
  obtain ⟨hresults, hcaches, hlogs⟩ :=
    touch_alike engine.settings hconfigs hrequests hopenings hworlds.caches v.clock hreturns
  have haccess := runIn_access engine.settings request x v
  have haccess' := runIn_access engine.settings other y w
  rw [← hworlds.clock] at haccess'
  have hjournals (events events' : List Event) (h : logs events = logs events') :
      logs (v.journal ++ events) = logs (w.journal ++ events') := by
    rw [logs_append, logs_append, hworlds.logs, h]
  rcases hresults with ⟨e, e', hx, hy⟩ | ⟨taken, taken', hx, hy, hstored, hreturned⟩
  · rw [hx] at haccess
    rw [hy] at haccess'
    rw [Action.runIn_bind_error haccess, Action.runIn_bind_error haccess']
    exact ⟨rfl, hcaches, hjournals _ _ hlogs⟩
  · rw [hx] at haccess
    rw [hy] at haccess'
    rw [Action.runIn_bind_ok haccess, Action.runIn_bind_ok haccess']
    exact worldsMatch_settle hmapper hconfigs hrequests hopenings hstored hreturned
      ⟨rfl, hcaches, hjournals _ _ hlogs⟩ htraffic himplicit

/-- Two calls that differ in secrets only take matching worlds to matching worlds. -/
theorem worldsMatch_authenticate (hmapper : engine.mapper.ByClaims) (hconfigs : ConfigsMatch c d)
    (hrequests : RequestsMatch request other) {v w : World} (hworlds : WorldsMatch v w)
    (hreturns : c.usesRedirect = true → isCallback c request = true →
      returnsState request (shown v.cache v.clock c request) =
        returnsState other (shown w.cache w.clock d other))
    (htraffic : TrafficMatch v.replies w.replies)
    (himplicit : c.grantType = .implicit → v.replies = w.replies) :
    WorldsMatch ((authenticate engine (.oauth c) request).runIn v).2
      ((authenticate engine (.oauth d) other).runIn w).2 := by
  rw [authenticate_eq, authenticate_eq]
  obtain ⟨x, y, random, random', hopens, hv, hw⟩ :=
    openCall_alike engine hconfigs hrequests v w
  rcases hopens with ⟨e, e', rfl, rfl⟩ | ⟨x, y, rfl, rfl, hopens⟩
  · rw [Action.runIn_bind_error hv, Action.runIn_bind_error hw]
    exact ⟨hworlds.clock, hworlds.caches, hworlds.logs⟩
  · rw [Action.runIn_bind_ok hv, Action.runIn_bind_ok hw]
    exact worldsMatch_opened hmapper hconfigs hrequests hopens
      ⟨hworlds.clock, hworlds.caches, hworlds.logs⟩ hreturns htraffic himplicit

end settling

/-! ## Runs -/

/-- Two steps, each taken in its own world, agree on everything but secrets. A callback brings back
the pending state in both worlds, or another one in both. -/
inductive StepsMatch (v w : World) : Step → Step → Prop
  | authenticate {c d : OAuthConfig} {request other : Request} {r s : List Reply}
    (configs : ConfigsMatch c d) (requests : RequestsMatch request other)
    (states : c.usesRedirect = true → isCallback c request = true →
      returnsState request (shown v.cache v.clock c request) =
        returnsState other (shown w.cache w.clock d other))
    (traffic : TrafficMatch r s) (implicit : c.grantType = .implicit → r = s) :
    StepsMatch v w (.authenticate (.oauth c) request r) (.authenticate (.oauth d) other s)
  | foreign {config config' : AnyConfig} (kind : config.kind ≠ .oauth)
    (kind' : config'.kind ≠ .oauth) (request other : Request) (r s : List Reply) :
    StepsMatch v w (.authenticate config request r) (.authenticate config' other s)
  | refresh {c d : OAuthConfig} {token other : Datum} {r s : List Reply}
    (configs : ConfigsMatch c d) (tokens : Interchangeable .text token other)
    (traffic : TrafficMatch r s) : StepsMatch v w (.refresh c token r) (.refresh d other s)
  | clock (now : Instant) : StepsMatch v w (.clock now) (.clock now)

/-- Two runs, each on its own world, agree on everything but secrets. -/
inductive RunsMatch (engine : Engine) : World → World → List Step → List Step → Prop
  | nil (v w : World) : RunsMatch engine v w [] []
  | cons {v w : World} {step step' : Step} {steps steps' : List Step}
    (first : StepsMatch v w step step')
    (rest : RunsMatch engine (step.run engine v).2 (step'.run engine w).2 steps steps') :
    RunsMatch engine v w (step :: steps) (step' :: steps')

def logOf (engine : Engine) (steps : List Step) (w : World) : List (List LogRecord) :=
  (runAll engine steps w).map fun after => logs after.2.journal

section runs

variable {engine : Engine} {v w : World}

theorem runIn_authenticate_foreign {config : AnyConfig} (h : config.kind ≠ .oauth)
    (request : Request) (w : World) : ((authenticate engine config request).runIn w).2 = w := by
  unfold authenticate checkRefusal
  cases refusal? request with
  | some error => rfl
  | none =>
    cases config with
    | oauth config => exact absurd rfl h
    | _ => rfl

theorem world_authenticate (config : AnyConfig) (request : Request) (replies : List Reply)
    (w : World) :
    ((Step.authenticate config request replies).run engine w).2 =
      ((authenticate engine config request).runIn
        { w with journal := [], replies := replies }).2 :=
  congrArg Prod.snd (Action.runIn_map StepResult.outcome _ _)

theorem world_refresh (config : OAuthConfig) (token : Datum) (replies : List Reply) (w : World) :
    ((Step.refresh config token replies).run engine w).2 =
      ((refresh config token).runIn { w with journal := [], replies := replies }).2 :=
  congrArg Prod.snd (Action.runIn_map StepResult.token _ _)

/-- Two steps that differ in secrets only leave matching worlds with one log. -/
theorem worldsMatch_run (hmapper : engine.mapper.ByClaims) (hclock : v.clock = w.clock)
    (hcaches : CachesMatch v.cache w.cache) {step step' : Step} (h : StepsMatch v w step step') :
    WorldsMatch (step.run engine v).2 (step'.run engine w).2 := by
  cases h with
  | authenticate configs requests states traffic implicit =>
    rw [world_authenticate, world_authenticate]
    exact worldsMatch_authenticate hmapper configs requests ⟨hclock, hcaches, rfl⟩ states traffic
      implicit
  | foreign kind kind' request other r s =>
    rw [world_authenticate, world_authenticate, runIn_authenticate_foreign kind,
      runIn_authenticate_foreign kind']
    exact ⟨hclock, hcaches, rfl⟩
  | refresh configs tokens traffic =>
    rw [world_refresh, world_refresh]
    exact (twins_refresh configs tokens traffic).worldsMatch ⟨hclock, hcaches, rfl⟩
  | clock now => exact ⟨rfl, hcaches, rfl⟩

/-- Runs that differ in secrets only write one log, whatever they draw. -/
theorem logOf_eq (hmapper : engine.mapper.ByClaims) {steps steps' : List Step}
    (h : RunsMatch engine v w steps steps') (hclock : v.clock = w.clock)
    (hcaches : CachesMatch v.cache w.cache) : logOf engine steps v = logOf engine steps' w := by
  induction h with
  | nil v w => rfl
  | cons first rest ih =>
    have hworlds := worldsMatch_run hmapper hclock hcaches first
    have hrest := ih hworlds.clock hworlds.caches
    exact congrArg₂ List.cons hworlds.logs hrest

/-- Nothing that is written to the log depends on secrets, nor on the random stream: two runs on one
cache that agree on everything but secrets write the same log. -/
theorem log_independent_of_secrets (hmapper : engine.mapper.ByClaims) (hclock : v.clock = w.clock)
    (hcache : v.cache = w.cache) {steps steps' : List Step}
    (h : RunsMatch engine v w steps steps') : logOf engine steps v = logOf engine steps' w :=
  logOf_eq hmapper h hclock (hcache ▸ .refl v.cache)

end runs

/-! ## A client with secrets -/

/-- A mapper that goes by a claim goes by the claims alone. -/
theorem byClaims_byClaim (claim : Text) : (Mapper.byClaim claim).ByClaims := by
  intro platform claims token token'
  unfold Mapper.byClaim
  cases claims.get? claim with
  | none => rfl
  | some value => cases value <;> rfl

/-- A client with a secret of its own. Its states are random. -/
def secretiveConfig (secret : Text) : OAuthConfig :=
  { codeConfig with clientSecret := some secret, state := none }

theorem secretiveConfig_match {secret secret' : Text}
    (h : Interchangeable some (some secret) (some secret')) :
    ConfigsMatch (secretiveConfig secret) (secretiveConfig secret') := .intro h (.refl _)

def grantingAnswer (token : String) : Answer :=
  ⟨200, none, ("\x7b\"access_token\":\"" ++ token ++ "\"\x7d").toUTF8.toList⟩

/-- A world in which all random octets are the same. -/
def evenWorld (octet : UInt8) : World := World.start 0 ⟨fun _ => octet, 0⟩

/-- A sign-in that is begun and completed, and a refresh after it. One secret serves as the secret
of the client, as code and as token. -/
def secretiveRun (secret : String) (octet : UInt8) : List Step :=
  [.authenticate (.oauth (secretiveConfig secret)) ⟨[], none⟩ [], .clock 1,
    .authenticate (.oauth (secretiveConfig secret))
      ⟨[("state", Base64.encodeUrl (List.replicate 32 octet)), ("code", secret)], none⟩
      [.answer (grantingAnswer secret),
        .answer ⟨200, none, "\x7b\"sub\":\"u1\"\x7d".toUTF8.toList⟩],
    .refresh (secretiveConfig secret) (.text secret) [.answer (grantingAnswer secret)]]

/-- The token of a record that holds nothing else. -/
def onlyToken? : Option Datum → Option Text
  | some (.record [(name, .text token)]) => if name = "access_token" then some token else none
  | _ => none

theorem eq_of_onlyToken? {found : Option Datum} {token : Text} (h : onlyToken? found = some token) :
    found = some (.record [("access_token", .text token)]) := by
  unfold onlyToken? at h
  split at h
  · split at h
    · rename_i hname
      rw [hname, Option.some.inj h]
    · cases h
  · cases h

/-- Answers that grant different tokens match. -/
theorem grantingAnswers_match :
    RepliesMatch PayloadsMatch (.answer (grantingAnswer "s3cret"))
      (.answer (grantingAnswer "hunter2")) := by
  have hread : Json.readOctets? (grantingAnswer "s3cret").body =
      some (.record [("access_token", .text "s3cret")]) := eq_of_onlyToken? (by decide +kernel)
  have hread' : Json.readOctets? (grantingAnswer "hunter2").body =
      some (.record [("access_token", .text "hunter2")]) := eq_of_onlyToken? (by decide +kernel)
  have hdepth : Json.isTooDeep (grantingAnswer "s3cret").body =
      Json.isTooDeep (grantingAnswer "hunter2").body := by decide +kernel
  have htokens : Interchangeable Datum.text (.text "s3cret") (.text "hunter2") :=
    .of_plain ⟨by decide, by decide⟩ ⟨by decide, by decide⟩
  exact .records rfl rfl hdepth hread hread' ((AgreeBut.refl []).cons (by decide) htokens)

/-- A client signs in with one secret or another, and nothing of it is in the log. -/
theorem secretiveRuns_log_alike :
    (evenWorld 0).clock = (evenWorld 1).clock ∧ (evenWorld 0).cache = (evenWorld 1).cache ∧
      claimEngine.mapper.ByClaims ∧
      RunsMatch claimEngine (evenWorld 0) (evenWorld 1) (secretiveRun "s3cret" 0)
        (secretiveRun "hunter2" 1) ∧
      logOf claimEngine (secretiveRun "s3cret" 0) (evenWorld 0) =
        logOf claimEngine (secretiveRun "hunter2" 1) (evenWorld 1) ∧
      (logOf claimEngine (secretiveRun "s3cret" 0) (evenWorld 0)).map List.length =
        [2, 0, 2, 1] := by
  have hsecrets {α : Type} (made : Text → α) :
      Interchangeable made (made "s3cret") (made "hunter2") :=
    .of_plain ⟨by decide, by decide⟩ ⟨by decide, by decide⟩
  have hstates : Interchangeable (fun t => t) (Base64.encodeUrl (List.replicate 32 0))
      (Base64.encodeUrl (List.replicate 32 1)) := interchangeable_encodeUrl rfl
  have hconfigs := secretiveConfig_match (hsecrets some)
  have hparams : AgreeBut (fun t => t) secretParameters
      [("state", Base64.encodeUrl (List.replicate 32 0)), ("code", "s3cret")]
      [("state", Base64.encodeUrl (List.replicate 32 1)), ("code", "hunter2")] :=
    ((AgreeBut.refl []).cons (by decide) (hsecrets _)).cons (by decide) hstates
  have hruns : RunsMatch claimEngine (evenWorld 0) (evenWorld 1) (secretiveRun "s3cret" 0)
      (secretiveRun "hunter2" 1) := by
    refine .cons ?_ (.cons (.clock 1) (.cons ?_ (.cons ?_ (.nil _ _))))
    · exact .authenticate hconfigs ⟨.refl _, rfl⟩ (fun _ _ => by decide +kernel) ⟨.same _, rfl⟩
        (by decide)
    · exact .authenticate hconfigs ⟨hparams, rfl⟩ (fun _ _ => by decide +kernel)
        ⟨grantingAnswers_match, rfl⟩ (by decide)
    · exact .refresh hconfigs (hsecrets _) ⟨grantingAnswers_match, rfl⟩
  have hclock : (evenWorld 0).clock = (evenWorld 1).clock := rfl
  have hcache : (evenWorld 0).cache = (evenWorld 1).cache := rfl
  have hmapper : claimEngine.mapper.ByClaims := byClaims_byClaim "sub"
  exact ⟨hclock, hcache, hmapper, hruns, log_independent_of_secrets hmapper hclock hcache hruns,
    by decide +kernel⟩

end OAuth

end SignIn
