import SignIn.Proofs.OAuth.Runs

/-!
# What a step sees of the cache

What a cache holds under a key after a step follows from what it held there before. A sign-in comes
to the same in all worlds that hold the same under its key, however much they differ elsewhere.
-/

namespace SignIn

namespace OAuth

/-! ## What is held under a key -/

/-- What a cache holds under a key at a moment; expired entries do not count. -/
def held (now : Instant) (key : Text) (cache : MemoryCache) : Option (CacheEntry Datum) :=
  (cache.find? (.text key)).filter (CacheEntry.isLive now)

theorem shown_eq_held (cache : MemoryCache) (now : Instant) (config : OAuthConfig)
    (request : Request) :
    shown cache now config request =
      ((held now (stateKey config request) cache).map CacheEntry.value).getD .null := by
  rw [shown, ExpiringCache.lookup_eq_filter, held]

section held

variable {now later : Instant} {key : Text} {cache other : MemoryCache}

/-- What is held later is what is still alive of what is held now. -/
theorem held_of_le (h : now ≤ later) :
    held later key cache = (held now key cache).filter (CacheEntry.isLive later) :=
  (CacheEntry.filter_isLive_of_le _ h).symm

/-- An event that does not touch a key leaves what is held there. -/
theorem held_effect_of_not_touches {e : Event} (h : ¬ e.Touches now key) (cache : MemoryCache) :
    held now key (e.effect now cache) = held now key cache := by
  unfold held
  rcases find?_effect h cache with hkept | hfiltered
  · rw [hkept]
  · rw [hfiltered, Option.filter_filter]
    simp

/-- After an event caches hold the same under a key if they did so before. -/
theorem held_effect (e : Event) (h : held now key cache = held now key other) :
    held now key (e.effect now cache) = held now key (e.effect now other) := by
  by_cases htouches : e.Touches now key
  · cases e with
    | cacheSet d value lifetime =>
      obtain ⟨hkey, expiresAt, hexpiry⟩ := htouches
      simp only [held, Event.effect, MemoryCache.store, hkey, hexpiry,
        ExpiringCache.find?_insert, if_true]
    | cacheTake d result =>
      have hkey : CacheKey.ofDatum d = .ok (.text key) := htouches
      simp only [held, Event.effect, MemoryCache.takeOut, MemoryCache.atKey, hkey,
        ExpiringCache.find?_take, if_true]
    | cacheDelete k =>
      obtain rfl : k = key := htouches
      have hnone (c : MemoryCache) : (c.erase (.text k)).find? (.text k) = none := by
        rw [ExpiringCache.find?_erase, if_pos rfl]
      exact congrArg (Option.filter (CacheEntry.isLive now)) ((hnone _).trans (hnone _).symm)
    | _ => exact htouches.elim
  · rw [held_effect_of_not_touches htouches, held_effect_of_not_touches htouches, h]

theorem held_foldl_effect (events : List Event) (h : held now key cache = held now key other) :
    held now key (events.foldl (Event.effect now) cache) =
      held now key (events.foldl (Event.effect now) other) := by
  induction events generalizing cache other with
  | nil => exact h
  | cons e events ih => exact ih (held_effect e h)

theorem held_foldl_effect_of_not_touches {events : List Event}
    (h : ∀ e ∈ events, ¬ e.Touches now key) (cache : MemoryCache) :
    held now key (events.foldl (Event.effect now) cache) = held now key cache := by
  induction events generalizing cache with
  | nil => rfl
  | cons e events ih =>
    obtain ⟨he, hevents⟩ := List.forall_mem_cons.1 h
    exact (ih hevents _).trans (held_effect_of_not_touches he cache)

end held

/-! ## Worlds that differ in the cache -/

/-- Worlds with one clock and one random stream that hold the same under a key. -/
structure World.Alike (key : Text) (v w : World) : Prop where
  clock_eq : v.clock = w.clock
  random_eq : v.random = w.random
  held_eq : held v.clock key v.cache = held w.clock key w.cache

/-- The access of an opened call comes to the same in all worlds that show the same to it. -/
theorem touch_congr {settings : Settings} {request : Request} {now : Instant}
    {cache other : MemoryCache} {opening : Opening}
    (h : ∀ c, opening = .takes c → shown cache now c request = shown other now c request) :
    (opening.touch settings request now cache).result =
        (opening.touch settings request now other).result ∧
      (opening.touch settings request now cache).events =
        (opening.touch settings request now other).events := by
  cases opening with
  | stores c state challenge stored =>
    simp only [Opening.touch, ExpiringCache.set]
    cases expiry now (some (pendingLifetime c settings)) with
    | error fault => exact ⟨rfl, rfl⟩
    | ok expiresAt => exact ⟨rfl, rfl⟩
  | takes c =>
    rw [Opening.touch, Opening.touch, h c rfl]
    exact ⟨rfl, rfl⟩
  | passes c => exact ⟨rfl, rfl⟩

/-- How an opened call runs on from its access: what it comes to, what it writes down and the cache
it leaves. -/
theorem exists_runIn_opened (engine : Engine) (request : Request) (opening : Opening)
    (replies : List Reply) (touched : Except Failure Datum) :
    ∃ result settled rest, ∀ w : World, w.replies = replies →
      (opening.touch engine.settings request w.clock w.cache).result = touched →
      (opening.access engine.settings request >>= fun taken =>
        opening.settle engine.mapper request taken).runIn w =
          (result, ⟨w.clock, w.random,
            (opening.touch engine.settings request w.clock w.cache).cache, rest,
            w.journal ++ ((opening.touch engine.settings request w.clock w.cache).events ++
              settled)⟩) := by
  cases touched with
  | error failure =>
    refine ⟨.error failure, [], replies, ?_⟩
    rintro w rfl htouched
    have haccess := runIn_access engine.settings request opening w
    rw [htouched] at haccess
    rw [Action.runIn_bind_error haccess, List.append_nil]
  | ok taken =>
    obtain ⟨result, settled, rest, -, hrun⟩ :=
      does_settle engine.mapper request taken opening replies
    refine ⟨result, settled, rest, ?_⟩
    rintro w rfl htouched
    have haccess := runIn_access engine.settings request opening w
    rw [htouched] at haccess
    have hsettle := hrun ⟨w.clock, w.random,
      (opening.touch engine.settings request w.clock w.cache).cache, w.replies,
      w.journal ++ (opening.touch engine.settings request w.clock w.cache).events⟩ rfl
    rw [Action.runIn_bind_ok haccess, hsettle]
    simp only [World.advance, List.append_assoc]

/-- A sign-in as a step opens, accesses the cache and settles. -/
theorem run_authenticate_eq (engine : Engine) (config : AnyConfig) (request : Request)
    (replies : List Reply) (w : World) :
    (Step.authenticate config request replies).run engine w =
      Prod.map (Except.map .outcome) id
        ((openCall engine config request >>= fun opening =>
          opening.access engine.settings request >>= fun taken =>
            opening.settle engine.mapper request taken).runIn
              { w with journal := [], replies := replies }) := by
  rw [← authenticate_eq]
  exact Action.runIn_map StepResult.outcome (authenticate engine config request)
    { w with journal := [], replies := replies }

/-- A sign-in comes to the same, and does the same, in worlds that hold the same under its key. -/
theorem run_authenticate_congr (engine : Engine) {c : OAuthConfig} {request : Request}
    (replies : List Reply) {v w : World} (h : World.Alike (stateKey c request) v w) :
    ((Step.authenticate (.oauth c) request replies).run engine v).1 =
        ((Step.authenticate (.oauth c) request replies).run engine w).1 ∧
      ((Step.authenticate (.oauth c) request replies).run engine v).2.journal =
        ((Step.authenticate (.oauth c) request replies).run engine w).2.journal := by
  obtain ⟨hclock, hrandom, hheld⟩ := h
  rw [run_authenticate_eq, run_authenticate_eq]
  obtain ⟨opened, random, hopens, hopen⟩ := draws_openCall engine (.oauth c) request w.random
  have hv := hopen { v with journal := [], replies := replies } hrandom
  have hw := hopen { w with journal := [], replies := replies } rfl
  cases opened with
  | error failure =>
    rw [Action.runIn_bind_error hv, Action.runIn_bind_error hw]
    exact ⟨rfl, rfl⟩
  | ok opening =>
    have htakes (d : OAuthConfig) (hd : opening = .takes d) :
        shown v.cache w.clock d request = shown w.cache w.clock d request := by
      subst hd
      cases hopens with
      | takes hadmitted =>
        obtain rfl := eq_of_checkAll hadmitted rfl
        rw [shown_eq_held, shown_eq_held, ← hheld, hclock]
    obtain ⟨hresult, hevents⟩ :
        (opening.touch engine.settings request w.clock v.cache).result =
            (opening.touch engine.settings request w.clock w.cache).result ∧
          (opening.touch engine.settings request w.clock v.cache).events =
            (opening.touch engine.settings request w.clock w.cache).events := touch_congr htakes
    obtain ⟨result, settled, rest, hrun⟩ := exists_runIn_opened engine request opening replies
      (opening.touch engine.settings request w.clock w.cache).result
    have hv' := hrun { v with random := random, journal := [], replies := replies } rfl
      (by rw [← hresult, ← hclock])
    have hw' := hrun { w with random := random, journal := [], replies := replies } rfl rfl
    rw [Action.runIn_bind_ok hv, Action.runIn_bind_ok hw, hv', hw']
    simp [hclock, hevents]

/-! ## What a step makes of the cache -/

def Step.clockAfter (step : Step) (now : Instant) : Instant :=
  match step with
  | .clock later => later
  | _ => now

/-- What a step leaves at a moment and with a random stream: the clock moves as the step has it, and
the cache takes the effect of some events, which do not depend on it. -/
structure Step.HasEffects (engine : Engine) (step : Step) (now : Instant) (random : RandomStream)
    (events : List Event) : Prop where
  clock_eq : ∀ w : World, w.clock = now → w.random = random →
    (step.run engine w).2.clock = step.clockAfter now
  cache_eq : ∀ w : World, w.clock = now → w.random = random →
    (step.run engine w).2.cache = events.foldl (Event.effect now) w.cache

theorem exists_effects_authenticate (engine : Engine) (config : AnyConfig) (request : Request)
    (replies : List Reply) (now : Instant) (random : RandomStream) :
    ∃ events, (Step.authenticate config request replies).HasEffects engine now random events ∧
      ∀ e ∈ events, ∀ key, e.Touches now key →
        ∃ c, config = .oauth c ∧ key = stateKey c request := by
  have hclock (w : World) (hw : w.clock = now) (_ : w.random = random) :
      ((Step.authenticate config request replies).run engine w).2.clock = now := by
    obtain ⟨-, -, hkept, -⟩ := run_authenticate engine w config request replies
    exact hkept.trans hw
  obtain ⟨opened, random', hopens, hopen⟩ := draws_openCall engine config request random
  cases opened with
  | error failure =>
    refine ⟨[], ⟨hclock, ?_⟩, by simp⟩
    rintro w - hrandom
    rw [run_authenticate_eq,
      Action.runIn_bind_error (hopen { w with journal := [], replies := replies } hrandom)]
    rfl
  | ok opening =>
    have hcache (w : World) (hw : w.clock = now) (hrandom : w.random = random) :
        ((Step.authenticate config request replies).run engine w).2.cache =
          (opening.touch engine.settings request now w.cache).cache := by
      obtain ⟨result, settled, rest, hrun⟩ := exists_runIn_opened engine request opening replies
        (opening.touch engine.settings request now w.cache).result
      rw [run_authenticate_eq,
        Action.runIn_bind_ok (hopen { w with journal := [], replies := replies } hrandom),
        hrun { w with random := random', journal := [], replies := replies } rfl (by rw [← hw])]
      rw [← hw]
      rfl
    cases hopens with
    | @stores c state challenge stored starts =>
      refine ⟨[storing engine.settings c request stored], ⟨hclock, ?_⟩, ?_⟩
      · intro w hw hrandom
        rw [hcache w hw hrandom]
        simp only [Opening.touch, storing, List.foldl_cons, List.foldl_nil, Event.effect,
          MemoryCache.store_text]
        cases w.cache.set now (.text (stateKey c request)) (.text stored)
          (some (pendingLifetime c engine.settings)) <;> rfl
      · intro e he key htouches
        obtain rfl := List.mem_singleton.1 he
        exact ⟨c, (checkAll_eq_ok_iff.1 starts.admitted).1,
          (CacheKey.text.inj (Except.ok.inj htouches.1)).symm⟩
    | @takes c hadmitted =>
      refine ⟨[.cacheTake (.text (stateKey c request)) .null], ⟨hclock, ?_⟩, ?_⟩
      · intro w hw hrandom
        rw [hcache w hw hrandom]
        rfl
      · intro e he key htouches
        obtain rfl := List.mem_singleton.1 he
        exact ⟨c, (checkAll_eq_ok_iff.1 hadmitted).1,
          (CacheKey.text.inj (Except.ok.inj htouches)).symm⟩
    | passes hadmitted =>
      refine ⟨[], ⟨hclock, ?_⟩, by simp⟩
      intro w hw hrandom
      rw [hcache w hw hrandom]
      rfl

/-- What an access leaves whose result is written down. -/
theorem runIn_noted_world (act : Instant → MemoryCache → Except Fault Datum × MemoryCache)
    (event : Datum → Event) (w : World) :
    ((Action.onCache act >>= fun value => Action.note (event value) >>= fun _ =>
        pure value).runIn w).2.clock = w.clock ∧
      ((Action.onCache act >>= fun value => Action.note (event value) >>= fun _ =>
        pure value).runIn w).2.cache = (act w.clock w.cache).2 := by
  rw [Action.runIn_onCache_noted]
  rcases act w.clock w.cache with ⟨fault | value, after⟩
  · exact ⟨rfl, rfl⟩
  · exact ⟨rfl, rfl⟩

theorem runIn_cacheSet_world (key value : Datum) (lifetime : Option Lifetime) (w : World) :
    ((Action.cacheSet key value lifetime).runIn w).2.clock = w.clock ∧
      ((Action.cacheSet key value lifetime).runIn w).2.cache =
        (w.cache.store w.clock key value lifetime).2 := by
  rw [Action.runIn_cacheSet]
  rcases w.cache.store w.clock key value lifetime with ⟨fault | done, after⟩
  · exact ⟨rfl, rfl⟩
  · exact ⟨rfl, rfl⟩

/-- A step that is one access to the cache has the effect of that access. -/
theorem hasEffects_of_runIn {α : Type} {engine : Engine} {step : Step} {access : Action α}
    {f : α → StepResult} {event : Event} {now : Instant} {random : RandomStream}
    (hstep : step.perform engine = f <$> access) (hclock : step.clockAfter now = now)
    (h : ∀ w, (access.runIn w).2.clock = w.clock ∧
      (access.runIn w).2.cache = event.effect w.clock w.cache) :
    step.HasEffects engine now random [event] := by
  have hworld (w : World) :
      (step.run engine w).2 = (access.runIn { w with journal := [] }).2 := by
    rw [Step.run, hstep, Action.runIn_map]
  constructor
  · rintro w rfl -
    rw [hworld, hclock]
    exact (h _).1
  · rintro w rfl -
    rw [hworld]
    exact (h _).2

/-- Every step has effects of its own on the cache. -/
theorem exists_effects (engine : Engine) (step : Step) (now : Instant) (random : RandomStream) :
    ∃ events, step.HasEffects engine now random events := by
  cases step with
  | authenticate config request replies =>
    obtain ⟨events, hevents, -⟩ :=
      exists_effects_authenticate engine config request replies now random
    exact ⟨events, hevents⟩
  | refresh config refreshToken replies =>
    have hrefresh (w : World) := run_refresh engine w config refreshToken replies
    exact ⟨[], fun w hw _ => (hrefresh w).2.1.trans hw, fun w _ _ => (hrefresh w).2.2⟩
  | clock later => exact ⟨[], fun w _ _ => rfl, fun w _ _ => rfl⟩
  | cacheSet key value lifetime =>
    exact ⟨[.cacheSet key value lifetime], hasEffects_of_runIn (f := fun _ => .done) rfl rfl
      (runIn_cacheSet_world key value lifetime)⟩
  | cacheGet key =>
    exact ⟨[.cacheGet key .null], hasEffects_of_runIn (f := .value) rfl rfl
      (runIn_noted_world _ (.cacheGet key))⟩
  | cacheTake key =>
    exact ⟨[.cacheTake key .null], hasEffects_of_runIn (f := .value) rfl rfl
      (runIn_noted_world _ (.cacheTake key))⟩
  | cacheDelete key => exact ⟨[.cacheDelete key], fun w hw _ => hw, fun w hw _ => hw ▸ rfl⟩

end OAuth

end SignIn
