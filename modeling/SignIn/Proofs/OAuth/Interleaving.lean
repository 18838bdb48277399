import SignIn.Proofs.OAuth.Runs

/-!
# Concurrent calls

Calls under way share nothing but the clock and the cache. Each of them opens, makes its access to
the cache and settles, and moves of the others may come in between. However the moves are mixed, the
calls follow each other on the cache in the order of their accesses.
-/

namespace SignIn

namespace OAuth

/-! ## Systems -/

/-- What belongs to one call alone. -/
structure Thread where
  config : AnyConfig
  request : Request
  random : RandomStream
  replies : List Reply
  journal : List Event

/-- The world of a call, of which it shares the clock and the cache. -/
def Thread.world (t : Thread) (clock : Instant) (cache : MemoryCache) : World :=
  ⟨clock, t.random, cache, t.replies, t.journal⟩

def Thread.update (t : Thread) (w : World) : Thread :=
  ⟨t.config, t.request, w.random, w.replies, w.journal⟩

/-- A call that is about to make its access to the cache. -/
structure Opened where
  thread : Thread
  opening : Opening

/-- What a call has come to that has its access to the cache behind it. -/
inductive Passage where
  | settling (opening : Opening) (taken : Datum)
  | ended (result : Except Failure Outcome)

/-- A call whose access ends it if it fails, and lets it settle otherwise. -/
def Passage.ofAccess (opening : Opening) : Except Failure Datum → Passage
  | .ok taken => .settling opening taken
  | .error failure => .ended (.error failure)

/-- A call that has its access to the cache behind it, or has ended without any. -/
structure Passed where
  thread : Thread
  /-- When the cache was accessed. -/
  moment : Instant
  passage : Passage

/-- Concurrent calls on a shared cache. -/
structure System where
  clock : Instant
  cache : MemoryCache
  opened : List Opened
  /-- In the order of the accesses. -/
  passed : List Passed

def System.start (clock : Instant) : System := ⟨clock, ExpiringCache.empty, [], []⟩

/-- A move of a system. Calls are told apart by their places. -/
inductive Move where
  | tick (now : Instant)
  | refresh (config : OAuthConfig) (refreshToken : Datum) (random : RandomStream)
    (replies : List Reply)
  | start (config : AnyConfig) (request : Request) (random : RandomStream) (replies : List Reply)
  | access (place : Nat)
  | settle (place : Nat)

namespace System

def openThread (engine : Engine) (s : System) (t : Thread) : System :=
  match (openCall engine t.config t.request).runIn (t.world s.clock s.cache) with
  | (.ok opening, w) => { s with cache := w.cache, opened := s.opened ++ [⟨t.update w, opening⟩] }
  | (.error failure, w) =>
    { s with
      cache := w.cache
      passed := s.passed ++ [⟨t.update w, s.clock, .ended (.error failure)⟩] }

/-- Makes the access of an opened call. -/
def accessAt (engine : Engine) (s : System) (place : Nat) : System :=
  match s.opened[place]? with
  | none => s
  | some o =>
    let (result, w) := (o.opening.access engine.settings o.thread.request).runIn
      (o.thread.world s.clock s.cache)
    { s with
      cache := w.cache
      opened := s.opened.eraseIdx place
      passed := s.passed ++ [⟨o.thread.update w, s.clock, .ofAccess o.opening result⟩] }

/-- Settles a call that has its access behind it. -/
def settleAt (engine : Engine) (s : System) (place : Nat) : System :=
  match s.passed[place]? with
  | some ⟨t, moment, .settling opening taken⟩ =>
    let (result, w) := (opening.settle engine.mapper t.request taken).runIn
      (t.world s.clock s.cache)
    { s with
      cache := w.cache
      passed := s.passed.set place ⟨t.update w, moment, .ended result⟩ }
  | _ => s

def step (engine : Engine) (s : System) : Move → System
  | .tick now => { s with clock := now }
  | .refresh config refreshToken random replies =>
    let w : World := ⟨s.clock, random, s.cache, replies, []⟩
    { s with cache := ((OAuth.refresh config refreshToken).runIn w).2.cache }
  | .start config request random replies =>
    s.openThread engine ⟨config, request, random, replies, []⟩
  | .access place => s.accessAt engine place
  | .settle place => s.settleAt engine place

def run (engine : Engine) (s : System) (moves : List Move) : System := moves.foldl (step engine) s

end System

def Passed.record (p : Passed) : CallRecord where
  config := p.thread.config
  request := p.thread.request
  moment := p.moment
  result := match p.passage with
    | .settling _ _ => none
    | .ended result => some (result.map .outcome)
  journal := p.thread.journal

/-- The calls of a system that have their access to the cache behind them, or have ended. -/
def System.history (s : System) : List CallRecord := s.passed.map Passed.record

/-! ## A call without interference -/

/-- A call whose moves are not mixed with those of others is a call of the engine. -/
theorem run_alone (engine : Engine) (s : System) (t : Thread) :
    ((s.openThread engine t).accessAt engine s.opened.length).settleAt engine s.passed.length =
      { s with
        cache := ((authenticate engine t.config t.request).runIn (t.world s.clock s.cache)).2.cache
        passed := s.passed ++ [⟨t.update
            ((authenticate engine t.config t.request).runIn (t.world s.clock s.cache)).2,
          s.clock, .ended
            ((authenticate engine t.config t.request).runIn (t.world s.clock s.cache)).1⟩] } := by
  obtain ⟨opened, random, -, hrun⟩ := draws_openCall engine t.config t.request t.random
  have hopen := hrun (t.world s.clock s.cache) rfl
  rw [authenticate_eq]
  cases opened with
  | error failure =>
    rw [Action.runIn_bind_error hopen]
    unfold System.openThread
    rw [hopen]
    simp [System.accessAt, System.settleAt]
  | ok opening =>
    rw [Action.runIn_bind_ok hopen, Action.runIn_bind, runIn_access]
    unfold System.openThread
    rw [hopen]
    simp only [System.accessAt, List.getElem?_concat_length, runIn_access]
    have herase (o : Opened) : (s.opened ++ [o]).eraseIdx s.opened.length = s.opened := by
      rw [List.eraseIdx_append_of_length_le (Nat.le_refl _)]
      simp
    rcases htouch : opening.touch engine.settings t.request s.clock s.cache with
      ⟨failure | taken, after, events⟩
    · simp [Thread.world, Thread.update, htouch, herase, Passage.ofAccess, System.settleAt]
    · simp [Thread.world, Thread.update, htouch, herase, Passage.ofAccess, System.settleAt]

/-! ## What keeps a system sound -/

/-- A call that has passed is a leg of a sign-in on a cache, or such a leg up to its access. -/
inductive Passed.IsLeg (engine : Engine) (p : Passed) (cache : MemoryCache) : MemoryCache → Prop
  | settling {opening : Opening} {taken : Datum} {after : MemoryCache}
    (passage_eq : p.passage = .settling opening taken)
    (opens : Opens engine p.thread.config p.thread.request (.ok opening))
    (touch_eq : opening.touch engine.settings p.thread.request p.moment cache =
      ⟨.ok taken, after, p.thread.journal⟩) : p.IsLeg engine cache after
  | ended {result : Except Failure Outcome} (replies : List Reply) {after : MemoryCache}
    (passage_eq : p.passage = .ended result)
    (leg : Leg engine p.thread.config p.thread.request p.moment cache replies
      (deeds p.thread.journal) result after) : p.IsLeg engine cache after

/-- What holds of a system in which every call has begun with an empty journal. -/
structure System.Sound (engine : Engine) (s : System) : Prop where
  opened : ∀ o ∈ s.opened, Opens engine o.thread.config o.thread.request (.ok o.opening) ∧
    o.thread.journal = []
  passed : Follows (Passed.IsLeg engine) ExpiringCache.empty s.passed s.cache

theorem follows_concat {α : Type} {step : α → MemoryCache → MemoryCache → Prop}
    {cache middle after : MemoryCache} {l : List α} {a : α} (h : Follows step cache l middle)
    (ha : step a middle after) : Follows step cache (l ++ [a]) after :=
  follows_append.2 ⟨middle, h, after, ha, rfl⟩

/-- A list still follows when one of its members is replaced by another that makes the same of the
cache. -/
theorem follows_set {α : Type} {step : α → MemoryCache → MemoryCache → Prop}
    {cache after : MemoryCache} {l : List α} {i : Nat} {a b : α} (h : Follows step cache l after)
    (ha : l[i]? = some a) (hb : ∀ before middle, step a before middle → step b before middle) :
    Follows step cache (l.set i b) after := by
  induction l generalizing cache i with
  | nil => cases ha
  | cons c l ih =>
    obtain ⟨middle, hc, hrest⟩ := h
    cases i with
    | zero =>
      obtain rfl := Option.some.inj ha
      exact ⟨middle, hb cache middle hc, hrest⟩
    | succ i => exact ⟨middle, hc, ih hrest ha⟩

theorem follows_map {α β : Type} {step : α → MemoryCache → MemoryCache → Prop}
    {other : β → MemoryCache → MemoryCache → Prop} {f : α → β} {cache after : MemoryCache}
    {l : List α} (hf : ∀ a before middle, step a before middle → other (f a) before middle)
    (h : Follows step cache l after) : Follows other cache (l.map f) after := by
  induction l generalizing cache with
  | nil => exact h
  | cons a l ih =>
    obtain ⟨middle, ha, hrest⟩ := h
    exact ⟨middle, hf a cache middle ha, ih hrest⟩

section sound

variable {engine : Engine} {s : System}

theorem sound_openThread (h : s.Sound engine) {t : Thread} (ht : t.journal = []) :
    (s.openThread engine t).Sound engine := by
  obtain ⟨opened, random, hopens, hrun⟩ := draws_openCall engine t.config t.request t.random
  unfold System.openThread
  rw [hrun (t.world s.clock s.cache) rfl]
  cases opened with
  | ok opening =>
    refine ⟨?_, h.passed⟩
    intro o ho
    rcases List.mem_append.1 ho with ho | ho
    · exact h.opened o ho
    · obtain rfl := List.mem_singleton.1 ho
      exact ⟨hopens, ht⟩
  | error failure =>
    refine ⟨h.opened, follows_concat h.passed ?_⟩
    cases hopens with
    | failed failure hinitiating =>
      refine .ended t.replies rfl ?_
      simp only [Thread.update, Thread.world, ht]
      exact .unopened failure hinitiating

theorem sound_accessAt (h : s.Sound engine) (place : Nat) :
    (s.accessAt engine place).Sound engine := by
  unfold System.accessAt
  cases ho : s.opened[place]? with
  | none => exact h
  | some o =>
    obtain ⟨hopens, hjournal⟩ := h.opened o (List.mem_of_getElem? ho)
    simp only [runIn_access]
    refine ⟨fun other hother => h.opened other (List.mem_of_mem_eraseIdx hother),
      follows_concat h.passed ?_⟩
    simp only [Thread.world, Thread.update, hjournal, List.nil_append]
    rcases htouch : o.opening.touch engine.settings o.thread.request s.clock s.cache with
      ⟨failure | taken, after, events⟩
    · exact .ended [] rfl (leg_of_touch_error hopens htouch)
    · exact .settling rfl hopens htouch

theorem sound_settleAt (h : s.Sound engine) (place : Nat) :
    (s.settleAt engine place).Sound engine := by
  unfold System.settleAt
  split
  · rename_i t moment opening taken hp
    obtain ⟨result, settled, rest, hsettles, hrun⟩ :=
      does_settle engine.mapper t.request taken opening t.replies
    rw [hrun (t.world s.clock s.cache) rfl]
    refine ⟨h.opened, follows_set h.passed hp ?_⟩
    intro before middle hleg
    cases hleg with
    | settling hpassage hopens htouch =>
      cases hpassage
      refine .ended t.replies rfl ?_
      simp only [Thread.update, World.journal_advance, Thread.world, deeds_append]
      exact leg_of_settles hopens htouch hsettles
    | ended replies hpassage hleg => cases hpassage
  · exact h

/-- A move keeps a system sound. -/
theorem sound_step (h : s.Sound engine) (move : Move) : (s.step engine move).Sound engine := by
  cases move with
  | tick now => exact ⟨h.opened, h.passed⟩
  | refresh config refreshToken random replies =>
    obtain ⟨result, events, rest, -, hrun⟩ := does_refresh config refreshToken replies
    simp only [System.step]
    rw [hrun ⟨s.clock, random, s.cache, replies, []⟩ rfl]
    exact ⟨h.opened, h.passed⟩
  | start config request random replies => exact sound_openThread h rfl
  | access place => exact sound_accessAt h place
  | settle place => exact sound_settleAt h place

theorem sound_run (h : s.Sound engine) (moves : List Move) : (s.run engine moves).Sound engine := by
  unfold System.run
  induction moves generalizing s with
  | nil => exact h
  | cons move rest ih => exact ih (sound_step h move)

end sound

/-! ## The history of a system -/

/-- Settling a call does not access the cache. -/
theorem accesses_of_settles {mapper : Mapper} {request : Request} {replies : List Reply}
    {taken : Datum} {opening : Opening} {es : List Event} {result : Except Failure Outcome}
    (h : Settles mapper request replies taken opening es result) : accesses es = [] := by
  cases h with
  | redirected => rfl
  | taken course => exact accesses_of_course course
  | passed course => exact accesses_of_course course

theorem accesses_of_touch {settings : Settings} {request : Request} {now : Instant}
    {cache after : MemoryCache} {opening : Opening} {taken : Datum} {events : List Event}
    (h : opening.touch settings request now cache = ⟨.ok taken, after, events⟩) :
    accesses events = deeds events := by
  cases opening with
  | stores config state challenge stored =>
    cases hset : cache.set now (.text (stateKey config request)) (.text stored)
      (some (pendingLifetime config settings)) with
    | error fault =>
      rw [touch_of_set_error hset] at h
      cases h
    | ok stocked =>
      rw [touch_of_set hset] at h
      cases h
      rfl
  | takes config =>
    cases h
    rfl
  | passes config =>
    cases h
    rfl

theorem isLeg_record {engine : Engine} {p : Passed} {cache after : MemoryCache}
    (h : p.IsLeg engine cache after) : p.record.IsLeg engine cache after := by
  cases h with
  | @settling opening taken after hpassage hopens htouch =>
    obtain ⟨result, settled, rest, hsettles, -⟩ :=
      does_settle engine.mapper p.thread.request taken opening p.thread.replies
    refine .underway (leg_of_settles hopens htouch hsettles) ?_ (by simp [Passed.record, hpassage])
    rw [accesses_append, accesses_of_settles hsettles, accesses_deeds, accesses_of_touch htouch,
      List.append_nil]
    rfl
  | @ended result replies after hpassage hleg =>
    exact .ended hleg (by simp [Passed.record, hpassage])

/-- The calls of a system follow each other on the cache, however their moves are mixed. -/
theorem follows_of_run (engine : Engine) (clock : Instant) (moves : List Move) :
    Follows (CallRecord.IsLeg engine) ExpiringCache.empty
      ((System.start clock).run engine moves).history
      ((System.start clock).run engine moves).cache := by
  have hstart : (System.start clock).Sound engine := ⟨by simp [System.start], rfl⟩
  exact follows_map (fun p _ _ => isLeg_record) (sound_run hstart moves).passed

/-- A history of an engine whose cache was empty at first and is written by nobody else. -/
inductive HistoryOf (engine : Engine) : List CallRecord → Prop
  /-- The sign-ins of a run come one after another. -/
  | sequential (clock : Instant) (random : RandomStream) {steps : List Step}
    (own : ∀ step ∈ steps, step.IsOwn) :
    HistoryOf engine (recordsOf engine steps (World.start clock random))
  /-- Concurrent calls come in the order of their accesses. -/
  | concurrent (clock : Instant) (moves : List Move) :
    HistoryOf engine ((System.start clock).run engine moves).history

theorem HistoryOf.exists_follows {engine : Engine} {history : List CallRecord}
    (h : HistoryOf engine history) :
    ∃ after, Follows (CallRecord.IsLeg engine) ExpiringCache.empty history after := by
  cases h with
  | sequential clock random hown =>
    exact ⟨_, follows_of_own (w := World.start clock random) hown⟩
  | concurrent clock moves => exact ⟨_, follows_of_run engine clock moves⟩

end OAuth

end SignIn
