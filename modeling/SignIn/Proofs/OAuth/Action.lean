import SignIn.OAuth.World
import SignIn.Proofs.Running

/-!
# Running actions

How an action that is put together from others runs, and what a run leaves in the journal. Log
records apart, the journal lists the deeds of a run: accesses to the cache, calls, requests that went
out and claims that were handed to the mapper.
-/

namespace SignIn

namespace OAuth

/-! ## Events -/

/-- Whether an event is more than a log record. -/
def Event.isDeed : Event → Bool
  | .logged _ => false
  | _ => true

/-- Events without log records. -/
def deeds (events : List Event) : List Event := events.filter Event.isDeed

@[simp] theorem deeds_nil : deeds [] = [] := rfl

@[simp] theorem deeds_append (first second : List Event) :
    deeds (first ++ second) = deeds first ++ deeds second :=
  List.filter_append first second

@[simp] theorem deeds_logged (records : List LogRecord) : deeds (records.map .logged) = [] := by
  simp [deeds, Event.isDeed]

theorem mem_deeds {e : Event} {events : List Event} (he : e.isDeed = true) :
    e ∈ deeds events ↔ e ∈ events := by
  simp [deeds, he]

/-! ## Worlds -/

/-- A world in which some more has happened and other answers are left. -/
def World.advance (w : World) (replies : List Reply) (events : List Event) : World :=
  { w with replies := replies, journal := w.journal ++ events }

@[simp] theorem World.advance_advance (w : World) (first second : List Reply)
    (before after : List Event) :
    (w.advance first before).advance second after = w.advance second (before ++ after) := by
  simp [World.advance]

@[simp] theorem World.replies_advance (w : World) (replies : List Reply) (events : List Event) :
    (w.advance replies events).replies = replies := rfl

@[simp] theorem World.journal_advance (w : World) (replies : List Reply) (events : List Event) :
    (w.advance replies events).journal = w.journal ++ events := rfl

@[simp] theorem World.clock_advance (w : World) (replies : List Reply) (events : List Event) :
    (w.advance replies events).clock = w.clock := rfl

@[simp] theorem World.cache_advance (w : World) (replies : List Reply) (events : List Event) :
    (w.advance replies events).cache = w.cache := rfl

theorem World.advance_self (w : World) : w.advance w.replies [] = w := by
  simp [World.advance]

namespace Action

variable {α β : Type}

/-! ## Runs -/

@[simp] theorem runIn_pure (a : α) (w : World) : (pure a : Action α).runIn w = (.ok a, w) := rfl

theorem runIn_bind (action : Action α) (next : α → Action β) (w : World) :
    (action >>= next).runIn w =
      match action.runIn w with
      | (.ok a, after) => (next a).runIn after
      | (.error failure, after) => (.error failure, after) := by
  rcases hrun : action.runIn w with ⟨failure | a, after⟩
  · exact run_bind_error hrun
  · exact run_bind_ok hrun

theorem runIn_bind_ok {action : Action α} {next : α → Action β} {w after : World} {a : α}
    (h : action.runIn w = (.ok a, after)) : (action >>= next).runIn w = (next a).runIn after :=
  run_bind_ok h

theorem runIn_bind_error {action : Action α} {next : α → Action β} {w after : World}
    {failure : Failure} (h : action.runIn w = (.error failure, after)) :
    (action >>= next).runIn w = (.error failure, after) :=
  run_bind_error h

theorem runIn_map (f : α → β) (action : Action α) (w : World) :
    (f <$> action).runIn w = ((action.runIn w).1.map f, (action.runIn w).2) := by
  rw [map_eq_pure_bind, runIn_bind]
  rcases action.runIn w with ⟨_ | _, after⟩ <;> rfl

@[simp] theorem runIn_get (w : World) : (get : Action World).runIn w = (.ok w, w) := rfl

@[simp] theorem runIn_set (after w : World) :
    (set after : Action PUnit).runIn w = (.ok ⟨⟩, after) := rfl

@[simp] theorem runIn_note (e : Event) (w : World) :
    (note e).runIn w = (.ok (), w.advance w.replies [e]) := rfl

@[simp] theorem runIn_log (severity : Severity) (source : LogSource) (parts : List Text)
    (w : World) :
    (log severity source parts).runIn w =
      (.ok (), w.advance w.replies [.logged (.of severity source parts)]) := rfl

theorem runIn_logAll (records : List LogRecord) (w : World) :
    (logAll records).runIn w = (.ok (), w.advance w.replies (records.map .logged)) := by
  induction records generalizing w with
  | nil =>
    rw [List.map_nil, World.advance_self]
    rfl
  | cons r rest ih =>
    rw [logAll, runIn_bind_ok (runIn_note (.logged r) w), ih]
    simp

@[simp] theorem runIn_fail (error : AuthError) (w : World) :
    (fail error : Action α).runIn w = (.error (.auth error), w) := rfl

@[simp] theorem runIn_faulty (fault : Fault) (w : World) :
    (faulty fault : Action α).runIn w = (.error (.fault fault), w) := rfl

@[simp] theorem runIn_ofExcept (result : Except Failure α) (w : World) :
    (ofExcept result).runIn w = (result, w) := by
  cases result <;> rfl

@[simp] theorem runIn_ofFault (result : Except Fault α) (w : World) :
    (ofFault result).runIn w = (result.mapError .fault, w) := by
  cases result <;> rfl

@[simp] theorem runIn_draw (f : RandomStream → α × RandomStream) (w : World) :
    (draw f).runIn w = (.ok (f w.random).1, { w with random := (f w.random).2 }) := rfl

theorem runIn_nextReply (w : World) :
    nextReply.runIn w =
      (.ok (w.replies.headD (.answer Answer.notFound)), w.advance w.replies.tail []) := by
  rw [nextReply, runIn_bind_ok (runIn_get w)]
  obtain ⟨clock, random, cache, replies, journal⟩ := w
  cases replies with
  | nil =>
    simp only [World.advance, List.append_nil]
    rfl
  | cons reply rest =>
    simp only [World.advance, List.append_nil]
    rfl

/-! ## Accesses to the cache -/

theorem runIn_onCache (act : Instant → MemoryCache → Except Fault α × MemoryCache) (w : World) :
    (onCache act).runIn w =
      ((act w.clock w.cache).1.mapError .fault, { w with cache := (act w.clock w.cache).2 }) := by
  rw [onCache, runIn_bind_ok (runIn_get w)]
  exact (runIn_bind_ok (runIn_set _ w)).trans (runIn_ofFault _ _)

/-- Storing writes down the access, and that it succeeded if it did. -/
theorem runIn_cacheSet (key value : Datum) (lifetime : Option Lifetime) (w : World) :
    (cacheSet key value lifetime).runIn w =
      match w.cache.store w.clock key value lifetime with
      | (.ok (), after) =>
        (.ok (), { w with
          cache := after
          journal := w.journal ++ [.cacheSet key value lifetime,
            .logged (MemoryCache.storedRecord key lifetime)] })
      | (.error fault, after) =>
        (.error (.fault fault), { w with
          cache := after
          journal := w.journal ++ [.cacheSet key value lifetime] }) := by
  rw [cacheSet, runIn_bind_ok (runIn_note _ w)]
  rcases hstore : w.cache.store w.clock key value lifetime with ⟨fault | done, after⟩
  · apply runIn_bind_error
    rw [runIn_onCache]
    simp only [World.advance, hstore]
    rfl
  · have hrun : (onCache fun now cache => cache.store now key value lifetime).runIn
        (w.advance w.replies [.cacheSet key value lifetime]) =
          (.ok (), { w.advance w.replies [.cacheSet key value lifetime] with
            cache := after }) := by
      rw [runIn_onCache]
      simp only [World.advance, hstore]
      rfl
    rw [runIn_bind_ok hrun]
    simp [World.advance]

/-- Storing under a text succeeds if the expiry can be told. -/
theorem runIn_cacheSet_text (key : Text) (value : Datum) (lifetime : Option Lifetime) (w : World) :
    (cacheSet (.text key) value lifetime).runIn w =
      match w.cache.set w.clock (.text key) value lifetime with
      | .ok after =>
        (.ok (), { w with
          cache := after
          journal := w.journal ++ [.cacheSet (.text key) value lifetime,
            .logged (MemoryCache.storedRecord (.text key) lifetime)] })
      | .error fault =>
        (.error (.fault fault), w.advance w.replies [.cacheSet (.text key) value lifetime]) := by
  rw [runIn_cacheSet, MemoryCache.store_text]
  cases w.cache.set w.clock (.text key) value lifetime <;> rfl

/-- What is read or taken is written down unless the key is none. -/
theorem runIn_onCache_noted (act : Instant → MemoryCache → Except Fault Datum × MemoryCache)
    (event : Datum → Event) (w : World) :
    (onCache act >>= fun value => note (event value) >>= fun _ => pure value).runIn w =
      match act w.clock w.cache with
      | (.ok value, after) =>
        (.ok value, { w with cache := after, journal := w.journal ++ [event value] })
      | (.error fault, after) => (.error (.fault fault), { w with cache := after }) := by
  rcases hact : act w.clock w.cache with ⟨fault | value, after⟩
  · apply runIn_bind_error
    rw [runIn_onCache, hact]
    rfl
  · have hrun : (onCache act).runIn w = (.ok value, { w with cache := after }) := by
      rw [runIn_onCache, hact]
      rfl
    rw [runIn_bind_ok hrun]
    rfl

/-- Taking the value of a text out always succeeds. -/
theorem runIn_cacheTake_text (key : Text) (w : World) :
    (cacheTake (.text key)).runIn w =
      let value := (w.cache.lookup w.clock (.text key)).getD .null
      (.ok value, { w with
        cache := w.cache.erase (.text key)
        journal := w.journal ++ [.cacheTake (.text key) value] }) := by
  rfl

end Action

/-! ## Exchanges alone -/

variable {α β : Type}

/-- An action that depends on nothing but the replies that are left, and changes nothing else but the
journal, with what holds of its deeds, of the replies it leaves and of its result. -/
def Does (action : Action α) (replies : List Reply)
    (p : List Event → List Reply → Except Failure α → Prop) : Prop :=
  ∃ result events rest, p (deeds events) rest result ∧
    ∀ w : World, w.replies = replies → action.runIn w = (result, w.advance rest events)

namespace Does

variable {action : Action α} {next : α → Action β} {replies : List Reply}
  {p : List Event → List Reply → Except Failure α → Prop}
  {q : List Event → List Reply → Except Failure β → Prop}

theorem weaken {p' : List Event → List Reply → Except Failure α → Prop} (h : Does action replies p)
    (hp : ∀ es rest result, p es rest result → p' es rest result) : Does action replies p' := by
  obtain ⟨result, events, rest, hresult, hrun⟩ := h
  exact ⟨result, events, rest, hp _ _ _ hresult, hrun⟩

/-- The deeds of two actions are those of the first, and those of the second unless the first
fails. -/
theorem bind (h : Does action replies p)
    (hfail : ∀ es rest failure, p es rest (.error failure) → q es rest (.error failure))
    (hnext : ∀ es rest a, p es rest (.ok a) →
      Does (next a) rest fun es' rest' result => q (es ++ es') rest' result) :
    Does (action >>= next) replies q := by
  obtain ⟨result, events, rest, hresult, hrun⟩ := h
  cases result with
  | error failure =>
    exact ⟨.error failure, events, rest, hfail _ _ _ hresult,
      fun w hw => Action.runIn_bind_error (hrun w hw)⟩
  | ok a =>
    obtain ⟨result', events', rest', hresult', hrun'⟩ := hnext _ _ a hresult
    refine ⟨result', events ++ events', rest', by rwa [deeds_append], ?_⟩
    intro w hw
    rw [Action.runIn_bind_ok (hrun w hw), hrun' (w.advance rest events) rfl,
      World.advance_advance]

/-- An action that comes to a result without doing anything. -/
theorem of_runIn {result : Except Failure α} (hrun : ∀ w, action.runIn w = (result, w))
    (hp : p [] replies result) : Does action replies p := by
  refine ⟨result, [], replies, hp, ?_⟩
  rintro w rfl
  rw [hrun, World.advance_self]

theorem note {e : Event} {p : List Event → List Reply → Except Failure Unit → Prop}
    (hp : p (deeds [e]) replies (.ok ())) : Does (Action.note e) replies p := by
  refine ⟨.ok (), [e], replies, hp, ?_⟩
  rintro w rfl
  exact Action.runIn_note e w

theorem logAll {records : List LogRecord}
    {p : List Event → List Reply → Except Failure Unit → Prop} (hp : p [] replies (.ok ())) :
    Does (Action.logAll records) replies p := by
  refine ⟨.ok (), records.map .logged, replies, by rwa [deeds_logged], ?_⟩
  rintro w rfl
  exact Action.runIn_logAll records w

theorem nextReply {p : List Event → List Reply → Except Failure Reply → Prop}
    (hp : p [] replies.tail (.ok (replies.headD (.answer Answer.notFound)))) :
    Does Action.nextReply replies p := by
  refine ⟨_, [], replies.tail, hp, ?_⟩
  rintro w rfl
  exact Action.runIn_nextReply w

/-- An event is written down before an action. -/
theorem note_bind {e : Event} (h : Does action replies fun es => p (deeds [e] ++ es)) :
    Does (Action.note e >>= fun _ => action) replies p := by
  have hnote : Does (Action.note e) replies fun es rest result =>
      es = deeds [e] ∧ rest = replies ∧ result = .ok () := note ⟨rfl, rfl, rfl⟩
  apply hnote.bind (by simp)
  rintro _ _ _ ⟨rfl, rfl, -⟩
  exact h

/-- Log records before an action are no deeds. -/
theorem log_bind {severity : Severity} {source : LogSource} {parts : List Text}
    (h : Does action replies p) :
    Does (Action.log severity source parts >>= fun _ => action) replies p :=
  note_bind h

theorem logAll_bind {records : List LogRecord} (h : Does action replies p) :
    Does (Action.logAll records >>= fun _ => action) replies p := by
  have hlog : Does (Action.logAll records) replies fun es rest result =>
      es = [] ∧ rest = replies ∧ result = .ok () := logAll ⟨rfl, rfl, rfl⟩
  apply hlog.bind (by simp)
  rintro _ _ _ ⟨rfl, rfl, -⟩
  exact h

end Does

/-! ## Draws alone -/

/-- An action that depends on nothing but the random stream, and changes nothing else, with what
holds of its result. -/
def Draws (action : Action α) (p : Except Failure α → Prop) : Prop :=
  ∀ random : RandomStream, ∃ result after, p result ∧
    ∀ w : World, w.random = random → action.runIn w = (result, { w with random := after })

namespace Draws

variable {action : Action α} {next : α → Action β} {p : Except Failure α → Prop}
  {q : Except Failure β → Prop}

theorem bind (h : Draws action p) (hfail : ∀ failure, p (.error failure) → q (.error failure))
    (hnext : ∀ a, p (.ok a) → Draws (next a) q) : Draws (action >>= next) q := by
  intro random
  obtain ⟨result, middle, hresult, hrun⟩ := h random
  cases result with
  | error failure =>
    exact ⟨.error failure, middle, hfail failure hresult,
      fun w hw => Action.runIn_bind_error (hrun w hw)⟩
  | ok a =>
    obtain ⟨result', after, hresult', hrun'⟩ := hnext a hresult middle
    refine ⟨result', after, hresult', ?_⟩
    intro w hw
    rw [Action.runIn_bind_ok (hrun w hw), hrun' { w with random := middle } rfl]

theorem of_runIn {result : Except Failure α} (hrun : ∀ w, action.runIn w = (result, w))
    (hp : p result) : Draws action p := by
  intro random
  refine ⟨result, random, hp, ?_⟩
  rintro w rfl
  exact hrun w

theorem draw {f : RandomStream → α × RandomStream} (hp : ∀ random, p (.ok (f random).1)) :
    Draws (Action.draw f) p := by
  intro random
  refine ⟨_, (f random).2, hp random, ?_⟩
  rintro w rfl
  exact Action.runIn_draw f w

end Draws

end OAuth

end SignIn
