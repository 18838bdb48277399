import Mathlib.Data.List.Induction
import SignIn.Proofs.Cache.Operations

/-!
# The cache in memory as an ideal map

An ideal map keeps what was last stored under a key until that is taken, deleted or stored over, and
looks at the expiry only when it is asked. It never sweeps, and it removes nothing by reading. As
long as the clock does not go back, the cache in memory cannot be told from it.
-/

namespace SignIn

/-- A map from keys to what was last stored under them. -/
abbrev IdealMap := Text → Option (CacheEntry Datum)

namespace IdealMap

def empty : IdealMap := fun _ => none

/-- The map with another entry under a key, or none. -/
def put (m : IdealMap) (key : Text) (entry : Option (CacheEntry Datum)) : IdealMap :=
  fun k => if k = key then entry else m k

@[simp] theorem put_self (m : IdealMap) (key : Text) (entry : Option (CacheEntry Datum)) :
    m.put key entry key = entry := if_pos rfl

theorem put_of_ne {m : IdealMap} {key other : Text} {entry : Option (CacheEntry Datum)}
    (h : other ≠ key) : m.put key entry other = m other := if_neg h

/-- What the map shows of a key at a moment: the value there before it expires, and null from the
moment of its expiry on. -/
inductive Shows (m : IdealMap) (now : Instant) (key : Text) : Datum → Prop
  | alive {entry : CacheEntry Datum} (held : m key = some entry)
    (before : ∀ t, entry.expiresAt = some t → now < t) : Shows m now key entry.value
  | gone (dead : ∀ entry, m key = some entry → ∃ t, entry.expiresAt = some t ∧ t ≤ now) :
    Shows m now key .null

/-- What the map answers to an operation at a moment, and what it is afterwards. -/
inductive Step (now : Instant) (m : IdealMap) : CacheOp → CacheAnswer → IdealMap → Prop
  | set {key value : Text} {lifetime : Option Lifetime} {expiresAt : Option Instant}
    (expires : ExpiresAt now lifetime expiresAt) :
    Step now m (.set key value lifetime) (.ok .null) (m.put key (some ⟨.text value, expiresAt⟩))
  | refused {key value : Text} {lifetime : Lifetime} {fault : Fault}
    (refused : lifetime.Refused fault) :
    Step now m (.set key value (some lifetime)) (.error fault) m
  | get {key : Text} {found : Datum} (shows : m.Shows now key found) :
    Step now m (.get key) (.ok found) m
  | take {key : Text} {found : Datum} (shows : m.Shows now key found) :
    Step now m (.take key) (.ok found) (m.put key none)
  | delete {key : Text} : Step now m (.delete key) (.ok .null) (m.put key none)

/-- The answers of a map in which nothing was stored to some calls, and what it is afterwards. -/
inductive Run : List CacheCall → List CacheAnswer → IdealMap → Prop
  | nil : Run [] [] empty
  | call {calls : List CacheCall} {answers : List CacheAnswer} {m after : IdealMap} {c : CacheCall}
    {answer : CacheAnswer} (run : Run calls answers m) (step : m.Step c.now c.op answer after) :
    Run (calls ++ [c]) (answers ++ [answer]) after

/-! ## The answers are determined -/

theorem Shows.unique {m : IdealMap} {now : Instant} {key : Text} {found other : Datum}
    (h : m.Shows now key found) (hother : m.Shows now key other) : found = other := by
  rcases h with ⟨held, before⟩ | ⟨dead⟩
  · rcases hother with ⟨held', -⟩ | ⟨dead⟩
    · exact congrArg CacheEntry.value (Option.some.inj (held.symm.trans held'))
    · obtain ⟨t, ht, hle⟩ := dead _ held
      exact absurd (before t ht) (Int.not_lt.2 hle)
  · rcases hother with ⟨held, before⟩ | -
    · obtain ⟨t, ht, hle⟩ := dead _ held
      exact absurd (before t ht) (Int.not_lt.2 hle)
    · rfl

theorem Step.unique {now : Instant} {m after otherAfter : IdealMap} {op : CacheOp}
    {answer other : CacheAnswer} (h : m.Step now op answer after)
    (hother : m.Step now op other otherAfter) : answer = other ∧ after = otherAfter := by
  cases h with
  | set expires =>
    cases hother with
    | set expires' =>
      obtain rfl :=
        Except.ok.inj ((expiresAt_iff.1 expires).symm.trans (expiresAt_iff.1 expires'))
      exact ⟨rfl, rfl⟩
    | refused refused =>
      cases (expiresAt_iff.1 expires).symm.trans (refused_iff_expiry.1 refused)
  | refused refused =>
    cases hother with
    | set expires =>
      cases (expiresAt_iff.1 expires).symm.trans (refused_iff_expiry.1 refused)
    | refused refused' =>
      obtain rfl :=
        Except.error.inj ((refused_iff.1 refused).2.symm.trans (refused_iff.1 refused').2)
      exact ⟨rfl, rfl⟩
  | get shows =>
    cases hother with
    | get shows' => exact ⟨congrArg Except.ok (shows.unique shows'), rfl⟩
  | take shows =>
    cases hother with
    | take shows' => exact ⟨congrArg Except.ok (shows.unique shows'), rfl⟩
  | delete =>
    cases hother
    exact ⟨rfl, rfl⟩

theorem run_nil_iff {answers : List CacheAnswer} {m : IdealMap} :
    Run [] answers m ↔ answers = [] ∧ m = empty := by
  constructor
  · intro h
    generalize hcalls : [] = calls at h
    cases h with
    | nil => exact ⟨rfl, rfl⟩
    | call => simp at hcalls
  · rintro ⟨rfl, rfl⟩
    exact .nil

/-- A run ends with the step of its last call. -/
theorem run_concat_iff {calls : List CacheCall} {c : CacheCall} {answers : List CacheAnswer}
    {after : IdealMap} : Run (calls ++ [c]) answers after ↔
      ∃ before answer m, answers = before ++ [answer] ∧ Run calls before m ∧
        m.Step c.now c.op answer after := by
  constructor
  · intro h
    generalize hcalls : calls ++ [c] = all at h
    cases h with
    | nil => simp at hcalls
    | call run step =>
      obtain ⟨rfl, hlast⟩ := List.append_inj' hcalls rfl
      obtain rfl := List.singleton_inj.1 hlast
      exact ⟨_, _, _, rfl, run, step⟩
  · rintro ⟨before, answer, m, rfl, run, step⟩
    exact .call run step

theorem Run.unique {calls : List CacheCall} {answers others : List CacheAnswer} {m n : IdealMap}
    (h : Run calls answers m) (hother : Run calls others n) : answers = others ∧ m = n := by
  induction h generalizing others n with
  | nil =>
    obtain ⟨rfl, rfl⟩ := run_nil_iff.1 hother
    exact ⟨rfl, rfl⟩
  | call run step ih =>
    obtain ⟨before, answer, m, rfl, run', step'⟩ := run_concat_iff.1 hother
    obtain ⟨rfl, rfl⟩ := ih run'
    obtain ⟨rfl, rfl⟩ := step.unique step'
    exact ⟨rfl, rfl⟩

/-! ## What a history leaves in the map -/

/-- A call that settles a key leaves there what it stores. -/
theorem Step.of_settles {m after : IdealMap} {c : CacheCall} {answer : CacheAnswer}
    (h : m.Step c.now c.op answer after) {key : Text} (hc : c.Settles key)
    {entry : CacheEntry Datum} :
    after key = some entry ↔ ∃ value lifetime, c.op = .set key value lifetime ∧
      ExpiresAt c.now lifetime entry.expiresAt ∧ entry.value = .text value := by
  obtain ⟨now, op⟩ := c
  cases h with
  | @set k value lifetime expiresAt expires =>
    obtain ⟨rfl, -⟩ := hc
    obtain ⟨found, foundExpiry⟩ := entry
    simp only [put_self, Option.some.injEq, CacheEntry.mk.injEq, CacheOp.set.injEq, true_and]
    constructor
    · rintro ⟨rfl, rfl⟩
      exact ⟨value, lifetime, ⟨rfl, rfl⟩, expires, rfl⟩
    · rintro ⟨value, lifetime, ⟨rfl, rfl⟩, expires', rfl⟩
      have h := (expiresAt_iff.1 expires).symm.trans (expiresAt_iff.1 expires')
      exact ⟨rfl, Except.ok.inj h⟩
  | refused refused =>
    obtain ⟨rfl, expiresAt, expires⟩ := hc
    cases (expiresAt_iff.1 expires).symm.trans (refused_iff_expiry.1 refused)
  | get shows => exact hc.elim
  | @take k found shows =>
    obtain rfl : k = key := hc
    simp
  | @delete k =>
    obtain rfl : k = key := hc
    simp

/-- A call that does not settle a key leaves what is there. -/
theorem Step.of_not_settles {m after : IdealMap} {c : CacheCall} {answer : CacheAnswer}
    (h : m.Step c.now c.op answer after) {key : Text} (hc : ¬ c.Settles key) :
    after key = m key := by
  obtain ⟨now, op⟩ := c
  cases h with
  | set expires => exact put_of_ne fun h => hc ⟨h.symm, _, expires⟩
  | refused refused => rfl
  | get shows => rfl
  | take shows => exact put_of_ne fun h => hc h.symm
  | delete => exact put_of_ne fun h => hc h.symm

/-- After a history the map holds what was last stored. -/
theorem Run.eq_some_iff {history : List CacheCall} {answers : List CacheAnswer} {m : IdealMap}
    (h : Run history answers m) {key : Text} {entry : CacheEntry Datum} :
    m key = some entry ↔
      ∃ value, entry.value = .text value ∧ LastStored history key value entry.expiresAt := by
  induction h with
  | nil => simp [empty, not_lastStored_nil]
  | @call history answers m after c answer run step ih =>
    by_cases hc : c.Settles key
    · simp only [step.of_settles hc, lastStored_concat_of_settles hc]
      constructor
      · rintro ⟨value, lifetime, hop, expires, hvalue⟩
        exact ⟨value, hvalue, lifetime, hop, expires⟩
      · rintro ⟨value, hvalue, lifetime, hop, expires⟩
        exact ⟨value, lifetime, hop, expires, hvalue⟩
    · rw [step.of_not_settles hc, ih]
      simp only [lastStored_concat_of_not_settles hc]

/-- After a history the map shows a text exactly where the text was last stored and has not
expired. -/
theorem Run.shows_iff {history : List CacheCall} {answers : List CacheAnswer} {m : IdealMap}
    (h : Run history answers m) {now : Instant} {key : Text} {found : Datum}
    (hshows : m.Shows now key found) : ∃ shown, found = Datum.ofText? shown ∧
      ∀ value, shown = some value ↔
        ∃ expiresAt, LastStored history key value expiresAt ∧ ∀ t, expiresAt = some t → now < t := by
  have hheld {value : Text} {expiresAt : Option Instant}
      (hstored : LastStored history key value expiresAt) : m key = some ⟨.text value, expiresAt⟩ :=
    h.eq_some_iff.2 ⟨value, rfl, hstored⟩
  rcases hshows with ⟨held, before⟩ | ⟨dead⟩
  · rename_i entry
    obtain ⟨shown, hshown, hstored⟩ := h.eq_some_iff.1 held
    refine ⟨some shown, hshown, fun value => ⟨?_, ?_⟩⟩
    · rintro ⟨⟩
      exact ⟨entry.expiresAt, hstored, before⟩
    · rintro ⟨expiresAt, hother, -⟩
      have hentry := Option.some.inj (held.symm.trans (hheld hother))
      rw [hentry] at hshown
      exact congrArg some (Datum.text.inj hshown).symm
  · refine ⟨none, rfl, fun value => iff_of_false nofun ?_⟩
    rintro ⟨expiresAt, hstored, before⟩
    obtain ⟨t, ht, hle⟩ := dead _ (hheld hstored)
    exact absurd (before t ht) (Int.not_lt.2 hle)

end IdealMap

/-! ## The cache in memory behaves as the map -/

/-- A cache and a map have the same live entries at a moment. -/
def Represents (now : Instant) (cache : MemoryCache) (m : IdealMap) : Prop :=
  ∀ key : Text, (cache.find? (.text key)).filter (CacheEntry.isLive now) =
    (m key).filter (CacheEntry.isLive now)

namespace Represents

variable {now later : Instant} {cache : MemoryCache} {m : IdealMap}

theorem empty (now : Instant) : Represents now ExpiringCache.empty IdealMap.empty := fun _ => rfl

/-- What is alive later is among what is alive now. -/
theorem of_le (h : Represents now cache m) (hle : now ≤ later) : Represents later cache m := by
  intro key
  rw [← CacheEntry.filter_isLive_of_le _ hle, h key, CacheEntry.filter_isLive_of_le _ hle]

/-- What a cache shows of a key is what the map shows. -/
theorem shows (h : Represents now cache m) (key : Text) :
    m.Shows now key ((cache.lookup now (.text key)).getD .null) := by
  rw [ExpiringCache.lookup_eq_filter, h key]
  cases held : m key with
  | none =>
    refine .gone fun entry hentry => ?_
    rw [held] at hentry
    cases hentry
  | some entry =>
    by_cases hlive : entry.isLive now = true
    · rw [Option.filter_some, if_pos hlive]
      exact .alive held (CacheEntry.isLive_iff.1 hlive)
    · rw [Option.filter_some, if_neg hlive]
      refine .gone fun other hother => ?_
      obtain rfl := Option.some.inj (held.symm.trans hother)
      simpa [CacheEntry.isLive_iff] using hlive

theorem set (h : Represents now cache m) {after : MemoryCache} {key value : Text}
    {lifetime : Option Lifetime} {expiresAt : Option Instant}
    (hset : cache.set now (.text key) (.text value) lifetime = .ok after)
    (hexpiry : expiry now lifetime = .ok expiresAt) :
    Represents now after (m.put key (some ⟨.text value, expiresAt⟩)) := by
  obtain ⟨t, ht, hfind⟩ := ExpiringCache.find?_of_set hset
  obtain rfl := Except.ok.inj (hexpiry.symm.trans ht)
  intro other
  rw [hfind]
  by_cases hother : other = key
  · rw [hother, if_pos rfl, IdealMap.put_self]
  · have hne : CacheKey.text other ≠ .text key := fun heq => hother (CacheKey.text.inj heq)
    rw [if_neg hne, IdealMap.put_of_ne hother, CacheEntry.filter_isLive_of_le _ (Int.le_refl now),
      h other]

theorem get (h : Represents now cache m) (key : Text) :
    Represents now (cache.get now (.text key)).2 m := by
  intro other
  rw [ExpiringCache.find?_get, ← h other]
  split
  · exact CacheEntry.filter_isLive_of_le _ (Int.le_refl now)
  · rfl

theorem erase (h : Represents now cache m) (key : Text) :
    Represents now (cache.erase (.text key)) (m.put key none) := by
  intro other
  rw [ExpiringCache.find?_erase]
  by_cases hother : other = key
  · rw [hother, if_pos rfl, IdealMap.put_self]
  · have hne : CacheKey.text other ≠ .text key := fun heq => hother (CacheKey.text.inj heq)
    rw [if_neg hne, IdealMap.put_of_ne hother, h other]

/-- A cache answers an operation as the map does, and goes on behaving as the map. -/
theorem step (h : Represents now cache m) (op : CacheOp) :
    ∃ after, m.Step now op (memoryMachine now cache op).1 after ∧
      Represents now (memoryMachine now cache op).2 after := by
  cases op with
  | set key value lifetime =>
    simp only [memoryMachine, MemoryCache.store_text]
    cases hexpiry : expiry now lifetime with
    | error fault =>
      rw [ExpiringCache.set_of_expiry_error cache _ _ hexpiry]
      cases lifetime with
      | none => cases hexpiry
      | some lifetime => exact ⟨m, .refused (refused_iff_expiry.2 hexpiry), h⟩
    | ok expiresAt =>
      obtain ⟨after, hset⟩ := cache.exists_set_of_expiry (.text key) (.text value) hexpiry
      rw [hset]
      exact ⟨_, .set (expiresAt_iff.2 hexpiry), h.set hset hexpiry⟩
  | get key => exact ⟨m, .get (h.shows key), h.get key⟩
  | take key => exact ⟨_, .take (h.shows key), h.erase key⟩
  | delete key => exact ⟨_, .delete, h.erase key⟩

end Represents

/-! ## Runs -/

def ClockRises (calls : List CacheCall) : Prop := calls.Pairwise fun c d => c.now ≤ d.now

def cacheAfter (calls : List CacheCall) : MemoryCache :=
  memoryMachine.after ExpiringCache.empty calls

theorem cacheAfter_concat (calls : List CacheCall) (c : CacheCall) :
    cacheAfter (calls ++ [c]) = (memoryMachine c.now (cacheAfter calls) c.op).2 :=
  memoryMachine.after_append _ calls [c]

/-- As long as the clock does not go back, the cache in memory answers as an ideal map and has the
same live entries. -/
theorem exists_run {calls : List CacheCall} (hclock : ClockRises calls) :
    ∃ m, IdealMap.Run calls (memoryMachine.answers ExpiringCache.empty calls) m ∧
      ∀ now, (∀ c ∈ calls, c.now ≤ now) → Represents now (cacheAfter calls) m := by
  induction calls using List.reverseRecOn with
  | nil => exact ⟨_, .nil, fun now _ => .empty now⟩
  | append_singleton calls c ih =>
    obtain ⟨hclock, -, hrises⟩ := List.pairwise_append.1 hclock
    obtain ⟨m, run, represents⟩ := ih hclock
    have hbefore := represents c.now fun d hd => hrises d hd c (List.mem_singleton_self c)
    obtain ⟨after, step, hafter⟩ := hbefore.step c.op
    refine ⟨after, ?_, fun now hnow => ?_⟩
    · rw [CacheMachine.answers_concat]
      exact .call run step
    · rw [cacheAfter_concat]
      exact hafter.of_le (hnow c (List.mem_append_right _ (List.mem_singleton_self c)))

/-- Where a take is followed by calls after which a value was last stored, one of them has stored
it. -/
theorem exists_set_of_lastStored {first second : List CacheCall} {now : Instant}
    {key value : Text} {expiresAt : Option Instant}
    (h : LastStored (first ++ ⟨now, .take key⟩ :: second) key value expiresAt) :
    ∃ c ∈ second, ∃ lifetime, c.op = .set key value lifetime := by
  induction second using List.reverseRecOn with
  | nil =>
    have htakes : CacheCall.Settles key ⟨now, .take key⟩ := rfl
    obtain ⟨lifetime, hop, -⟩ := (lastStored_concat_of_settles htakes).1 h
    cases hop
  | append_singleton second c ih =>
    rw [← List.cons_append, ← List.append_assoc] at h
    by_cases hc : c.Settles key
    · obtain ⟨lifetime, hop, -⟩ := (lastStored_concat_of_settles hc).1 h
      exact ⟨c, by simp, lifetime, hop⟩
    · obtain ⟨d, hd, hop⟩ := ih ((lastStored_concat_of_not_settles hc).1 h)
      exact ⟨d, List.mem_append_left _ hd, hop⟩

/-- Some answers to calls are those of an ideal map. -/
structure AnsweredIdeally (calls : List CacheCall) (answers : List CacheAnswer) : Prop where
  /-- A map that never sweeps, and removes nothing by reading, gives these answers and no others. -/
  unobserved : ∀ others, (∃ m, IdealMap.Run calls others m) ↔ others = answers
  /-- A key shows the text that was last stored there, if it has not expired, and nothing
  otherwise. -/
  shows : ∀ before now op rest key, calls = before ++ ⟨now, op⟩ :: rest →
    op = .get key ∨ op = .take key → ∃ found, answers[before.length]? =
      some (.ok (Datum.ofText? found)) ∧ ∀ value, found = some value ↔
        ∃ expiresAt, LastStored before key value expiresAt ∧ ∀ t, expiresAt = some t → now < t
  /-- What is stored is taken at most once: of two takes of a key the later one gives a text only if
  it was stored in between. -/
  once : ∀ first t₁ second t₂ rest key value,
    calls = first ++ ⟨t₁, .take key⟩ :: second ++ ⟨t₂, .take key⟩ :: rest →
      answers[(first ++ ⟨t₁, .take key⟩ :: second).length]? = some (.ok (.text value)) →
        ∃ c ∈ second, ∃ lifetime, c.op = .set key value lifetime

/-- What the cache in memory shows in a run is what was last stored and has not expired. -/
theorem answer_of_reads {before rest : List CacheCall} {now : Instant} {op : CacheOp} {key : Text}
    (hclock : ClockRises (before ++ ⟨now, op⟩ :: rest)) (hop : op = .get key ∨ op = .take key) :
    ∃ found, (memoryMachine.answers ExpiringCache.empty
        (before ++ ⟨now, op⟩ :: rest))[before.length]? = some (.ok (Datum.ofText? found)) ∧
      ∀ value, found = some value ↔
        ∃ expiresAt, LastStored before key value expiresAt ∧ ∀ t, expiresAt = some t → now < t := by
  obtain ⟨hclock, -, hrises⟩ := List.pairwise_append.1 hclock
  obtain ⟨m, run, represents⟩ := exists_run hclock
  have hnow := represents now fun c hc => hrises c hc _ List.mem_cons_self
  obtain ⟨found, hfound, hshows⟩ := run.shows_iff (hnow.shows key)
  refine ⟨found, ?_, hshows⟩
  rw [CacheMachine.getElem?_answers, ← hfound]
  rcases hop with rfl | rfl
  · rfl
  · rfl

/-- As long as the clock does not go back, the cache in memory is an ideal map to its callers. -/
theorem memory_answers_ideally {calls : List CacheCall} (hclock : ClockRises calls) :
    AnsweredIdeally calls (memoryMachine.answers ExpiringCache.empty calls) := by
  refine ⟨fun others => ?_, ?_, ?_⟩
  · obtain ⟨m, run, -⟩ := exists_run hclock
    constructor
    · rintro ⟨n, hother⟩
      exact (hother.unique run).1
    · rintro rfl
      exact ⟨m, run⟩
  · rintro before now op rest key rfl hop
    exact answer_of_reads hclock hop
  · rintro first t₁ second t₂ rest key value rfl hvalue
    obtain ⟨found, hfound, hshows⟩ := answer_of_reads hclock (.inr rfl)
    rw [hfound] at hvalue
    cases found with
    | none => cases hvalue
    | some other =>
      obtain rfl : other = value := Datum.text.inj (Except.ok.inj (Option.some.inj hvalue))
      obtain ⟨expiresAt, hstored, -⟩ := (hshows other).1 rfl
      exact exists_set_of_lastStored hstored

/-- A text is stored for ten seconds and read, another is stored for good, and both are asked for
when the ten seconds are over. -/
def lapsingCalls : List CacheCall :=
  let later : Instant := 10 * Binary64.one
  [⟨0, .set "k" "v" (some (.whole 10))⟩, ⟨1, .get "k"⟩, ⟨2, .set "j" "w" (some (.whole 0))⟩,
    ⟨9 * Binary64.one, .get "k"⟩, ⟨later, .take "k"⟩, ⟨later, .take "j"⟩, ⟨later, .take "j"⟩]

theorem lapsingCalls_answered_ideally :
    ClockRises lapsingCalls ∧
      AnsweredIdeally lapsingCalls (memoryMachine.answers ExpiringCache.empty lapsingCalls) ∧
      (memoryMachine.answers ExpiringCache.empty lapsingCalls).map
        (fun answer => answer.toOption.map Datum.text?) =
        [some none, some (some ("v" : Text)), some none, some (some ("v" : Text)), some none,
          some (some ("w" : Text)), some none] := by
  have hclock : ClockRises lapsingCalls := by
    unfold ClockRises lapsingCalls
    decide
  exact ⟨hclock, memory_answers_ideally hclock, by decide +kernel⟩

end SignIn
