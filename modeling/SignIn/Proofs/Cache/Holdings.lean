import SignIn.Proofs.Cache.IdealMap

/-!
# What the cache in memory holds

An expired entry stays in the cache in memory until something removes it. A write removes all
expired entries and no other ones, and nothing but a write adds an entry. So entries that nobody
asks for any more do not accumulate.
-/

namespace SignIn

namespace ExpiringCache

variable {κ α : Type}

/-- The keys of the held entries, expired or not. -/
def keys (c : ExpiringCache κ α) : List κ := c.entries.map Prod.fst

theorem mem_keys_iff [DecidableEq κ] {c : ExpiringCache κ α} {key : κ} :
    key ∈ c.keys ↔ ∃ entry, c.find? key = some entry := by
  rw [← not_iff_not, ← Option.isSome_iff_exists, Option.not_isSome_iff_eq_none, find?,
    List.lookup_eq_none_iff]
  simp only [keys, List.mem_map, not_exists, not_and, bne_iff_ne, ne_eq]
  exact forall₂_congr fun e _ => not_congr eq_comm

theorem size_keep_le (p : κ × CacheEntry α → Bool) (c : ExpiringCache κ α) :
    (c.keep p).size ≤ c.size :=
  List.length_filter_le p c.entries

end ExpiringCache

/-! ## Keys -/

namespace MemoryCache

def HasTextKeys (cache : MemoryCache) : Prop :=
  ∀ k entry, cache.find? k = some entry → ∃ key, k = .text key

namespace HasTextKeys

variable {cache : MemoryCache}

theorem empty : HasTextKeys ExpiringCache.empty := nofun

theorem keep (h : HasTextKeys cache) (p : CacheKey × CacheEntry Datum → Bool) :
    HasTextKeys (cache.keep p) := by
  intro k entry hfind
  rw [ExpiringCache.find?_keep] at hfind
  exact h k entry (Option.filter_eq_some_iff.1 hfind).1

theorem set (h : HasTextKeys cache) {now : Instant} {key : Text} {value : Datum}
    {lifetime : Option Lifetime} {after : MemoryCache}
    (hset : cache.set now (.text key) value lifetime = .ok after) : HasTextKeys after := by
  obtain ⟨expiresAt, -, hfinds⟩ := ExpiringCache.find?_of_set hset
  intro k entry hfind
  rw [hfinds] at hfind
  split at hfind
  · exact ⟨key, ‹_›⟩
  · exact h k entry (Option.filter_eq_some_iff.1 hfind).1

/-- No operation stores under a key that is no text. -/
theorem step (h : HasTextKeys cache) (now : Instant) (op : CacheOp) :
    HasTextKeys (memoryMachine now cache op).2 := by
  cases op with
  | set key value lifetime =>
    simp only [memoryMachine, MemoryCache.store_text]
    cases hset : cache.set now (.text key) (.text value) lifetime with
    | error fault => exact h
    | ok after => exact h.set hset
  | get key => exact h.keep _
  | take key => exact h.keep _
  | delete key => exact h.keep _

end HasTextKeys

end MemoryCache

/-! ## Runs -/

theorem hasTextKeys_cacheAfter (calls : List CacheCall) : (cacheAfter calls).HasTextKeys := by
  induction calls using List.reverseRecOn with
  | nil => exact .empty
  | append_singleton calls c ih =>
    rw [cacheAfter_concat]
    exact ih.step c.now c.op

/-- What was last stored under a key stands at a moment: it has not expired, and nothing has taken
or deleted it. -/
def Stands (history : List CacheCall) (now : Instant) (key : Text) : Prop :=
  ∃ value expiresAt, LastStored history key value expiresAt ∧ ∀ t, expiresAt = some t → now < t

/-- As long as the clock does not go back, the live entries are those of the keys under which what
was last stored stands. -/
theorem exists_live_iff {history : List CacheCall} {now : Instant} (hclock : ClockRises history)
    (hnow : ∀ c ∈ history, c.now ≤ now) {key : Text} :
    (∃ entry, (cacheAfter history).find? (.text key) = some entry ∧ entry.isLive now = true) ↔
      Stands history now key := by
  obtain ⟨m, run, represents⟩ := exists_run hclock
  simp only [← Option.filter_eq_some_iff, represents now hnow key]
  simp only [Option.filter_eq_some_iff]
  constructor
  · rintro ⟨entry, hentry, hlive⟩
    obtain ⟨value, -, hstored⟩ := run.eq_some_iff.1 hentry
    exact ⟨value, entry.expiresAt, hstored, CacheEntry.isLive_iff.1 hlive⟩
  · rintro ⟨value, expiresAt, hstored, hlater⟩
    exact ⟨⟨.text value, expiresAt⟩, run.eq_some_iff.2 ⟨value, rfl, hstored⟩,
      CacheEntry.isLive_iff.2 hlater⟩

/-! ## Writes and other calls -/

/-- Whether a call stores something: it is a write whose expiry can be told. -/
def CacheCall.Stores (c : CacheCall) : Prop :=
  ∃ key value lifetime expiresAt, c.op = .set key value lifetime ∧
    ExpiresAt c.now lifetime expiresAt

/-- A write whose expiry cannot be told leaves the cache as it is. -/
theorem memoryMachine_of_refused {now : Instant} {key value : Text} {lifetime : Option Lifetime}
    (h : ∀ expiresAt, ¬ ExpiresAt now lifetime expiresAt) (cache : MemoryCache) :
    (memoryMachine now cache (.set key value lifetime)).2 = cache := by
  cases hexpiry : expiry now lifetime with
  | error fault => simp only [memoryMachine, MemoryCache.store, hexpiry]
  | ok expiresAt => exact absurd (expiresAt_iff.2 hexpiry) (h expiresAt)

/-- Only a call that stores something makes the cache larger. -/
theorem size_memoryMachine_le {c : CacheCall} (hc : ¬ c.Stores) (cache : MemoryCache) :
    (memoryMachine c.now cache c.op).2.size ≤ cache.size := by
  obtain ⟨now, op⟩ := c
  cases op with
  | set key value lifetime =>
    have hrefused (expiresAt : Option Instant) : ¬ ExpiresAt now lifetime expiresAt :=
      fun expires => hc ⟨key, value, lifetime, expiresAt, rfl, expires⟩
    exact Nat.le_of_eq (congrArg _ (memoryMachine_of_refused hrefused cache))
  | get key => exact ExpiringCache.size_keep_le _ cache
  | take key => exact ExpiringCache.size_keep_le _ cache
  | delete key => exact ExpiringCache.size_keep_le _ cache

/-- Calls that store nothing do not make the cache larger. -/
theorem size_cacheAfter_append_le (before : List CacheCall) {since : List CacheCall}
    (hsince : ∀ c ∈ since, ¬ c.Stores) :
    (cacheAfter (before ++ since)).size ≤ (cacheAfter before).size := by
  induction since using List.reverseRecOn with
  | nil => exact Nat.le_of_eq (by rw [List.append_nil])
  | append_singleton since c ih =>
    obtain ⟨hsince, hlast⟩ := List.forall_mem_append.1 hsince
    rw [← List.append_assoc, cacheAfter_concat]
    exact Nat.le_trans (size_memoryMachine_le (hlast c (List.mem_singleton_self c)) _) (ih hsince)

/-- Right after something is stored, the held keys are the key of that and the keys under which what
was last stored stands. -/
theorem mem_keys_cacheAfter_concat_iff {history : List CacheCall} {now : Instant}
    (hclock : ClockRises history) (hnow : ∀ c ∈ history, c.now ≤ now) {key value : Text}
    {lifetime : Option Lifetime} {expiresAt : Option Instant}
    (expires : ExpiresAt now lifetime expiresAt) {k : CacheKey} :
    k ∈ (cacheAfter (history ++ [⟨now, .set key value lifetime⟩])).keys ↔
      ∃ other, k = .text other ∧ (other = key ∨ Stands history now other) := by
  obtain ⟨after, hset⟩ :=
    (cacheAfter history).exists_set_of_expiry (.text key) (.text value) (expiresAt_iff.1 expires)
  have hafter : cacheAfter (history ++ [⟨now, .set key value lifetime⟩]) = after := by
    simp only [cacheAfter_concat, memoryMachine, MemoryCache.store_text, hset]
  obtain ⟨t, -, hfind⟩ := ExpiringCache.find?_of_set hset
  have htext (other : Text) : (∃ entry, after.find? (.text other) = some entry) ↔
      other = key ∨ Stands history now other := by
    rw [hfind, ← exists_live_iff hclock hnow]
    by_cases hother : other = key
    · simp [hother]
    · have hne : CacheKey.text other ≠ .text key := fun heq => hother (CacheKey.text.inj heq)
      simp only [if_neg hne, Option.filter_eq_some_iff, hother, false_or]
  rw [hafter, ExpiringCache.mem_keys_iff]
  constructor
  · rintro ⟨entry, hentry⟩
    obtain ⟨other, rfl⟩ := (hasTextKeys_cacheAfter history).set hset k entry hentry
    exact ⟨other, rfl, (htext other).1 ⟨entry, hentry⟩⟩
  · rintro ⟨other, rfl, hother⟩
    exact (htext other).2 hother

/-- In a run, entries that nobody asks for do not accumulate in the cache. -/
structure DoesNotAccumulate (calls : List CacheCall) : Prop where
  /-- Right after something is stored, no other keys are held than the key of that and those under
  which what was last stored stands. -/
  swept : ∀ before now key value lifetime expiresAt rest,
    calls = before ++ ⟨now, .set key value lifetime⟩ :: rest →
    ExpiresAt now lifetime expiresAt →
    ∀ k, k ∈ (cacheAfter (before ++ [⟨now, .set key value lifetime⟩])).keys ↔
      ∃ other, k = .text other ∧ (other = key ∨ Stands before now other)
  /-- A write whose expiry cannot be told changes nothing. -/
  refused : ∀ before now key value lifetime rest,
    calls = before ++ ⟨now, .set key value lifetime⟩ :: rest →
    (∀ expiresAt, ¬ ExpiresAt now lifetime expiresAt) →
    cacheAfter (before ++ [⟨now, .set key value lifetime⟩]) = cacheAfter before
  /-- A call that stores nothing does not make the cache larger. -/
  shrinks : ∀ before c rest, calls = before ++ c :: rest → ¬ c.Stores →
    (cacheAfter (before ++ [c])).size ≤ (cacheAfter before).size
  /-- Until something more is stored, the cache is not larger than it was, in particular not larger
  than right after the last write. -/
  bounded : ∀ before since rest, calls = before ++ since ++ rest → (∀ c ∈ since, ¬ c.Stores) →
    (cacheAfter (before ++ since)).size ≤ (cacheAfter before).size

/-- As long as the clock does not go back, entries that nobody asks for do not accumulate in the
cache. -/
theorem entries_do_not_accumulate {calls : List CacheCall} (hclock : ClockRises calls) :
    DoesNotAccumulate calls where
  swept := by
    rintro before now key value lifetime expiresAt rest rfl expires k
    obtain ⟨hbefore, -, hrises⟩ := List.pairwise_append.1 hclock
    exact mem_keys_cacheAfter_concat_iff hbefore
      (fun c hc => hrises c hc _ List.mem_cons_self) expires
  refused := by
    intro before now key value lifetime rest _ hrefused
    rw [cacheAfter_concat, memoryMachine_of_refused hrefused]
  shrinks := by
    intro before c rest _ hc
    rw [cacheAfter_concat]
    exact size_memoryMachine_le hc _
  bounded := fun before _ _ _ hsince => size_cacheAfter_append_le before hsince

/-- Two texts are stored, one of them for ten seconds and never asked for again, and a third one is
stored when the ten seconds are over. -/
def abandoningCalls : List CacheCall :=
  [⟨0, .set "k" "v" (some (.whole 10))⟩, ⟨1, .set "j" "w" none⟩,
    ⟨10 * Binary64.one, .set "i" "u" (some (.whole 10))⟩]

theorem abandoningCalls_do_not_accumulate :
    ClockRises abandoningCalls ∧ DoesNotAccumulate abandoningCalls ∧
      (cacheAfter abandoningCalls).keys = [.text "i", .text "j"] := by
  have hclock : ClockRises abandoningCalls := by
    unfold ClockRises abandoningCalls
    decide
  exact ⟨hclock, entries_do_not_accumulate hclock, by decide +kernel⟩

/-- Ten to the four hundredth, a number of seconds that no floating-point number is near to. -/
def boundlessSeconds : Int := Int.ofNat (Nat.pow 10 400)

/-- A write for more seconds than the clock can tell is refused, so its key is not held
afterwards. -/
theorem boundless_write_not_held :
    0 < boundlessSeconds ∧ ClockRises [⟨0, .set "k" "v" (some (.whole boundlessSeconds))⟩] ∧
      ¬ ∀ k, k ∈ (cacheAfter [⟨0, .set "k" "v" (some (.whole boundlessSeconds))⟩]).keys ↔
        ∃ other, k = .text other ∧ (other = "k" ∨ Stands [] 0 other) := by
  refine ⟨by decide +kernel, List.pairwise_singleton _ _, fun hheld => ?_⟩
  have hkeys : (cacheAfter [⟨0, .set "k" "v" (some (.whole boundlessSeconds))⟩]).keys = [] := by
    decide +kernel
  have hmem := (hheld (.text "k")).2 ⟨"k", rfl, .inl rfl⟩
  rw [hkeys] at hmem
  cases hmem

end SignIn
