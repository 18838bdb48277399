import SignIn.Cache.Lifetime

/-!
# An expiring cache

A cache in memory. Every write sweeps out all expired entries, a read removes the expired entry it
meets, and taking an entry removes it whether it is expired or not. Every key has at most one entry.
-/

namespace SignIn

/-- A value and the moment at which it expires, if it ever does. -/
structure CacheEntry (α : Type) where
  value : α
  expiresAt : Option Instant
deriving DecidableEq

/-- Whether an entry is still alive. An entry is dead at the very moment at which it expires. -/
def CacheEntry.isLive {α : Type} (now : Instant) (e : CacheEntry α) : Bool :=
  match e.expiresAt with
  | none => true
  | some t => now < t

theorem CacheEntry.isLive_iff {α : Type} {now : Instant} {e : CacheEntry α} :
    e.isLive now = true ↔ ∀ t, e.expiresAt = some t → now < t := by
  unfold CacheEntry.isLive
  cases e.expiresAt <;> simp

/-- An entry that is alive later is alive now. -/
theorem CacheEntry.isLive_of_le {α : Type} {now later : Instant} {e : CacheEntry α}
    (h : now ≤ later) (hlive : e.isLive later = true) : e.isLive now = true := by
  rw [isLive_iff] at hlive ⊢
  exact fun t ht => Int.lt_of_le_of_lt h (hlive t ht)

/-- Of what is alive now, the same is alive later as of all there is. -/
theorem CacheEntry.filter_isLive_of_le {α : Type} {now later : Instant}
    (found : Option (CacheEntry α)) (h : now ≤ later) :
    (found.filter (isLive now)).filter (isLive later) = found.filter (isLive later) := by
  rw [Option.filter_filter]
  congr 1
  funext e
  cases hlive : e.isLive later with
  | false => simp
  | true => simp [isLive_of_le h hlive]

structure ExpiringCache (κ α : Type) where
  entries : List (κ × CacheEntry α)
  distinct : (entries.map Prod.fst).Nodup := by simp

namespace ExpiringCache

variable {κ α : Type} [DecidableEq κ]

def empty : ExpiringCache κ α := ⟨[], List.nodup_nil⟩

/-- The entry of a key, expired or not. -/
def find? (c : ExpiringCache κ α) (key : κ) : Option (CacheEntry α) := c.entries.lookup key

def lookup (c : ExpiringCache κ α) (now : Instant) (key : κ) : Option α :=
  match c.find? key with
  | some e => if e.isLive now then some e.value else none
  | none => none

/-- How many entries are held, expired or not. -/
def size (c : ExpiringCache κ α) : Nat := c.entries.length

def keep (p : κ × CacheEntry α → Bool) (c : ExpiringCache κ α) : ExpiringCache κ α :=
  ⟨c.entries.filter p, c.distinct.sublist (List.filter_sublist.map Prod.fst)⟩

def erase (c : ExpiringCache κ α) (key : κ) : ExpiringCache κ α := c.keep fun e => e.1 ≠ key

/-- Removes the expired entries. -/
def sweep (c : ExpiringCache κ α) (now : Instant) : ExpiringCache κ α :=
  c.keep fun e => e.2.isLive now

def insert (c : ExpiringCache κ α) (key : κ) (e : CacheEntry α) : ExpiringCache κ α :=
  ⟨(key, e) :: (c.erase key).entries, by
    have h := (c.erase key).distinct
    simp only [List.map_cons, List.nodup_cons]
    refine ⟨?_, h⟩
    simp [erase, keep]⟩

/-- Stores a value for a lifetime, unless its expiry cannot be told. -/
def set (c : ExpiringCache κ α) (now : Instant) (key : κ) (value : α)
    (lifetime : Option Lifetime) : Except Fault (ExpiringCache κ α) :=
  (expiry now lifetime).map fun expiresAt => (c.sweep now).insert key ⟨value, expiresAt⟩

/-- Reads the value of a key and removes its entry if it is expired. -/
def get (c : ExpiringCache κ α) (now : Instant) (key : κ) : Option α × ExpiringCache κ α :=
  (c.lookup now key, c.keep fun e => e.1 ≠ key || e.2.isLive now)

def take (c : ExpiringCache κ α) (now : Instant) (key : κ) : Option α × ExpiringCache κ α :=
  (c.lookup now key, c.erase key)

/-! ## The entry of a key -/

omit [DecidableEq κ] in
/-- Filtering entries with distinct keys filters the entry of each key. -/
theorem lookup_filter [BEq κ] [LawfulBEq κ] {es : List (κ × α)} (hes : (es.map Prod.fst).Nodup)
    (p : κ × α → Bool) (key : κ) :
    (es.filter p).lookup key = (es.lookup key).filter fun e => p (key, e) := by
  induction es with
  | nil => rfl
  | cons e es ih =>
    obtain ⟨k, v⟩ := e
    obtain ⟨hk, hes⟩ := List.nodup_cons.1 hes
    by_cases hkey : key = k
    · subst hkey
      have hnone : (es.filter p).lookup key = none := by
        rw [List.lookup_eq_none_iff]
        intro e he
        have hmem : e.1 ∈ es.map Prod.fst := List.mem_map_of_mem (List.mem_filter.1 he).1
        simp only [bne_iff_ne, ne_eq]
        rintro rfl
        exact hk hmem
      by_cases hp : p (key, v) <;> simp [hp, hnone, Option.filter]
    · have hne : (key == k) = false := by simpa using hkey
      by_cases hp : p (k, v) <;> simp [hp, List.lookup_cons, hne, ih hes]

@[simp]
theorem find?_empty (key : κ) : (empty : ExpiringCache κ α).find? key = none := rfl

theorem find?_keep (p : κ × CacheEntry α → Bool) (c : ExpiringCache κ α) (key : κ) :
    (c.keep p).find? key = (c.find? key).filter fun e => p (key, e) :=
  lookup_filter c.distinct p key

theorem find?_erase (c : ExpiringCache κ α) (key other : κ) :
    (c.erase key).find? other = if other = key then none else c.find? other := by
  rw [erase, find?_keep]
  by_cases h : other = key <;> cases c.find? other <;> simp [h]

theorem find?_sweep (c : ExpiringCache κ α) (now : Instant) (key : κ) :
    (c.sweep now).find? key = (c.find? key).filter (CacheEntry.isLive now) :=
  find?_keep _ c key

theorem find?_insert (c : ExpiringCache κ α) (key other : κ) (e : CacheEntry α) :
    (c.insert key e).find? other = if other = key then some e else c.find? other := by
  by_cases h : other = key
  · simp [insert, find?, h]
  · have hne : (other == key) = false := by simpa using h
    have herase := find?_erase c key other
    simp only [find?, h, if_false] at herase
    simp [insert, find?, List.lookup_cons, hne, herase, h]

/-- What a cache shows of a key is the value of its entry, if the entry is alive. -/
theorem lookup_eq_filter (c : ExpiringCache κ α) (now : Instant) (key : κ) :
    c.lookup now key = ((c.find? key).filter (CacheEntry.isLive now)).map CacheEntry.value := by
  unfold lookup
  cases c.find? key with
  | none => rfl
  | some e => by_cases h : e.isLive now <;> simp [h, Option.filter]

/-- A write succeeds if its expiry can be told. -/
theorem exists_set_of_expiry (c : ExpiringCache κ α) {now : Instant} (key : κ) (value : α)
    {lifetime : Option Lifetime} {expiresAt : Option Instant}
    (h : expiry now lifetime = .ok expiresAt) :
    ∃ after, c.set now key value lifetime = .ok after := by
  rw [set, h]
  exact ⟨_, rfl⟩

/-- A write fails if its expiry cannot be told. -/
theorem set_of_expiry_error (c : ExpiringCache κ α) {now : Instant} (key : κ) (value : α)
    {lifetime : Option Lifetime} {fault : Fault} (h : expiry now lifetime = .error fault) :
    c.set now key value lifetime = .error fault := by
  rw [set, h]
  rfl

/-- A write sets the entry of its key and sweeps the others. -/
theorem find?_of_set {c after : ExpiringCache κ α} {now : Instant} {key : κ} {value : α}
    {lifetime : Option Lifetime} (hset : c.set now key value lifetime = .ok after) :
    ∃ expiresAt, expiry now lifetime = .ok expiresAt ∧ ∀ other, after.find? other =
      if other = key then some ⟨value, expiresAt⟩
      else (c.find? other).filter (CacheEntry.isLive now) := by
  unfold set at hset
  cases hexpiry : expiry now lifetime with
  | error fault => simp [hexpiry, Except.map] at hset
  | ok expiresAt =>
    simp only [hexpiry, Except.map, Except.ok.injEq] at hset
    subst hset
    exact ⟨expiresAt, rfl, fun other => by rw [find?_insert, find?_sweep]⟩

theorem find?_take (c : ExpiringCache κ α) (now : Instant) (key other : κ) :
    (c.take now key).2.find? other = if other = key then none else c.find? other :=
  find?_erase c key other

theorem find?_get (c : ExpiringCache κ α) (now : Instant) (key other : κ) :
    (c.get now key).2.find? other =
      if other = key then (c.find? other).filter (CacheEntry.isLive now)
      else c.find? other := by
  rw [get, find?_keep]
  by_cases h : other = key <;> cases c.find? other <;> simp [h, Option.filter]

end ExpiringCache

end SignIn
