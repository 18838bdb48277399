import SignIn.Proofs.OAuth.Exchange

/-!
# Journals

A journal lists the accesses to the cache, the calls, the requests that went out and the uses of the
mapper, each in order. An access to the cache touches at most one key, and a key that is not touched
keeps its entry until the entry expires.
-/

namespace SignIn

namespace OAuth

/-! ## The parts of a journal -/

/-- Claims that were handed to the mapper, with the platform and the token. -/
structure Mapping where
  platform : Text
  claims : Record
  token : AccessToken

def Event.isAccess : Event → Bool
  | .cacheSet _ _ _ => true
  | .cacheGet _ _ => true
  | .cacheTake _ _ => true
  | .cacheDelete _ => true
  | _ => false

def Event.call? : Event → Option Call
  | .called call => some call
  | _ => none

def Event.request? : Event → Option WireRequest
  | .sent request => some request
  | _ => none

def Event.mapping? : Event → Option Mapping
  | .mapped platform claims token => some ⟨platform, claims, token⟩
  | _ => none

def Mapping.event (m : Mapping) : Event := .mapped m.platform m.claims m.token

def accesses (events : List Event) : List Event := events.filter Event.isAccess

def calls (events : List Event) : List Call := events.filterMap Event.call?

/-- The requests that went out in a journal. -/
def requests (events : List Event) : List WireRequest := events.filterMap Event.request?

def mappings (events : List Event) : List Mapping := events.filterMap Event.mapping?

/-- What an event makes of the cache. -/
def Event.effect (now : Instant) (cache : MemoryCache) : Event → MemoryCache
  | .cacheSet key value lifetime => (cache.store now key value lifetime).2
  | .cacheGet key _ => (cache.read now key).2
  | .cacheTake key _ => (cache.takeOut now key).2
  | .cacheDelete key => (cache.remove (.text key)).2
  | _ => cache

theorem accesses_deeds (events : List Event) : accesses (deeds events) = accesses events := by
  rw [accesses, deeds, List.filter_filter]
  apply List.filter_congr
  intro e _
  cases e <;> rfl

/-- Where there are no accesses, no event is one. -/
theorem isAccess_of_accesses {events : List Event} (h : accesses events = []) {e : Event}
    (he : e ∈ events) : e.isAccess = false := by
  rw [← Bool.not_eq_true]
  exact List.filter_eq_nil_iff.1 h e he

theorem mem_requests {r : WireRequest} {events : List Event} :
    r ∈ requests events ↔ .sent r ∈ events := by
  unfold requests
  rw [List.mem_filterMap]
  constructor
  · rintro ⟨e, he, hr⟩
    cases e with
    | sent other =>
      obtain rfl := Option.some.inj hr
      exact he
    | _ => cases hr
  · exact fun h => ⟨_, h, rfl⟩

@[simp] theorem requests_nil : requests [] = [] := rfl

theorem filterMap_deeds {α : Type} {f : Event → Option α} (hf : ∀ r, f (.logged r) = none)
    (events : List Event) : (deeds events).filterMap f = events.filterMap f := by
  rw [deeds, List.filterMap_filter]
  congr 1
  funext e
  cases e with
  | logged r => exact (hf r).symm
  | _ => rfl

theorem calls_deeds (events : List Event) : calls (deeds events) = calls events :=
  filterMap_deeds (fun _ => rfl) events

theorem requests_deeds (events : List Event) : requests (deeds events) = requests events :=
  filterMap_deeds (fun _ => rfl) events

section append

variable (first second : List Event)

@[simp] theorem accesses_append : accesses (first ++ second) = accesses first ++ accesses second :=
  List.filter_append first second

@[simp] theorem calls_append : calls (first ++ second) = calls first ++ calls second :=
  List.filterMap_append

@[simp] theorem requests_append : requests (first ++ second) = requests first ++ requests second :=
  List.filterMap_append

@[simp] theorem mappings_append : mappings (first ++ second) = mappings first ++ mappings second :=
  List.filterMap_append

end append

/-- The deeds of some calls and of some uses of the mapper after them. -/
def deedsOfAll (cs : List Call) (ms : List Mapping) : List Event :=
  cs.flatMap deedsOf ++ ms.map Mapping.event

section deedsOfAll

variable (call : Call) (cs : List Call) (ms : List Mapping)

theorem accesses_deedsOf : accesses (deedsOf call) = [] := by
  unfold deedsOf accesses
  cases call.request? <;> rfl

theorem calls_deedsOf : calls (deedsOf call) = [call] := by
  unfold deedsOf calls
  cases call.request? <;> rfl

theorem requests_deedsOf : requests (deedsOf call) = call.request?.toList := by
  unfold deedsOf requests
  cases call.request? <;> rfl

theorem mappings_deedsOf : mappings (deedsOf call) = [] := by
  unfold deedsOf mappings
  cases call.request? <;> rfl

@[simp] theorem accesses_deedsOfAll : accesses (deedsOfAll cs ms) = [] := by
  have hms : accesses (ms.map Mapping.event) = [] := by simp [accesses, Mapping.event, Event.isAccess]
  induction cs with
  | nil => exact hms
  | cons call cs ih => simpa [deedsOfAll, accesses_deedsOf, hms] using ih

@[simp] theorem calls_deedsOfAll : calls (deedsOfAll cs ms) = cs := by
  have hms : calls (ms.map Mapping.event) = [] := by simp [calls, Mapping.event, Event.call?]
  induction cs with
  | nil => exact hms
  | cons call cs ih => simpa [deedsOfAll, calls_deedsOf, hms] using ih

@[simp] theorem requests_deedsOfAll : requests (deedsOfAll cs ms) = cs.filterMap Call.request? := by
  have hms : requests (ms.map Mapping.event) = [] := by
    simp [requests, Mapping.event, Event.request?]
  induction cs with
  | nil => exact hms
  | cons call cs ih =>
    cases hcall : call.request? <;>
      simpa [deedsOfAll, requests_deedsOf, hms, List.filterMap_cons, hcall] using ih

@[simp] theorem mappings_deedsOfAll : mappings (deedsOfAll cs ms) = ms := by
  have hms : mappings (ms.map Mapping.event) = ms := by
    rw [mappings, List.filterMap_map]
    exact List.filterMap_some
  induction cs with
  | nil => exact hms
  | cons call cs ih => simpa [deedsOfAll, mappings_deedsOf, hms] using ih

end deedsOfAll

/-! ## Touched keys -/

/-- Whether an event writes or removes the entry of a key. Storing under a key does so only if the
expiry can be told. -/
def Event.Touches (now : Instant) (key : Text) : Event → Prop
  | .cacheSet d _ lifetime =>
    CacheKey.ofDatum d = .ok (.text key) ∧ ∃ expiresAt, expiry now lifetime = .ok expiresAt
  | .cacheTake d _ => CacheKey.ofDatum d = .ok (.text key)
  | .cacheDelete k => k = key
  | _ => False

theorem isAccess_of_touches {now : Instant} {key : Text} {e : Event} (h : e.Touches now key) :
    e.isAccess = true := by
  cases e <;> first | rfl | exact h.elim

/-- An event that does not touch a key leaves its entry, unless the entry has expired. -/
theorem find?_effect {now : Instant} {key : Text} {e : Event} (h : ¬ e.Touches now key)
    (cache : MemoryCache) :
    (e.effect now cache).find? (.text key) = cache.find? (.text key) ∨
      (e.effect now cache).find? (.text key) =
        (cache.find? (.text key)).filter (CacheEntry.isLive now) := by
  cases e with
  | cacheSet d value lifetime =>
    simp only [Event.effect, MemoryCache.store]
    cases hexpiry : expiry now lifetime with
    | error fault => exact .inl rfl
    | ok expiresAt =>
      cases hkey : CacheKey.ofDatum d with
      | error fault => exact .inr (ExpiringCache.find?_sweep cache now _)
      | ok k =>
        have hne : CacheKey.text key ≠ k := fun hk => h ⟨hk ▸ hkey, expiresAt, hexpiry⟩
        refine .inr ?_
        rw [ExpiringCache.find?_insert, if_neg hne, ExpiringCache.find?_sweep]
  | cacheGet d result =>
    simp only [Event.effect, MemoryCache.read, MemoryCache.atKey]
    cases CacheKey.ofDatum d with
    | error fault => exact .inl rfl
    | ok k =>
      have hget := ExpiringCache.find?_get cache now k (.text key)
      by_cases hk : CacheKey.text key = k
      · rw [if_pos hk] at hget
        exact .inr hget
      · rw [if_neg hk] at hget
        exact .inl hget
  | cacheTake d result =>
    simp only [Event.effect, MemoryCache.takeOut, MemoryCache.atKey]
    cases hkey : CacheKey.ofDatum d with
    | error fault => exact .inl rfl
    | ok k =>
      have hne : CacheKey.text key ≠ k := fun hk => h (hkey.trans (congrArg _ hk.symm))
      exact .inl ((ExpiringCache.find?_take cache now k _).trans (if_neg hne))
  | cacheDelete k =>
    have hne : CacheKey.text key ≠ .text k := fun hk => h (CacheKey.text.inj hk).symm
    exact .inl ((ExpiringCache.find?_erase cache _ _).trans (if_neg hne))
  | _ => exact .inl rfl

/-- A live entry whose key no event touches is still there after all of them. -/
theorem find?_foldl_effect {now : Instant} {key : Text} {entry : CacheEntry Datum}
    {events : List Event} (h : ∀ e ∈ events, ¬ e.Touches now key) (hlive : entry.isLive now = true)
    {cache : MemoryCache} (hfind : cache.find? (.text key) = some entry) :
    (events.foldl (Event.effect now) cache).find? (.text key) = some entry := by
  induction events generalizing cache with
  | nil => exact hfind
  | cons e events ih =>
    obtain ⟨he, hevents⟩ := List.forall_mem_cons.1 h
    apply ih hevents
    rcases find?_effect he cache with hkept | hfiltered
    · rw [hkept, hfind]
    · rw [hfiltered, hfind, Option.filter_some, if_pos hlive]

end OAuth

end SignIn
