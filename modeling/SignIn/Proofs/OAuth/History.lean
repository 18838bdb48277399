import SignIn.OAuth.Run
import SignIn.Proofs.OAuth.PendingRecord
import SignIn.Proofs.OAuth.Pipeline

/-!
# Histories of calls

A history lists what calls of one engine have come to, in the order of their accesses to the shared
cache. The cache holds only what calls of the history have stored: every entry stems from a call
after which no call has touched its key.
-/

namespace SignIn

namespace OAuth

/-! ## Calls of a history -/

theorem eq_of_map_outcome {result : Except Failure Outcome} {outcome : Outcome}
    (h : result.map StepResult.outcome = .ok (.outcome outcome)) : result = .ok outcome := by
  cases result with
  | error failure => cases h
  | ok other =>
    cases h
    rfl

/-- What a call has come to. It may still be under way, with its access to the cache behind it. -/
structure CallRecord where
  config : AnyConfig
  request : Request
  /-- When the cache was accessed. -/
  moment : Instant
  result : Option (Except Failure StepResult)
  journal : List Event

namespace CallRecord

/-- Whether a call has written or removed the entry of a key. -/
def Touches (c : CallRecord) (key : Text) : Prop := ∃ e ∈ c.journal, e.Touches c.moment key

/-- A call has begun a login, which it has stored until some moment. -/
structure Stores (c : CallRecord) (key : Text) (pending : PendingLogin)
    (expiresAt : Option Instant) : Prop where
  initiates : ∃ config, c.config = .oauth config ∧ stage config c.request = .initiating ∧
    key = stateKey config c.request
  key_eq : pending.key = key
  stores : ∃ stored lifetime, pending.toJson? = some stored ∧
    .cacheSet (.text key) (.text stored) lifetime ∈ c.journal ∧
    expiry c.moment lifetime = .ok expiresAt

/-- A call of a grant with redirect that the provider has sent back. -/
def IsCallback (c : CallRecord) (config : OAuthConfig) : Prop :=
  c.config = .oauth config ∧ config.usesRedirect = true ∧ isCallback config c.request = true

/-- A call has gone on past the state: it has called the provider, it has used the mapper, or it has
returned a user. -/
def GoesOn (c : CallRecord) : Prop :=
  (∃ call, .called call ∈ c.journal) ∨ (∃ request, .sent request ∈ c.journal) ∨
    (∃ platform claims token, .mapped platform claims token ∈ c.journal) ∨
    ∃ user, c.result = some (.ok (.outcome (.user user)))

theorem Stores.touches {c : CallRecord} {key : Text} {pending : PendingLogin}
    {expiresAt : Option Instant} (h : c.Stores key pending expiresAt) : c.Touches key := by
  obtain ⟨stored, lifetime, -, hset, hexpiry⟩ := h.stores
  exact ⟨_, hset, rfl, expiresAt, hexpiry⟩

/-- A call is a leg of a sign-in on a cache, or the part of one up to its access to the cache. -/
inductive IsLeg (engine : Engine) (c : CallRecord) (cache : MemoryCache) : MemoryCache → Prop
  | ended {replies : List Reply} {result : Except Failure Outcome} {after : MemoryCache}
    (leg : Leg engine c.config c.request c.moment cache replies (deeds c.journal) result after)
    (result_eq : c.result = some (result.map .outcome)) : IsLeg engine c cache after
  | underway {replies : List Reply} {es : List Event} {result : Except Failure Outcome}
    {after : MemoryCache}
    (leg : Leg engine c.config c.request c.moment cache replies es result after)
    (journal_eq : deeds c.journal = accesses es) (result_eq : c.result = none) :
    IsLeg engine c cache after

end CallRecord

/-- Calls follow each other on a cache. -/
def Follows {α : Type} (step : α → MemoryCache → MemoryCache → Prop) :
    MemoryCache → List α → MemoryCache → Prop
  | cache, [], after => after = cache
  | cache, a :: rest, after => ∃ middle, step a cache middle ∧ Follows step middle rest after

theorem follows_append {α : Type} {step : α → MemoryCache → MemoryCache → Prop}
    {cache after : MemoryCache} {first second : List α} :
    Follows step cache (first ++ second) after ↔
      ∃ middle, Follows step cache first middle ∧ Follows step middle second after := by
  induction first generalizing cache with
  | nil => simp [Follows]
  | cons a first ih =>
    simp only [List.cons_append, Follows, ih]
    constructor
    · rintro ⟨m, ha, n, hfirst, hsecond⟩
      exact ⟨n, ⟨m, ha, hfirst⟩, hsecond⟩
    · rintro ⟨n, ⟨m, ha, hfirst⟩, hsecond⟩
      exact ⟨m, ha, n, hfirst, hsecond⟩

/-! ## What a leg leaves in the cache -/

section leg

variable {engine : Engine} {config : AnyConfig} {request : Request} {now : Instant}
  {cache after : MemoryCache} {replies : List Reply} {es : List Event}
  {result : Except Failure Outcome}

/-- No event touches a key where there is no access. -/
theorem not_touches_of_accesses (h : accesses es = []) {e : Event} (he : e ∈ es) (key : Text) :
    ¬ e.Touches now key := by
  intro htouches
  have haccess : e.isAccess = true := isAccess_of_touches htouches
  rw [isAccess_of_accesses h he] at haccess
  cases haccess

theorem set_notMem_of_accesses {key value : Datum} {lifetime : Option Lifetime}
    (h : accesses es = []) : .cacheSet key value lifetime ∉ es := by
  intro hset
  cases isAccess_of_accesses h hset

/-- What a leg stores is the login that it has started. If its expiry can be told, the leg ends with
the authorization address. -/
theorem starts_of_set {key value : Datum} {lifetime : Option Lifetime}
    (h : Leg engine config request now cache replies es result after)
    (hset : .cacheSet key value lifetime ∈ es) :
    ∃ c state challenge stored, Starts engine config request c state challenge stored ∧
      .cacheSet key value lifetime = storing engine.settings c request stored ∧
      ∀ expiresAt, expiry now lifetime = .ok expiresAt →
        result = ((authorizationUrl c state challenge).mapError .fault).map .redirect := by
  cases h with
  | unopened failure hinitiating => cases hset
  | @unstored c state challenge stored fault starts hunset =>
    cases List.mem_singleton.1 hset
    refine ⟨c, state, challenge, stored, starts, rfl, fun expiresAt hexpiry => ?_⟩
    rw [ExpiringCache.set, hexpiry] at hunset
    cases hunset
  | @stored c state challenge stored after starts hstored =>
    cases List.mem_singleton.1 hset
    exact ⟨c, state, challenge, stored, starts, rfl, fun _ _ => rfl⟩
  | returned admitted completing redirects course =>
    rcases List.mem_cons.1 hset with htake | hset
    · cases htake
    · exact absurd hset (set_notMem_of_accesses (accesses_of_course course))
  | direct admitted completing hdirect course =>
    exact absurd hset (set_notMem_of_accesses (accesses_of_course course))

/-- An entry that a leg leaves is either stored by it, or it was there before and is not touched. -/
theorem find?_of_leg (h : Leg engine config request now cache replies es result after) {key : Text}
    {entry : CacheEntry Datum} (hfind : after.find? (.text key) = some entry) :
    (∃ c state challenge stored, Starts engine config request c state challenge stored ∧
      key = stateKey c request ∧ storing engine.settings c request stored ∈ es ∧
      entry.value = .text stored ∧
      expiry now (some (pendingLifetime c engine.settings)) = .ok entry.expiresAt) ∨
    ((∀ e ∈ es, ¬ e.Touches now key) ∧ cache.find? (.text key) = some entry) := by
  cases h with
  | unopened failure hinitiating => exact .inr ⟨by simp, hfind⟩
  | @unstored c state challenge stored fault starts hset =>
    refine .inr ⟨?_, hfind⟩
    intro e he
    obtain rfl := List.mem_singleton.1 he
    rintro ⟨-, expiresAt, hexpiry⟩
    rw [ExpiringCache.set, hexpiry] at hset
    cases hset
  | @stored c state challenge stored after starts hset =>
    obtain ⟨expiresAt, hexpiry, hother⟩ := ExpiringCache.find?_of_set hset
    rw [hother] at hfind
    by_cases hkey : CacheKey.text key = .text (stateKey c request)
    · rw [if_pos hkey] at hfind
      cases hfind
      exact .inl ⟨c, state, challenge, stored, starts, CacheKey.text.inj hkey,
        List.mem_singleton_self _, rfl, hexpiry⟩
    · rw [if_neg hkey] at hfind
      obtain ⟨hcache, -⟩ := Option.filter_eq_some_iff.1 hfind
      refine .inr ⟨?_, hcache⟩
      intro e he
      obtain rfl := List.mem_singleton.1 he
      rintro ⟨hstored, -⟩
      exact hkey (Except.ok.inj hstored).symm
  | @returned c es found admitted completing redirects course =>
    rw [ExpiringCache.find?_erase] at hfind
    split at hfind
    · cases hfind
    · rename_i hkey
      refine .inr ⟨?_, hfind⟩
      intro e he
      rcases List.mem_cons.1 he with rfl | he
      · intro htaken
        exact hkey (Except.ok.inj htaken).symm
      · exact not_touches_of_accesses (accesses_of_course course) he key
  | direct admitted completing hdirect course =>
    exact .inr ⟨fun e he => not_touches_of_accesses (accesses_of_course course) he key, hfind⟩

end leg

namespace CallRecord

variable {engine : Engine} {c : CallRecord} {cache after : MemoryCache}

/-- The deeds of a call are those of a leg, or its accesses to the cache while it is under way. -/
theorem IsLeg.exists_leg (h : c.IsLeg engine cache after) :
    ∃ replies es result, Leg engine c.config c.request c.moment cache replies es result after ∧
      accesses c.journal = accesses es ∧
      ((deeds c.journal = es ∧ c.result = some (result.map .outcome)) ∨
        (deeds c.journal = accesses es ∧ c.result = none)) := by
  cases h with
  | ended leg hresult =>
    exact ⟨_, _, _, leg, (accesses_deeds c.journal).symm, .inl ⟨rfl, hresult⟩⟩
  | @underway replies es result after leg hjournal hresult =>
    refine ⟨_, _, _, leg, ?_, .inr ⟨hjournal, hresult⟩⟩
    rw [← accesses_deeds, hjournal]
    exact List.filter_eq_self.2 fun e he => (List.mem_filter.1 he).2

theorem touches_iff_of_accesses {es : List Event} (h : accesses c.journal = accesses es)
    (key : Text) : c.Touches key ↔ ∃ e ∈ es, e.Touches c.moment key := by
  have hmem (e : Event) (he : e.Touches c.moment key) : e ∈ c.journal ↔ e ∈ es := by
    have haccess := isAccess_of_touches he
    have hiff : e ∈ accesses c.journal ↔ e ∈ accesses es := by rw [h]
    simpa [accesses, haccess] using hiff
  constructor
  · rintro ⟨e, he, htouches⟩
    exact ⟨e, (hmem e htouches).1 he, htouches⟩
  · rintro ⟨e, he, htouches⟩
    exact ⟨e, (hmem e htouches).2 he, htouches⟩

/-- A login that a leg has stored is stored by the call. -/
theorem stores_of_storing {es : List Event} {config : OAuthConfig} {state stored : Text}
    {challenge : Option PkceChallenge} {expiresAt : Option Instant}
    (haccesses : accesses c.journal = accesses es)
    (hstarts : Starts engine c.config c.request config state challenge stored)
    (hmem : storing engine.settings config c.request stored ∈ es)
    (hexpiry : expiry c.moment (some (pendingLifetime config engine.settings)) = .ok expiresAt) :
    c.Stores (stateKey config c.request) (pendingLogin config c.request state challenge)
      expiresAt := by
  have hjournal : storing engine.settings config c.request stored ∈ accesses c.journal := by
    rw [haccesses]
    exact List.mem_filter.2 ⟨hmem, rfl⟩
  refine ⟨⟨config, ?_, hstarts.initiating, rfl⟩, rfl, stored, _, hstarts.toJson?,
    (List.mem_filter.1 hjournal).1, hexpiry⟩
  exact (checkAll_eq_ok_iff.1 hstarts.admitted).1

end CallRecord

/-! ## Where entries stem from -/

/-- An entry stems from a login that a call of the past has stored, and no later call has touched
its key. -/
def StemsFrom (past : List CallRecord) (key : Text) (entry : CacheEntry Datum) : Prop :=
  ∃ earlier c later pending stored, past = earlier ++ c :: later ∧
    c.Stores key pending entry.expiresAt ∧ pending.toJson? = some stored ∧
    entry.value = .text stored ∧ ∀ d ∈ later, ¬ d.Touches key

/-- Every entry of a cache stems from a call of the past. -/
def Provenance (past : List CallRecord) (cache : MemoryCache) : Prop :=
  ∀ key entry, cache.find? (.text key) = some entry → StemsFrom past key entry

theorem provenance_empty : Provenance [] ExpiringCache.empty := by
  intro key entry h
  cases h

/-- One more call keeps the provenance. -/
theorem provenance_step {engine : Engine} {past : List CallRecord} {c : CallRecord}
    {cache after : MemoryCache} (hpast : Provenance past cache) (hleg : c.IsLeg engine cache after) :
    Provenance (past ++ [c]) after := by
  intro key entry hfind
  obtain ⟨replies, es, result, hleg, haccesses, -⟩ := hleg.exists_leg
  rcases find?_of_leg hleg hfind with
    ⟨config, state, challenge, stored, hstarts, rfl, hmem, hvalue, hexpiry⟩ | ⟨hkept, hbefore⟩
  · exact ⟨past, c, [], _, stored, rfl,
      CallRecord.stores_of_storing haccesses hstarts hmem hexpiry, hstarts.toJson?, hvalue, by simp⟩
  · obtain ⟨earlier, d, later, pending, stored, rfl, hstores, hstored, hvalue, hlater⟩ :=
      hpast key entry hbefore
    refine ⟨earlier, d, later ++ [c], pending, stored, by simp, hstores, hstored, hvalue, ?_⟩
    intro other hother
    rcases List.mem_append.1 hother with hother | hother
    · exact hlater other hother
    · obtain rfl := List.mem_singleton.1 hother
      intro htouches
      obtain ⟨e, he, htouches⟩ := (CallRecord.touches_iff_of_accesses haccesses key).1 htouches
      exact hkept e he htouches

/-- Calls that follow each other keep the provenance. -/
theorem provenance_of_follows {engine : Engine} {past history : List CallRecord}
    {cache after : MemoryCache} (hpast : Provenance past cache)
    (h : Follows (CallRecord.IsLeg engine) cache history after) :
    Provenance (past ++ history) after := by
  induction history generalizing past cache with
  | nil =>
    cases h
    rwa [List.append_nil]
  | cons c history ih =>
    obtain ⟨middle, hleg, hrest⟩ := h
    rw [List.append_cons]
    exact ih (provenance_step hpast hleg) hrest

end OAuth

end SignIn
