import SignIn.Proofs.OAuth.Completion
import SignIn.Proofs.OAuth.Verifier

/-!
# What a failed call leaves in the cache

A call that fails leaves the cache as it was, but for the pending login that a callback has taken.
There is one exception. The first leg stores the login before it writes the authorization address,
so a login is left pending, in the place of an earlier one, if the texts of the configuration cannot
be written into that address.
-/

namespace SignIn

namespace OAuth

/-! ## What is kept -/

/-- A call has persisted nothing: the cache has no entry that was not there before, it has lost no
live entry but the one that the state of a callback was checked against, and a login that is begun
in vain has lost none. -/
structure PersistsNothing (config : AnyConfig) (request : Request) (now : Instant)
    (before after : MemoryCache) : Prop where
  noneNew : ∀ key entry, after.find? key = some entry → before.find? key = some entry
  noneLost : ∀ key entry, before.find? key = some entry → entry.isLive now = true →
    after.find? key = some entry ∨
      ∃ c, Admitted config request c .completing ∧ c.usesRedirect = true ∧
        key = .text (stateKey c request)
  beginning : ∀ c, Admitted config request c .initiating → ∀ key entry,
    before.find? key = some entry → entry.isLive now = true → after.find? key = some entry

/-- A call has stranded a login: it has stored the login, which was not there before, for a
configuration whose texts cannot be written into an authorization address. -/
def Strands (engine : Engine) (config : AnyConfig) (request : Request) (now : Instant)
    (before : MemoryCache) (journal : List Event) : Prop :=
  ∃ c stored expiresAt, Admitted config request c .initiating ∧ ¬ AddressEncodable c ∧
    storing engine.settings c request stored ∈ journal ∧
    expiry now (some (pendingLifetime c engine.settings)) = .ok expiresAt ∧
    before.find? (.text (stateKey c request)) ≠ some ⟨.text stored, expiresAt⟩

section keeps

variable {config : AnyConfig} {request : Request} {now : Instant} {before after : MemoryCache}

/-- Where no live entry is lost, the fields about lost entries hold. -/
theorem persistsNothing_of_kept
    (hnew : ∀ key entry, after.find? key = some entry → before.find? key = some entry)
    (hlost : ∀ key entry, before.find? key = some entry → entry.isLive now = true →
      after.find? key = some entry) : PersistsNothing config request now before after where
  noneNew := hnew
  noneLost key entry hfind hlive := .inl (hlost key entry hfind hlive)
  beginning _ _ := hlost

theorem persistsNothing_refl : PersistsNothing config request now before before :=
  persistsNothing_of_kept (fun _ _ h => h) fun _ _ h _ => h

/-- Storing what is there already persists nothing. -/
theorem persistsNothing_of_set {key : CacheKey} {value : Datum} {lifetime : Option Lifetime}
    {expiresAt : Option Instant} (hset : before.set now key value lifetime = .ok after)
    (hexpiry : expiry now lifetime = .ok expiresAt)
    (hfind : before.find? key = some ⟨value, expiresAt⟩) :
    PersistsNothing config request now before after := by
  obtain ⟨t, ht, hafter⟩ := ExpiringCache.find?_of_set hset
  obtain rfl := Except.ok.inj (hexpiry.symm.trans ht)
  apply persistsNothing_of_kept
  · intro other entry h
    rw [hafter] at h
    split at h
    · rename_i heq
      rw [heq, hfind, h]
    · exact (Option.filter_eq_some_iff.1 h).1
  · intro other entry h hlive
    rw [hafter]
    split
    · rename_i heq
      rw [heq, hfind] at h
      exact h
    · rw [h, Option.filter_some, if_pos hlive]

/-- A callback takes the entry of its own key and no other. -/
theorem persistsNothing_of_erase {c : OAuthConfig}
    (hadmitted : Admitted config request c .completing) (hredirects : c.usesRedirect = true) :
    PersistsNothing config request now before (before.erase (.text (stateKey c request))) := by
  constructor
  · intro key entry h
    rw [ExpiringCache.find?_erase] at h
    split at h
    · cases h
    · exact h
  · intro key entry h _
    by_cases hkey : key = .text (stateKey c request)
    · exact .inr ⟨c, hadmitted, hredirects, hkey⟩
    · exact .inl (by rw [ExpiringCache.find?_erase, if_neg hkey, h])
  · intro d hd
    exact absurd (hadmitted.unique hd).2 (by decide)

end keeps

/-! ## Addresses of begun logins -/

/-- A new challenge can be written. -/
theorem encodable_of_isNewChallenge {config : OAuthConfig} {challenge : Option PkceChallenge}
    (h : IsNewChallenge config challenge) {c : PkceChallenge} (hc : challenge = some c) :
    Utf8.encodable c.challenge = true := by
  cases h with
  | none unused => cases hc
  | @some octets made used size hmade =>
    obtain rfl := Option.some.inj hc
    obtain ⟨source, -, hsource⟩ :=
      Pkce.exists_octets_of_challenge? (Pkce.ne_nil_of_length size) hmade
    rw [hsource]
    exact Base64.encodable_encodeUrl source

/-- A configuration for a grant with redirect that is in order has an authorization address. -/
theorem isSome_authorizationUrl {c : OAuthConfig} (h : configProblem? c = none)
    (hredirects : c.usesRedirect = true) : c.authorizationUrl.isSome = true := by
  cases haddress : c.authorizationUrl with
  | some address => rfl
  | none =>
    have hmissing : c.usesRedirect = true ∧ (!Text.isPresent c.authorizationUrl) = true := by
      rw [haddress]
      exact ⟨hredirects, rfl⟩
    simp only [configProblem?, if_pos hmissing] at h
    repeat' split at h
    all_goals cases h

/-- The address of a login that has been started can be written if and only if the texts of its
configuration can. -/
theorem exists_url_iff_of_starts {engine : Engine} {config : AnyConfig} {request : Request}
    {c : OAuthConfig} {state stored : Text} {challenge : Option PkceChallenge}
    (h : Starts engine config request c state challenge stored) :
    (∃ url, authorizationUrl c state challenge = .ok url) ↔ AddressEncodable c := by
  obtain ⟨-, hstate, -⟩ := PendingLogin.encodable_parts_of_toJson? h.toJson?
  have hproblem := (checkAll_eq_ok_iff.1 h.admitted).2.2
  apply exists_authorizationUrl_iff
  · exact isSome_authorizationUrl hproblem (usesRedirect_of_initiating h.initiating)
  · exact hstate
  · exact fun d hd => encodable_of_isNewChallenge h.isNewChallenge hd

/-! ## Failed calls -/

section leg

variable {engine : Engine} {config : AnyConfig} {request : Request} {now : Instant}
  {cache after : MemoryCache} {replies : List Reply} {es : List Event}

theorem not_strands_of_completing {c : OAuthConfig}
    (hadmitted : Admitted config request c .completing) :
    ¬ Strands engine config request now cache es := by
  rintro ⟨d, stored, expiresAt, hd, -⟩
  cases (hadmitted.unique hd).2

/-- A login that a failed call has stored is stranded unless it was there already. -/
theorem persistsNothing_iff_of_stored {c : OAuthConfig} {state stored : Text}
    {challenge : Option PkceChallenge} {fault : Fault}
    (hstarts : Starts engine config request c state challenge stored)
    (hset : cache.set now (.text (stateKey c request)) (.text stored)
      (some (pendingLifetime c engine.settings)) = .ok after)
    (hurl : authorizationUrl c state challenge = .error fault) :
    PersistsNothing config request now cache after ↔
      ¬ Strands engine config request now cache [storing engine.settings c request stored] := by
  have hadmitted := admitted_iff.2 ⟨hstarts.admitted, hstarts.initiating⟩
  have hunencodable : ¬ AddressEncodable c := by
    intro hencodable
    obtain ⟨url, hok⟩ := (exists_url_iff_of_starts hstarts).2 hencodable
    rw [hurl] at hok
    cases hok
  obtain ⟨expiresAt, hexpiry, hafter⟩ := ExpiringCache.find?_of_set hset
  constructor
  · rintro hnothing ⟨d, other, t, hd, -, hstored, ht, hfind⟩
    obtain ⟨rfl, -⟩ := hd.unique hadmitted
    cases List.mem_singleton.1 hstored
    obtain rfl := Except.ok.inj (ht.symm.trans hexpiry)
    refine hfind (hnothing.noneNew _ _ ?_)
    rw [hafter, if_pos rfl]
  · intro hstrands
    apply Classical.byContradiction
    intro hsomething
    refine hstrands ⟨c, stored, expiresAt, hadmitted, hunencodable, List.mem_singleton_self _,
      hexpiry, ?_⟩
    intro hfind
    exact hsomething (persistsNothing_of_set hset hexpiry hfind)

/-- A leg that fails persists nothing, unless it strands a login. -/
theorem persistsNothing_iff_of_leg {failure : Failure}
    (h : Leg engine config request now cache replies es (.error failure) after) :
    PersistsNothing config request now cache after ↔
      ¬ Strands engine config request now cache es := by
  generalize hresult : (.error failure : Except Failure Outcome) = result at h
  cases h with
  | unopened failure hinitiating =>
    refine iff_of_true persistsNothing_refl ?_
    rintro ⟨c, stored, expiresAt, -, -, hstored, -⟩
    cases hstored
  | @unstored c state challenge stored fault hstarts hset =>
    refine iff_of_true persistsNothing_refl ?_
    rintro ⟨d, other, expiresAt, hd, -, -, hexpiry, -⟩
    obtain ⟨rfl, -⟩ := hd.unique (admitted_iff.2 ⟨hstarts.admitted, hstarts.initiating⟩)
    rw [ExpiringCache.set, hexpiry] at hset
    cases hset
  | @stored c state challenge stored after hstarts hset =>
    cases hurl : authorizationUrl c state challenge with
    | ok url =>
      rw [hurl] at hresult
      cases hresult
    | error fault => exact persistsNothing_iff_of_stored hstarts hset hurl
  | @returned c es found hadmitted hcompleting hredirects course =>
    have hcall := admitted_iff.2 ⟨hadmitted, hcompleting⟩
    exact iff_of_true (persistsNothing_of_erase hcall hredirects) (not_strands_of_completing hcall)
  | @direct c es found hadmitted hcompleting hdirect course =>
    have hcall := admitted_iff.2 ⟨hadmitted, hcompleting⟩
    exact iff_of_true persistsNothing_refl (not_strands_of_completing hcall)

end leg

theorem strands_deeds {engine : Engine} {config : AnyConfig} {request : Request} {now : Instant}
    {before : MemoryCache} {journal : List Event} :
    Strands engine config request now before (deeds journal) ↔
      Strands engine config request now before journal := by
  unfold Strands
  simp only [mem_deeds (e := storing _ _ _ _) rfl]

/-- A call that fails, in whatever world, persists nothing, unless it strands a login. -/
theorem failed_call_persists_nothing_iff {engine : Engine} {config : AnyConfig} {request : Request}
    {replies : List Reply} {w : World} {failure : Failure}
    (hfails : ((Step.authenticate config request replies).run engine w).1 = .error failure) :
    PersistsNothing config request w.clock w.cache
        ((Step.authenticate config request replies).run engine w).2.cache ↔
      ¬ Strands engine config request w.clock w.cache
        ((Step.authenticate config request replies).run engine w).2.journal := by
  obtain ⟨result, hresult, -, hleg⟩ := run_authenticate engine w config request replies
  cases result with
  | ok outcome =>
    rw [hresult] at hfails
    cases hfails
  | error other => rw [persistsNothing_iff_of_leg hleg, strands_deeds]

def unencodableText : Text := [⟨0xD800, by decide⟩]

/-- A configuration with a state that cannot be written. -/
def unwritableState : OAuthConfig := { codeConfig with state := some unencodableText }

/-- A login that fails for its state leaves the login that was begun before it. -/
theorem unwritableState_persists_nothing :
    ((Step.authenticate (.oauth unwritableState) ⟨[], none⟩ []).run claimEngine begun.2).1 =
        .error (.fault .unserializable) ∧
      PersistsNothing (.oauth unwritableState) ⟨[], none⟩ begun.2.clock begun.2.cache
        ((Step.authenticate (.oauth unwritableState) ⟨[], none⟩ []).run claimEngine
          begun.2).2.cache := by
  have hfault : fault? ((Step.authenticate (.oauth unwritableState) ⟨[], none⟩ []).run claimEngine
      begun.2).1 = some .unserializable := by decide +kernel
  have hfails := eq_of_fault? hfault
  refine ⟨hfails, (failed_call_persists_nothing_iff hfails).2 ?_⟩
  rintro ⟨c, stored, expiresAt, hadmitted, hunencodable, -⟩
  obtain rfl := AnyConfig.oauth.inj hadmitted.config_eq
  apply hunencodable
  constructor <;> intro t ht <;> cases ht
  decide

/-- A configuration with a callback address that cannot be written. -/
def unwritableCallback : OAuthConfig :=
  { codeConfig with state := some "s2", callbackUrl := some unencodableText }

/-- A login that fails for its callback address takes the place of the login that was begun before
it. -/
theorem unwritableCallback_persists :
    ¬ ∀ (config : OAuthConfig) (w : World) (failure : Failure),
      ((Step.authenticate (.oauth config) ⟨[], none⟩ []).run claimEngine w).1 = .error failure →
      PersistsNothing (.oauth config) ⟨[], none⟩ w.clock w.cache
        ((Step.authenticate (.oauth config) ⟨[], none⟩ []).run claimEngine w).2.cache := by
  intro h
  have hfault : fault? ((Step.authenticate (.oauth unwritableCallback) ⟨[], none⟩ []).run
      claimEngine begun.2).1 = some .unencodable := by decide +kernel
  have hnew := (h unwritableCallback begun.2 _ (eq_of_fault? hfault)).noneNew
  generalize hafter : ((Step.authenticate (.oauth unwritableCallback) ⟨[], none⟩ []).run
    claimEngine begun.2).2.cache = after at hnew
  have hpending : (after.find? (.text (platformKey codeConfig))).isSome = true := by
    rw [← hafter]
    decide +kernel
  have hother : ((after.find? (.text (platformKey codeConfig))).map fun e => e.value.text?) ≠
      (begun.2.cache.find? (.text (platformKey codeConfig))).map fun e => e.value.text? := by
    rw [← hafter]
    decide +kernel
  obtain ⟨entry, hfind⟩ := Option.isSome_iff_exists.1 hpending
  rw [hnew _ entry hfind, hfind] at hother
  exact hother rfl

end OAuth

end SignIn
