import SignIn.Proofs.OAuth.Interleaving

/-!
# The state of a login is used once

In a history on a cache that was empty at first, a callback goes on only if it returns the state that
exactly one earlier call has stored under the same key, which nobody has touched since and which has
not expired. Taking the state out of the cache makes sure that no other callback goes on with it.
-/

namespace SignIn

namespace OAuth

/-! ## The check of the state -/

theorem eq_of_stateMatches {pending : PendingLogin} {returned : Text}
    (h : stateMatches pending returned = .ok true) : returned = pending.state := by
  rw [stateMatches_eq] at h
  split at h
  · exact of_decide_eq_true (Except.ok.inj h)
  · cases h

/-- Comparing the states fails only for a returned state without UTF-8 form. -/
theorem stateMatches_eq_error {pending : PendingLogin} {returned : Text} {fault : Fault}
    (hpending : Utf8.encodable pending.state = true)
    (h : stateMatches pending returned = .error fault) :
    fault = .unencodable ∧ Utf8.encodable returned = false := by
  rw [stateMatches_eq, hpending, Bool.true_and] at h
  split at h
  · cases h
  · rename_i hreturned
    exact ⟨(Except.error.inj h).symm, Bool.eq_false_iff.2 hreturned⟩

/-- A state that is found right equals the stored one. -/
theorem stateCheck_eq_ok {request : Request} {stored : Datum} {pending : PendingLogin}
    (h : stateCheck request stored = .ok pending) :
    PendingLogin.ofStored stored = .valid pending ∧
      request.get "state" = some pending.state := by
  unfold stateCheck at h
  split at h
  · cases h
  · split at h
    · cases h
    · cases h
    · rename_i p hp
      split at h
      · cases h
      · rename_i returned hreturned
        split at h
        · rename_i hmatches
          cases h
          exact ⟨hp, by rw [hreturned, eq_of_stateMatches hmatches]⟩
        · cases h
        · cases h

/-- How a callback is refused: its state is not right, or it has no UTF-8 form to compare. -/
def IsRefusal (request : Request) (failure : Failure) : Prop :=
  (∃ problem, failure = .auth (.invalidState problem)) ∨
    failure = .fault .unencodable ∧
      ∃ returned, request.get "state" = some returned ∧ Utf8.encodable returned = false

/-- The check of the state against a stored login fails with a refusal if it fails. -/
theorem isRefusal_of_stateCheck {request : Request} {stored : Text} {pending : PendingLogin}
    {failure : Failure} (hstored : pending.toJson? = some stored)
    (h : stateCheck request (.text stored) = .error failure) : IsRefusal request failure := by
  have hread := PendingLogin.ofStored_of_toJson? hstored
  simp only [stateCheck, hread] at h
  cases hget : request.get "state" with
  | none =>
    simp only [hget] at h
    cases h
    exact .inl ⟨_, rfl⟩
  | some returned =>
    simp only [hget] at h
    split at h
    · cases h
    · cases h
      exact .inl ⟨_, rfl⟩
    · rename_i fault hmatches
      cases h
      obtain ⟨-, hencodable, -⟩ := PendingLogin.encodable_parts_of_toJson? hstored
      obtain ⟨rfl, hreturned⟩ := stateMatches_eq_error hencodable hmatches
      exact .inr ⟨rfl, returned, hget, hreturned⟩

/-! ## Calls that go on -/

section leg

variable {engine : Engine} {config : AnyConfig} {request : Request} {now : Instant}
  {cache after : MemoryCache} {replies : List Reply} {es : List Event}
  {result : Except Failure Outcome} {c : OAuthConfig}

/-- A leg of a grant with redirect that calls the provider, uses the mapper or returns a user has
taken a login whose state is right. -/
theorem stateCheck_of_leg (h : Leg engine config request now cache replies es result after)
    (hconfig : config = .oauth c) (hredirects : c.usesRedirect = true)
    (hgoes : (∃ e ∈ es, e.isAccess = false) ∨ ∃ user, result = .ok (.user user)) :
    (∃ pending, stateCheck request (shown cache now c request) = .ok pending) ∧
      .cacheTake (.text (stateKey c request)) (shown cache now c request) ∈ es := by
  cases h with
  | unopened failure hinitiating => simp at hgoes
  | unstored starts hset => simp [storing, Event.isAccess] at hgoes
  | @stored d state challenge stored after starts hset =>
    rcases hgoes with ⟨e, he, haccess⟩ | ⟨user, huser⟩
    · obtain rfl := List.mem_singleton.1 he
      cases haccess
    · exact absurd huser not_user_map
  | @returned d es found admitted completing redirects course =>
    obtain rfl : d = c := eq_of_checkAll admitted hconfig
    refine ⟨stateCheck_of_course redirects course ?_, List.mem_cons_self⟩
    rintro rfl
    rcases hgoes with ⟨e, he, haccess⟩ | ⟨user, huser⟩
    · obtain rfl := List.mem_singleton.1 he
      cases haccess
    · obtain ⟨cs, ms, hnil, hprogress⟩ := progress_of_course course
      cases hprogress with
      | stopped traffic failure => cases huser
      | mapped => simp [deedsOfAll] at hnil
  | @direct d es found admitted completing hdirect course =>
    obtain rfl : d = c := eq_of_checkAll admitted hconfig
    rw [hdirect] at hredirects
    cases hredirects

/-- A callback that passes the earlier checks takes the stored login. If its state is not right, it
fails there. -/
theorem refused_of_leg (h : Leg engine config request now cache replies es result after)
    (hcheck : checkAll config request = .ok c) (hredirects : c.usesRedirect = true)
    (hcallback : isCallback c request = true) {failure : Failure}
    (hstate : stateCheck request (shown cache now c request) = .error failure) :
    result = .error failure := by
  obtain ⟨rest, found, -, rfl, course⟩ := course_of_callback h hcheck hredirects hcallback
  have hsource : tokenSource c request (shown cache now c request) = .fails failure := by
    unfold tokenSource
    unfold OAuthConfig.usesRedirect at hredirects
    cases hgrant : c.grantType with
    | clientCredentials =>
      rw [hgrant] at hredirects
      cases hredirects
    | password =>
      rw [hgrant] at hredirects
      cases hredirects
    | authorizationCode => simp only [hstate]
    | implicit => simp only [hstate]
  rw [hsource] at course
  cases course
  rfl

/-- A call that does not pass the earlier checks fails. -/
theorem failed_of_leg (h : Leg engine config request now cache replies es result after)
    {failure : Failure} (hcheck : checkAll config request = .error failure) :
    ∃ failure, result = .error failure := by
  have hnone {c : OAuthConfig} (hc : checkAll config request = .ok c) : False := by
    rw [hcheck] at hc
    cases hc
  cases h with
  | unopened other hinitiating => exact ⟨other, rfl⟩
  | unstored starts hset => exact (hnone starts.admitted).elim
  | stored starts hset => exact (hnone starts.admitted).elim
  | returned admitted completing redirects course => exact (hnone admitted).elim
  | direct admitted completing hdirect course => exact (hnone admitted).elim

end leg

/-! ## Matching calls -/

/-- A callback comes back to the login that an earlier call has begun: it returns the very state that
the earlier call has stored under its key, in time and before the key was touched by anyone else. -/
structure ComesBackTo (history : List CallRecord) (i j : Nat) (c d : CallRecord)
    (config : OAuthConfig) (pending : PendingLogin) (expiresAt : Option Instant) : Prop where
  begun : history[i]? = some c
  back : history[j]? = some d
  lt : i < j
  config_eq : d.config = .oauth config
  redirects : config.usesRedirect = true
  stores : c.Stores (stateKey config d.request) pending expiresAt
  state : d.request.get "state" = some pending.state
  inTime : ∀ t, expiresAt = some t → d.moment < t
  untouched : ∀ k e, i < k → k < j → history[k]? = some e →
    ¬ e.Touches (stateKey config d.request)

/-- A call matches an earlier one when it comes back to the login that the earlier one has begun. -/
def Matches (history : List CallRecord) (i j : Nat) : Prop :=
  ∃ c d config pending expiresAt, ComesBackTo history i j c d config pending expiresAt

/-- Every state is used at most once, and by nobody but a call that returns it. -/
structure SingleUse (history : List CallRecord) : Prop where
  /-- A call of a grant with redirect that goes on matches exactly one earlier call. -/
  matched : ∀ j d config, history[j]? = some d → d.config = .oauth config →
    config.usesRedirect = true → d.GoesOn → ∃ i, Matches history i j ∧
      ∀ other, Matches history other j → other = i
  /-- No two calls that go on match the same call. -/
  once : ∀ i j k d e, history[j]? = some d → d.GoesOn → history[k]? = some e → e.GoesOn →
    Matches history i j → Matches history i k → j = k
  /-- Every other callback does not go on. If it has ended, it has failed, and with a refusal if it
  has passed the earlier checks. -/
  refused : ∀ j d config, history[j]? = some d → d.IsCallback config →
    (∀ i, ¬ Matches history i j) → ¬ d.GoesOn ∧
      ∀ result, d.result = some result → ∃ failure, result = .error failure ∧
        (refusal? d.request = none → configProblem? config = none → IsRefusal d.request failure)

theorem exists_split {α : Type} {l : List α} {j : Nat} {a : α} (h : l[j]? = some a) :
    ∃ before rest, l = before ++ a :: rest ∧ before.length = j := by
  obtain ⟨hj, ha⟩ := List.getElem?_eq_some_iff.1 h
  refine ⟨l.take j, l.drop (j + 1), ?_, List.length_take_of_le (Nat.le_of_lt hj)⟩
  rw [← ha, List.getElem_cons_drop, List.take_append_drop]

theorem mem_of_between {α : Type} {earlier later rest : List α} {a b e : α} {k : Nat}
    (hfirst : earlier.length < k) (hlast : k < (earlier ++ a :: later).length)
    (h : (earlier ++ a :: later ++ b :: rest)[k]? = some e) : e ∈ later := by
  obtain ⟨m, rfl⟩ : ∃ m, k = earlier.length + (m + 1) := ⟨k - earlier.length - 1, by omega⟩
  rw [List.getElem?_append_left hlast, List.getElem?_append_right (Nat.le_add_right _ _),
    Nat.add_sub_cancel_left, List.getElem?_cons_succ] at h
  exact List.mem_of_getElem? h

/-- A callback whose state is right comes back to the login that its entry stems from. -/
theorem comesBackTo_of_stateCheck {past rest : List CallRecord} {d : CallRecord}
    {cache : MemoryCache} {config : OAuthConfig} {pending : PendingLogin}
    (hpast : Provenance past cache) (hconfig : d.config = .oauth config)
    (hredirects : config.usesRedirect = true)
    (hstate : stateCheck d.request (shown cache d.moment config d.request) = .ok pending) :
    ∃ i c expiresAt,
      ComesBackTo (past ++ d :: rest) i past.length c d config pending expiresAt := by
  obtain ⟨hread, hget⟩ := stateCheck_eq_ok hstate
  rcases shown_eq_null_or cache d.moment config d.request with hnull | ⟨entry, hfind, hlive, hshown⟩
  · rw [hnull] at hread
    cases hread
  · obtain ⟨earlier, c, later, begun, stored, rfl, hstores, hstored, hvalue, hlater⟩ :=
      hpast _ entry hfind
    have hbegun : begun = pending := by
      rw [hshown, hvalue, PendingLogin.ofStored_of_toJson? hstored] at hread
      exact Validated.valid.inj hread
    subst hbegun
    refine ⟨earlier.length, c, entry.expiresAt, ?_⟩
    constructor
    · simp
    · simp
    · simp
    · exact hconfig
    · exact hredirects
    · exact hstores
    · exact hget
    · intro t ht
      simpa [CacheEntry.isLive, ht] using hlive
    · intro k e hik hkj hk
      exact hlater e (mem_of_between hik hkj hk)

theorem ComesBackTo.matches {history : List CallRecord} {i j : Nat} {c d : CallRecord}
    {config : OAuthConfig} {pending : PendingLogin} {t : Option Instant}
    (h : ComesBackTo history i j c d config pending t) : Matches history i j :=
  ⟨c, d, config, pending, t, h⟩

theorem ComesBackTo.key_eq {history : List CallRecord} {i j k : Nat} {c d e : CallRecord}
    {config other : OAuthConfig} {pending begun : PendingLogin} {t u : Option Instant}
    (h : ComesBackTo history i j c d config pending t)
    (hother : ComesBackTo history i k c e other begun u) :
    stateKey config d.request = stateKey other e.request := by
  obtain ⟨first, hfirst, -, hkey⟩ := h.stores.initiates
  obtain ⟨second, hsecond, -, hkey'⟩ := hother.stores.initiates
  rw [hfirst] at hsecond
  cases hsecond
  rw [hkey, hkey']

/-- Two logins under one key that a call comes back to are the same. -/
theorem matches_unique {history : List CallRecord} {i i' j : Nat} (h : Matches history i j)
    (h' : Matches history i' j) : i' = i := by
  obtain ⟨c, d, config, pending, t, hc⟩ := h
  obtain ⟨c', d', config', pending', t', hc'⟩ := h'
  obtain rfl := Option.some.inj (hc.back.symm.trans hc'.back)
  obtain rfl : config = config' := AnyConfig.oauth.inj (hc.config_eq.symm.trans hc'.config_eq)
  rcases Nat.lt_trichotomy i' i with hlt | heq | hlt
  · exact absurd hc.stores.touches (hc'.untouched i c hlt hc.lt hc.begun)
  · exact heq
  · exact absurd hc'.stores.touches (hc.untouched i' c' hlt hc'.lt hc'.begun)

/-- A call that goes on has touched its key, so no later call comes back to the same login. -/
theorem matches_disjoint {history : List CallRecord} {i j k : Nat} {d : CallRecord}
    (hd : history[j]? = some d)
    (htouches : ∀ config, d.config = .oauth config → config.usesRedirect = true →
      d.Touches (stateKey config d.request))
    (h : Matches history i j) (h' : Matches history i k) : k ≤ j := by
  obtain ⟨c, d', config, pending, t, hc⟩ := h
  obtain ⟨c', e, config', pending', t', hc'⟩ := h'
  obtain rfl := Option.some.inj (hc.begun.symm.trans hc'.begun)
  obtain rfl := Option.some.inj (hc.back.symm.trans hd)
  have htouched : d'.Touches (stateKey config' e.request) := by
    rw [← hc.key_eq hc']
    exact htouches config hc.config_eq hc.redirects
  apply Nat.le_of_not_lt
  intro hlt
  exact hc'.untouched j d' hc.lt hlt hd htouched

/-! ## Histories on a cache -/

section history

variable {engine : Engine} {history : List CallRecord} {after : MemoryCache}

/-- A call of a history with what its cache stems from. -/
theorem exists_isLeg (h : Follows (CallRecord.IsLeg engine) ExpiringCache.empty history after)
    {j : Nat} {d : CallRecord} (hd : history[j]? = some d) :
    ∃ past rest before middle, history = past ++ d :: rest ∧ past.length = j ∧
      Provenance past before ∧ d.IsLeg engine before middle := by
  obtain ⟨past, rest, rfl, hj⟩ := exists_split hd
  obtain ⟨before, hpast, middle, hleg, -⟩ := follows_append.1 h
  exact ⟨past, rest, before, middle, rfl, hj, provenance_of_follows provenance_empty hpast, hleg⟩

/-- A call that goes on is a whole leg that goes on. -/
theorem goesOn_of_isLeg {d : CallRecord} {before middle : MemoryCache}
    (hleg : d.IsLeg engine before middle) (hgoes : d.GoesOn) :
    ∃ replies result, Leg engine d.config d.request d.moment before replies (deeds d.journal)
        result middle ∧
      ((∃ e ∈ deeds d.journal, e.isAccess = false) ∨ ∃ user, result = .ok (.user user)) := by
  have hdeed (e : Event) (he : e ∈ d.journal) (hisDeed : e.isDeed = true)
      (haccess : e.isAccess = false) : ∃ e ∈ deeds d.journal, e.isAccess = false :=
    ⟨e, (mem_deeds hisDeed).2 he, haccess⟩
  have hcase : (∃ e ∈ deeds d.journal, e.isAccess = false) ∨
      ∃ user, d.result = some (.ok (.outcome (.user user))) := by
    rcases hgoes with ⟨call, h⟩ | ⟨request, h⟩ | ⟨platform, claims, token, h⟩ | huser
    · exact .inl (hdeed _ h rfl rfl)
    · exact .inl (hdeed _ h rfl rfl)
    · exact .inl (hdeed _ h rfl rfl)
    · exact .inr huser
  cases hleg with
  | @ended replies result after leg hresult =>
    refine ⟨replies, result, leg, hcase.imp_right ?_⟩
    rintro ⟨user, huser⟩
    exact ⟨user, eq_of_map_outcome (Option.some.inj (hresult.symm.trans huser))⟩
  | underway leg hjournal hresult =>
    rcases hcase with ⟨e, he, haccess⟩ | ⟨user, huser⟩
    · rw [hjournal] at he
      rw [(List.mem_filter.1 he).2] at haccess
      cases haccess
    · rw [hresult] at huser
      cases huser

/-- The check of the state fails with a refusal, if it fails, for whatever the engine has stored. -/
theorem isRefusal_of_provenance {past : List CallRecord} {before : MemoryCache}
    (hpast : Provenance past before) {now : Instant} {config : OAuthConfig} {request : Request}
    {failure : Failure}
    (hstate : stateCheck request (shown before now config request) = .error failure) :
    IsRefusal request failure := by
  rcases shown_eq_null_or before now config request with hnull | ⟨entry, hfind, hlive, hshown⟩
  · rw [hnull] at hstate
    cases hstate
    exact .inl ⟨_, rfl⟩
  · obtain ⟨earlier, c, later, begun, stored, -, -, hstored, hvalue, -⟩ := hpast _ entry hfind
    rw [hshown, hvalue] at hstate
    exact isRefusal_of_stateCheck hstored hstate

/-- A callback without a right state fails, and with a refusal if it has passed the earlier
checks. -/
theorem refused_of_mismatch {past : List CallRecord} {d : CallRecord} {config : OAuthConfig}
    {before middle : MemoryCache} {replies : List Reply} {es : List Event}
    {outcome : Except Failure Outcome} (hpast : Provenance past before)
    (hleg : Leg engine d.config d.request d.moment before replies es outcome middle)
    (hcallback : d.IsCallback config)
    (hstate : ∀ pending,
      stateCheck d.request (shown before d.moment config d.request) ≠ .ok pending) :
    ∃ failure, outcome = .error failure ∧
      (refusal? d.request = none → configProblem? config = none → IsRefusal d.request failure) := by
  obtain ⟨hconfig, hredirects, hreturns⟩ := hcallback
  cases hcheck : checkAll d.config d.request with
  | error failure =>
    obtain ⟨other, hother⟩ := failed_of_leg hleg hcheck
    refine ⟨other, hother, ?_⟩
    intro hrefusal hproblem
    rw [checkAll_eq_ok_iff.2 ⟨hconfig, hrefusal, hproblem⟩] at hcheck
    cases hcheck
  | ok c =>
    obtain rfl : config = c := (eq_of_checkAll hcheck hconfig).symm
    cases hcase : stateCheck d.request (shown before d.moment config d.request) with
    | ok pending => exact absurd hcase (hstate pending)
    | error failure =>
      exact ⟨failure, refused_of_leg hleg hcheck hredirects hreturns hcase,
        fun _ _ => isRefusal_of_provenance hpast hcase⟩

/-- Calls that follow each other on a cache that was empty use every state once. -/
theorem singleUse_of_follows
    (h : Follows (CallRecord.IsLeg engine) ExpiringCache.empty history after) :
    SingleUse history := by
  have hmatched (j : Nat) (d : CallRecord) (config : OAuthConfig) (hd : history[j]? = some d)
      (hconfig : d.config = .oauth config) (hredirects : config.usesRedirect = true)
      (hgoes : d.GoesOn) : (∃ i, Matches history i j) ∧ d.Touches (stateKey config d.request) := by
    obtain ⟨past, rest, before, middle, rfl, rfl, hpast, hleg⟩ := exists_isLeg h hd
    obtain ⟨replies, result, hleg, hgoes⟩ := goesOn_of_isLeg hleg hgoes
    obtain ⟨⟨pending, hstate⟩, htaken⟩ := stateCheck_of_leg hleg hconfig hredirects hgoes
    obtain ⟨i, c, expiresAt, hback⟩ :=
      comesBackTo_of_stateCheck hpast hconfig hredirects hstate
    exact ⟨⟨i, hback.matches⟩, _, (List.mem_filter.1 htaken).1, rfl⟩
  constructor
  · intro j d config hd hconfig hredirects hgoes
    obtain ⟨⟨i, hi⟩, -⟩ := hmatched j d config hd hconfig hredirects hgoes
    exact ⟨i, hi, fun other hother => matches_unique hi hother⟩
  · intro i j k d e hd hdgoes he hegoes hj hk
    have hkj := matches_disjoint hd
      (fun config hconfig hredirects => (hmatched j d config hd hconfig hredirects hdgoes).2) hj hk
    have hjk := matches_disjoint he
      (fun config hconfig hredirects => (hmatched k e config he hconfig hredirects hegoes).2) hk hj
    exact Nat.le_antisymm hjk hkj
  · intro j d config hd hcallback hnone
    obtain ⟨hconfig, hredirects, hreturns⟩ := hcallback
    constructor
    · intro hgoes
      obtain ⟨⟨i, hi⟩, -⟩ := hmatched j d config hd hconfig hredirects hgoes
      exact hnone i hi
    · intro result hresult
      obtain ⟨past, rest, before, middle, rfl, rfl, hpast, hleg⟩ := exists_isLeg h hd
      obtain ⟨replies, es, outcome, hleg, -, ⟨-, hended⟩ | ⟨-, hunderway⟩⟩ := hleg.exists_leg
      · obtain rfl := Option.some.inj (hended.symm.trans hresult)
        have hmismatch (pending : PendingLogin) :
            stateCheck d.request (shown before d.moment config d.request) ≠ .ok pending := by
          intro hstate
          obtain ⟨i, c, expiresAt, hback⟩ :=
            comesBackTo_of_stateCheck hpast hconfig hredirects hstate
          exact hnone i hback.matches
        obtain ⟨failure, rfl, hrefusal⟩ :=
          refused_of_mismatch hpast hleg ⟨hconfig, hredirects, hreturns⟩ hmismatch
        exact ⟨failure, rfl, hrefusal⟩
      · rw [hunderway] at hresult
        cases hresult

/-- Whatever is called with whatever is answered, one after another or at the same time, every state
is used once. -/
theorem state_used_once (h : HistoryOf engine history) : SingleUse history := by
  obtain ⟨after, hfollows⟩ := h.exists_follows
  exact singleUse_of_follows hfollows

end history

/-- A sign-in that is begun, completed in time and tried once more. -/
def replayedRun : List Step :=
  [.authenticate (.oauth codeConfig) ⟨[], none⟩ [], .clock 1,
    .authenticate (.oauth codeConfig) codeRequest [],
    .authenticate (.oauth codeConfig) codeRequest []]

/-- Of the two callbacks only the first one goes on. -/
theorem replayedRun_used_once :
    (∀ step ∈ replayedRun, step.IsOwn) ∧
      SingleUse (recordsOf claimEngine replayedRun freshWorld) ∧
      (recordsOf claimEngine replayedRun freshWorld).map
        (fun c => (calls c.journal).length) = [0, 1, 0] := by
  have hown : ∀ step ∈ replayedRun, step.IsOwn := by simp [replayedRun, Step.IsOwn]
  exact ⟨hown, state_used_once (.sequential 0 ⟨fun _ => 0, 0⟩ hown), by decide +kernel⟩

end OAuth

end SignIn
