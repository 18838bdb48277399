import SignIn.Proofs.OAuth.SingleUse
import SignIn.Proofs.OAuth.Visibility

/-!
# Isolation of clients

Clients that keep their logins under different keys do not interfere: whatever one of them does, the
sign-ins of the other come to the same as if it had done nothing. Clients that share a key do
interfere. A key joins the platform and the name of a client by a colon, so two clients share one if
a colon within one of these parts can be taken for the colon between them.
-/

namespace SignIn

namespace OAuth

/-! ## Clients and their keys -/

structure Client where
  platform : Text
  clientId : Option Text
deriving DecidableEq

def clientOf (config : OAuthConfig) : Client := ⟨config.platform, config.clientId⟩

namespace Client

/-- The sign between the platform and the name. -/
def colon : CodePoint := CodePoint.ofChar ':'

/-- The name of a client in its key. -/
def name (c : Client) : Text := (Datum.ofText? c.clientId).display

/-- The key under which the logins of a client are pending. -/
def key (c : Client) : Text := Text.concat ["oauth2:state:", c.platform, ":", c.name]

/-- The platform of the second client goes on after that of the first with a colon, and the name of
the first ends with a colon and the name of the second, so that both run together to the same. -/
def Overlaps (first second : Client) : Prop :=
  ∃ middle, second.platform = first.platform ++ colon :: middle ∧
    first.name = middle ++ colon :: second.name

/-- Where clients overlap, there is a colon in the platform of one and in the name of the other. -/
theorem Overlaps.colon_mem {first second : Client} (h : first.Overlaps second) :
    colon ∈ second.platform ∧ colon ∈ first.name := by
  obtain ⟨middle, hplatform, hname⟩ := h
  rw [hplatform, hname]
  exact ⟨List.mem_append_right _ List.mem_cons_self, List.mem_append_right _ List.mem_cons_self⟩

theorem key_eq_append (c : Client) :
    c.key = Text.ofString "oauth2:state:" ++ (c.platform ++ colon :: c.name) := by
  simp only [key, Text.concat_cons, Text.concat_nil, List.append_nil]
  rfl

/-- Two clients share a key if they have the same platform and name, or if they overlap. -/
theorem key_eq_iff {first second : Client} :
    first.key = second.key ↔ (first.platform = second.platform ∧ first.name = second.name) ∨
      first.Overlaps second ∨ second.Overlaps first := by
  rw [key_eq_append, key_eq_append, List.append_cancel_left_eq, List.append_eq_append_iff]
  constructor
  · rintro (⟨front, hplatform, hname⟩ | ⟨front, hplatform, hname⟩)
    · cases front with
      | nil =>
        rw [List.append_nil] at hplatform
        exact .inl ⟨hplatform.symm, (List.cons.inj hname).2⟩
      | cons c middle =>
        obtain ⟨rfl, hends⟩ := List.cons.inj (hname.trans List.cons_append)
        exact .inr (.inl ⟨middle, hplatform, hends⟩)
    · cases front with
      | nil =>
        rw [List.append_nil] at hplatform
        exact .inl ⟨hplatform, (List.cons.inj hname).2.symm⟩
      | cons c middle =>
        obtain ⟨rfl, hends⟩ := List.cons.inj (hname.trans List.cons_append)
        exact .inr (.inr ⟨middle, hplatform, hends⟩)
  · rintro (⟨hplatform, hname⟩ | ⟨middle, hplatform, hname⟩ | ⟨middle, hplatform, hname⟩)
    · exact .inl ⟨[], by rw [List.append_nil, hplatform], by rw [hname]; rfl⟩
    · exact .inl ⟨colon :: middle, hplatform, by rw [hname]; rfl⟩
    · exact .inr ⟨colon :: middle, hplatform, by rw [hname]; rfl⟩

end Client

theorem platformKey_eq (config : OAuthConfig) : platformKey config = (clientOf config).key := rfl

/-- A request without a key of its own keeps the login under the key of the client. -/
theorem stateKey_of_ownKey {config : OAuthConfig} {request : Request}
    (h : nonEmpty? request.cacheKey = none) : stateKey config request = (clientOf config).key := by
  rw [stateKey, h, platformKey_eq]

/-- A configuration without a problem names its client. -/
theorem exists_clientId {config : OAuthConfig} (h : configProblem? config = none) :
    ∃ id, config.clientId = some id := by
  cases hid : config.clientId with
  | some id => exact ⟨id, rfl⟩
  | none =>
    rw [configProblem?, hid] at h
    cases h

/-- Different clients without a problem share a key if and only if they overlap. -/
theorem key_eq_iff_overlaps {c d : OAuthConfig} (hc : configProblem? c = none)
    (hd : configProblem? d = none) (hne : clientOf c ≠ clientOf d) :
    (clientOf c).key = (clientOf d).key ↔
      (clientOf c).Overlaps (clientOf d) ∨ (clientOf d).Overlaps (clientOf c) := by
  obtain ⟨first, hfirst⟩ := exists_clientId hc
  obtain ⟨second, hsecond⟩ := exists_clientId hd
  have hparts : ¬ ((clientOf c).platform = (clientOf d).platform ∧
      (clientOf c).name = (clientOf d).name) := by
    rintro ⟨hplatform, hname⟩
    have hid : first = second := by
      simpa [clientOf, Client.name, hfirst, hsecond, Datum.ofText?, Datum.display] using hname
    refine hne (Client.mk.injEq .. ▸ ⟨hplatform, ?_⟩)
    rw [hfirst, hsecond, hid]
  rw [Client.key_eq_iff, or_iff_right hparts]

/-! ## Visits -/

/-- A step with the random stream that it draws from. -/
structure Visit where
  random : RandomStream
  step : Step

namespace Visit

/-- Whether a visit is a sign-in of a client without a key of its own. -/
def isOf (client : Client) (v : Visit) : Bool :=
  match v.step with
  | .authenticate (.oauth config) request _ =>
    clientOf config = client ∧ nonEmpty? request.cacheKey = none
  | _ => false

def run (engine : Engine) (v : Visit) (w : World) : Except Failure StepResult × World :=
  v.step.run engine { w with random := v.random }

end Visit

def worldAfterVisits (engine : Engine) : List Visit → World → World
  | [], w => w
  | v :: rest, w => worldAfterVisits engine rest (v.run engine w).2

/-- What the visits of a client come to, and what is done in them. -/
def outcomes (engine : Engine) (client : Client) :
    List Visit → World → List (Except Failure StepResult × List Event)
  | [], _ => []
  | v :: rest, w =>
    (if v.isOf client then [((v.run engine w).1, (v.run engine w).2.journal)] else []) ++
      outcomes engine client rest (v.run engine w).2

/-- The clock is moved forward only. -/
def Forward : Instant → List Visit → Prop
  | _, [] => True
  | now, v :: rest =>
    now ≤ v.step.clockAfter now ∧ Forward (v.step.clockAfter now) rest

def without (client : Client) (visits : List Visit) : List Visit :=
  visits.filter fun v => !v.isOf client

/-- A client is isolated from another: its sign-ins come to the same without those of the other, and
so does what is pending for it. -/
structure Isolated (engine : Engine) (client other : Client) : Prop where
  outcomes_eq : ∀ (visits : List Visit) (w : World), Forward w.clock visits →
    outcomes engine client visits w = outcomes engine client (without other visits) w
  pending_eq : ∀ (visits : List Visit) (w : World), Forward w.clock visits →
    held (worldAfterVisits engine visits w).clock client.key
        (worldAfterVisits engine visits w).cache =
      held (worldAfterVisits engine (without other visits) w).clock client.key
        (worldAfterVisits engine (without other visits) w).cache

/-! ## Clients with different keys -/

theorem exists_of_isOf {client : Client} {v : Visit} (h : v.isOf client = true) :
    ∃ config request replies, v.step = .authenticate (.oauth config) request replies ∧
      clientOf config = client ∧ stateKey config request = client.key := by
  unfold Visit.isOf at h
  split at h
  · rename_i config request replies hstep
    obtain ⟨hclient, hkey⟩ := of_decide_eq_true h
    exact ⟨config, request, replies, hstep, hclient, by rw [stateKey_of_ownKey hkey, hclient]⟩
  · cases h

/-- Worlds that have the same clock and hold the same under a key. -/
structure World.Agree (key : Text) (v w : World) : Prop where
  clock_eq : v.clock = w.clock
  held_eq : held v.clock key v.cache = held w.clock key w.cache

theorem World.Agree.alike {key : Text} {v w : World} (h : World.Agree key v w)
    (random : RandomStream) :
    World.Alike key { v with random := random } { w with random := random } :=
  ⟨h.clock_eq, rfl, h.held_eq⟩

section step

variable {engine : Engine} {client other : Client} {visit : Visit} {v w : World}

/-- Both worlds go on to agree when they are visited. -/
theorem agree_run {key : Text} (h : World.Agree key v w)
    (hforward : v.clock ≤ visit.step.clockAfter v.clock) :
    World.Agree key (visit.run engine v).2 (visit.run engine w).2 := by
  obtain ⟨events, heffects⟩ := exists_effects engine visit.step v.clock visit.random
  have hclock := heffects.clock_eq { v with random := visit.random } rfl rfl
  have hclock' := heffects.clock_eq { w with random := visit.random } h.clock_eq.symm rfl
  have hcache := heffects.cache_eq { v with random := visit.random } rfl rfl
  have hcache' := heffects.cache_eq { w with random := visit.random } h.clock_eq.symm rfl
  have hheld := h.held_eq
  rw [← h.clock_eq] at hheld
  constructor
  · exact hclock.trans hclock'.symm
  · unfold Visit.run
    rw [hclock, hclock', hcache, hcache', held_of_le hforward, held_of_le hforward,
      held_foldl_effect events hheld]

/-- A sign-in under another key leaves what is held. -/
theorem agree_run_of_isOf (hother : visit.isOf other = true) (hkey : client.key ≠ other.key)
    (h : World.Agree client.key v w) : World.Agree client.key (visit.run engine v).2 w := by
  obtain ⟨config, request, replies, hstep, -, hstate⟩ := exists_of_isOf hother
  obtain ⟨events, heffects, hkeys⟩ := exists_effects_authenticate engine (.oauth config) request
    replies v.clock visit.random
  have hclock := heffects.clock_eq { v with random := visit.random } rfl rfl
  have hcache := heffects.cache_eq { v with random := visit.random } rfl rfl
  have huntouched : ∀ e ∈ events, ¬ e.Touches v.clock client.key := by
    intro e he htouches
    obtain ⟨d, hd, htouched⟩ := hkeys e he _ htouches
    obtain rfl := AnyConfig.oauth.inj hd
    exact hkey (htouched.trans hstate)
  unfold Visit.run
  rw [hstep]
  constructor
  · exact hclock.trans h.clock_eq
  · rw [hclock, hcache]
    exact (held_foldl_effect_of_not_touches huntouched v.cache).trans h.held_eq

/-- A sign-in of a client comes to the same in worlds that agree on its key. -/
theorem outcome_eq_of_agree (hclient : visit.isOf client = true)
    (h : World.Agree client.key v w) :
    ((visit.run engine v).1, (visit.run engine v).2.journal) =
      ((visit.run engine w).1, (visit.run engine w).2.journal) := by
  obtain ⟨config, request, replies, hstep, -, hstate⟩ := exists_of_isOf hclient
  have halike := h.alike visit.random
  rw [← hstate] at halike
  obtain ⟨hresult, hjournal⟩ := run_authenticate_congr engine replies halike
  unfold Visit.run
  rw [hstep, hresult, hjournal]

theorem clock_run (engine : Engine) (visit : Visit) (w : World) :
    (visit.run engine w).2.clock = visit.step.clockAfter w.clock := by
  obtain ⟨events, heffects⟩ := exists_effects engine visit.step w.clock visit.random
  exact heffects.clock_eq { w with random := visit.random } rfl rfl

end step

/-- No visit is one of two clients. -/
theorem isOf_false_of_isOf {client other : Client} {visit : Visit} (hne : client ≠ other)
    (hother : visit.isOf other = true) : visit.isOf client = false := by
  rw [Bool.eq_false_iff]
  intro hclient
  obtain ⟨config, request, replies, hstep, hconfig, -⟩ := exists_of_isOf hclient
  obtain ⟨config', request', replies', hstep', hconfig', -⟩ := exists_of_isOf hother
  rw [hstep] at hstep'
  cases hstep'
  exact hne (hconfig.symm.trans hconfig')

/-- Worlds that agree on the key of a client go on to agree if the visits of another client, whose
key is different, are left out in one of them. -/
theorem agree_of_without {engine : Engine} {client other : Client}
    (hkey : client.key ≠ other.key) {visits : List Visit} {v w : World}
    (h : World.Agree client.key v w) (hforward : Forward v.clock visits) :
    outcomes engine client visits v = outcomes engine client (without other visits) w ∧
      World.Agree client.key (worldAfterVisits engine visits v)
        (worldAfterVisits engine (without other visits) w) := by
  induction visits generalizing v w with
  | nil => exact ⟨rfl, h⟩
  | cons visit rest ih =>
    obtain ⟨hnow, hrest⟩ := hforward
    rw [← clock_run engine visit v] at hrest
    cases hother : visit.isOf other with
    | true =>
      have hwithout : without other (visit :: rest) = without other rest :=
        List.filter_cons_of_neg (by simp [hother])
      obtain ⟨houtcomes, hagree⟩ := ih (agree_run_of_isOf hother hkey h) hrest
      rw [hwithout]
      refine ⟨?_, hagree⟩
      have hne : client ≠ other := ne_of_apply_ne Client.key hkey
      rw [outcomes, isOf_false_of_isOf hne hother]
      exact houtcomes
    | false =>
      have hwithout : without other (visit :: rest) = visit :: without other rest :=
        List.filter_cons_of_pos (by simp [hother])
      obtain ⟨houtcomes, hagree⟩ := ih (agree_run h hnow) hrest
      rw [hwithout]
      refine ⟨?_, hagree⟩
      rw [outcomes, outcomes, houtcomes]
      cases hclient : visit.isOf client with
      | true => rw [outcome_eq_of_agree hclient h]
      | false => rfl

/-- Clients with different keys are isolated from each other. -/
theorem isolated_of_key_ne (engine : Engine) {client other : Client}
    (hkey : client.key ≠ other.key) : Isolated engine client other := by
  constructor
  · intro visits w hforward
    exact (agree_of_without hkey ⟨rfl, rfl⟩ hforward).1
  · intro visits w hforward
    exact (agree_of_without hkey ⟨rfl, rfl⟩ hforward).2.held_eq

/-- What comes of a sign-in of an isolated client does not depend on whether the other client has
been there in between. -/
theorem Isolated.eq_of_between {engine : Engine} {client other : Client}
    (h : Isolated engine client other) (hne : client ≠ other) {first between last : Visit}
    (hfirst : first.isOf client = true) (hbetween : between.isOf other = true)
    (hlast : last.isOf client = true) {w : World}
    (hforward : Forward w.clock [first, between, last]) :
    (last.run engine (between.run engine (first.run engine w).2).2).1 =
      (last.run engine (first.run engine w).2).1 := by
  have hbetween' : between.isOf client = false := isOf_false_of_isOf hne hbetween
  have hfirst' : first.isOf other = false := isOf_false_of_isOf hne.symm hfirst
  have hlast' : last.isOf other = false := isOf_false_of_isOf hne.symm hlast
  have hwithout : without other [first, between, last] = [first, last] := by
    simp [without, hbetween, hfirst', hlast']
  have hruns := h.outcomes_eq [first, between, last] w hforward
  rw [hwithout] at hruns
  simp only [outcomes, hfirst, hbetween', hlast, if_true, Bool.false_eq_true, if_false,
    List.singleton_append, List.nil_append, List.append_nil, List.cons.injEq,
    Prod.mk.injEq] at hruns
  exact hruns.2.1.1

/-! ## Clients that share a key -/

/-- A login begins in a world, under the key of its client: the user agent is sent away, and the
login is pending. -/
structure Begins (engine : Engine) (c : OAuthConfig) (request : Request) (replies : List Reply)
    (w : World) : Prop where
  ownKey : nonEmpty? request.cacheKey = none
  redirects : ∃ url, ((Step.authenticate (.oauth c) request replies).run engine w).1 =
    .ok (.outcome (.redirect url))
  pending : shown ((Step.authenticate (.oauth c) request replies).run engine w).2.cache
    ((Step.authenticate (.oauth c) request replies).run engine w).2.clock c request ≠ .null

/-- A login begins only for a configuration that is in order and sends the user agent away. -/
theorem Begins.admitted {engine : Engine} {c : OAuthConfig} {request : Request}
    {replies : List Reply} {w : World} (h : Begins engine c request replies w) :
    configProblem? c = none ∧ c.usesRedirect = true := by
  obtain ⟨url, hredirect⟩ := h.redirects
  obtain ⟨result, hresult, -, hleg⟩ := run_authenticate engine w (.oauth c) request replies
  obtain rfl := eq_of_map_outcome (hresult.symm.trans hredirect)
  obtain ⟨d, state, challenge, stored, hstarts, -, -, -⟩ := starts_of_redirect hleg
  obtain rfl : d = c := eq_of_checkAll hstarts.admitted rfl
  exact ⟨(checkAll_eq_ok_iff.1 hstarts.admitted).2.2,
    usesRedirect_of_initiating hstarts.initiating⟩

/-- A callback that needs no knowledge of any login. -/
def forgedRequest : Request := ⟨[("state", "x")], none⟩

theorem refusal?_forgedRequest : refusal? forgedRequest = none := by decide +kernel

theorem isCallback_forgedRequest (c : OAuthConfig) : isCallback c forgedRequest = true := by
  have hstate : (forgedRequest.get "state").isSome = true := by decide +kernel
  rw [isCallback, hstate, Bool.or_true]

theorem checkAll_forgedRequest {c : OAuthConfig} (h : configProblem? c = none) :
    checkAll (.oauth c) forgedRequest = .ok c :=
  checkAll_eq_ok_iff.2 ⟨rfl, refusal?_forgedRequest, h⟩

/-- Only where nothing is pending does the check of the state say so. -/
theorem stateCheck_ne_nothingPending {request : Request} {stored : Datum} (h : stored ≠ .null) :
    stateCheck request stored ≠ .error (.auth (.invalidState .nothingPending)) := by
  intro hcheck
  unfold stateCheck at hcheck
  split at hcheck
  · exact h rfl
  · split at hcheck
    · cases hcheck
    · cases hcheck
    · split at hcheck
      · cases hcheck
      · split at hcheck <;> cases hcheck

/-- A forged callback comes to nothing, and not for want of a pending login if there is one. -/
theorem tokenSource_forgedRequest {c : OAuthConfig} {stored : Datum}
    (hredirects : c.usesRedirect = true) (hstored : stored ≠ .null) :
    ∃ failure, tokenSource c forgedRequest stored = .fails failure ∧
      failure ≠ .auth (.invalidState .nothingPending) := by
  have hcode : forgedRequest.get "code" = none := by decide +kernel
  have htoken : (tokenOfPayload forgedRequest.record).1 =
      .error (.auth (.malformedToken forgedRequest.record)) := rfl
  have hcheck : stateCheck forgedRequest stored ≠ .error (.auth (.invalidState .nothingPending)) :=
    stateCheck_ne_nothingPending hstored
  unfold tokenSource
  unfold OAuthConfig.usesRedirect at hredirects
  cases hgrant : c.grantType with
  | clientCredentials =>
    rw [hgrant] at hredirects
    cases hredirects
  | password =>
    rw [hgrant] at hredirects
    cases hredirects
  | authorizationCode =>
    cases hstate : stateCheck forgedRequest stored with
    | error failure => exact ⟨failure, rfl, fun hf => hcheck (hf ▸ hstate)⟩
    | ok pending =>
      simp only [codeSource, hcode]
      exact ⟨_, rfl, by simp⟩
  | implicit =>
    cases hstate : stateCheck forgedRequest stored with
    | error failure => exact ⟨failure, rfl, fun hf => hcheck (hf ▸ hstate)⟩
    | ok pending =>
      simp only [carriedSource, htoken]
      exact ⟨_, rfl, by simp⟩

section forged

variable {engine : Engine} {c : OAuthConfig} {w : World}

/-- A forged callback takes the pending login away. -/
theorem shown_after_forged (hproblem : configProblem? c = none)
    (hredirects : c.usesRedirect = true) {d : OAuthConfig} {request : Request}
    (hkey : stateKey d request = stateKey c forgedRequest) (now : Instant) :
    shown ((Step.authenticate (.oauth c) forgedRequest []).run engine w).2.cache now d request =
      .null := by
  obtain ⟨result, -, -, hleg⟩ := run_authenticate engine w (.oauth c) forgedRequest []
  obtain ⟨rest, found, hdeeds, rfl, hcourse⟩ := course_of_callback hleg
    (checkAll_forgedRequest hproblem) hredirects (isCallback_forgedRequest c)
  have haccesses : accesses (.cacheTake (.text (stateKey c forgedRequest))
      (shown w.cache w.clock c forgedRequest) :: rest) =
        [.cacheTake (.text (stateKey c forgedRequest)) (shown w.cache w.clock c forgedRequest)] :=
    congrArg (List.cons _) (accesses_of_course hcourse)
  have hcache : ((Step.authenticate (.oauth c) forgedRequest []).run engine w).2.cache =
      w.cache.erase (.text (stateKey c forgedRequest)) := by
    have hafter := (cacheDiscipline_of_leg (w := { w with replies := [] }) hleg).cache_eq
    rw [hdeeds, haccesses] at hafter
    exact hafter
  have hnone : (w.cache.erase (.text (stateKey c forgedRequest))).find?
      (.text (stateKey d request)) = none := by
    rw [ExpiringCache.find?_erase, hkey, if_pos rfl]
  rw [hcache, shown, ExpiringCache.lookup, hnone]
  rfl

/-- Whether something is pending shows in what comes of a forged callback. -/
theorem forged_eq_nothingPending_iff (hproblem : configProblem? c = none)
    (hredirects : c.usesRedirect = true) :
    ((Step.authenticate (.oauth c) forgedRequest []).run engine w).1 =
        .error (.auth (.invalidState .nothingPending)) ↔
      shown w.cache w.clock c forgedRequest = .null := by
  obtain ⟨result, hresult, -, hleg⟩ := run_authenticate engine w (.oauth c) forgedRequest []
  have hcheck := checkAll_forgedRequest hproblem
  rw [hresult]
  constructor
  · intro hnothing
    apply Classical.byContradiction
    intro hstored
    obtain ⟨failure, hsource, hother⟩ := tokenSource_forgedRequest hredirects hstored
    obtain ⟨rest, found, -, rfl, hcourse⟩ := course_of_callback hleg hcheck hredirects
      (isCallback_forgedRequest c)
    rw [hsource] at hcourse
    cases hcourse
    exact hother (Except.error.inj hnothing)
  · intro hstored
    have hstate : stateCheck forgedRequest (shown w.cache w.clock c forgedRequest) =
        .error (.auth (.invalidState .nothingPending)) := by rw [hstored, stateCheck]
    rw [refused_of_leg hleg hcheck hredirects (isCallback_forgedRequest c) hstate]
    rfl

end forged

/-- A client whose login can begin is not isolated from another client that shares its key: a forged
callback of the other takes the pending login away. -/
theorem not_isolated_of_key_eq {engine : Engine} {c d : OAuthConfig} {request : Request}
    {replies : List Reply} {w : World} (hbegins : Begins engine c request replies w)
    (hproblem : configProblem? d = none) (hredirects : d.usesRedirect = true)
    (hne : clientOf c ≠ clientOf d) (hkey : (clientOf c).key = (clientOf d).key) :
    ¬ Isolated engine (clientOf c) (clientOf d) := by
  intro hisolated
  obtain ⟨hcproblem, hcredirects⟩ := hbegins.admitted
  have hown := hbegins.ownKey
  have hforgedKey (config : OAuthConfig) :
      stateKey config forgedRequest = (clientOf config).key := stateKey_of_ownKey rfl
  let first : Visit := ⟨w.random, .authenticate (.oauth c) request replies⟩
  let forged : Visit := ⟨w.random, .authenticate (.oauth d) forgedRequest []⟩
  let last : Visit := ⟨w.random, .authenticate (.oauth c) forgedRequest []⟩
  have hfirst : first.isOf (clientOf c) = true := decide_eq_true ⟨rfl, hown⟩
  have hforged : forged.isOf (clientOf d) = true := decide_eq_true ⟨rfl, rfl⟩
  have hlast : last.isOf (clientOf c) = true := decide_eq_true ⟨rfl, rfl⟩
  have hforward : Forward w.clock [first, forged, last] :=
    ⟨Int.le_refl _, Int.le_refl _, Int.le_refl _, trivial⟩
  have hsame := hisolated.eq_of_between hne hfirst hforged hlast hforward
  have hwithout : (last.run engine (first.run engine w).2).1 ≠
      .error (.auth (.invalidState .nothingPending)) := by
    intro hnothing
    have hshown := (forged_eq_nothingPending_iff hcproblem hcredirects).1 hnothing
    apply hbegins.pending
    rw [shown, stateKey_of_ownKey hown, ← hforgedKey]
    exact hshown
  have hwith : (last.run engine (forged.run engine (first.run engine w).2).2).1 =
      .error (.auth (.invalidState .nothingPending)) := by
    apply (forged_eq_nothingPending_iff hcproblem hcredirects).2
    apply shown_after_forged hproblem hredirects
    rw [hforgedKey, hforgedKey, hkey]
  exact hwithout (hsame.symm.trans hwith)

/-- Of two different clients, the first is isolated from the second if and only if neither runs over
into the other. -/
theorem clients_isolated_iff {engine : Engine} {c d : OAuthConfig} {request : Request}
    {replies : List Reply} {w : World} (hbegins : Begins engine c request replies w)
    (hproblem : configProblem? d = none) (hredirects : d.usesRedirect = true)
    (hne : clientOf c ≠ clientOf d) :
    Isolated engine (clientOf c) (clientOf d) ↔
      ¬ ((clientOf c).Overlaps (clientOf d) ∨ (clientOf d).Overlaps (clientOf c)) := by
  rw [← key_eq_iff_overlaps hbegins.admitted.1 hproblem hne]
  constructor
  · intro hisolated hkey
    exact not_isolated_of_key_eq hbegins hproblem hredirects hne hkey hisolated
  · exact isolated_of_key_ne engine

def clientConfig (platform id : Text) : OAuthConfig :=
  { codeConfig with enablePkce := false, platform := platform, clientId := some id }

theorem begins_clientConfig :
    Begins claimEngine (clientConfig "acme:eu" "app") ⟨[], none⟩ [] freshWorld := by
  have hredirect : redirect? ((Step.authenticate (.oauth (clientConfig "acme:eu" "app")) ⟨[], none⟩
      []).run claimEngine freshWorld).1 =
        some (Text.ofString "https://h/a?response_type=code&client_id=app&state=s1") := by
    decide +kernel
  have hshown : (shown
      ((Step.authenticate (.oauth (clientConfig "acme:eu" "app")) ⟨[], none⟩ []).run claimEngine
        freshWorld).2.cache
      ((Step.authenticate (.oauth (clientConfig "acme:eu" "app")) ⟨[], none⟩ []).run claimEngine
        freshWorld).2.clock (clientConfig "acme:eu" "app") ⟨[], none⟩).truthy = true := by
    decide +kernel
  refine ⟨rfl, ⟨_, eq_of_redirect? hredirect⟩, ?_⟩
  intro hnull
  rw [hnull] at hshown
  cases hshown

/-- Clients of one platform are isolated from each other, even if it has a colon in its name. -/
theorem clientConfig_isolated :
    Begins claimEngine (clientConfig "acme:eu" "app") ⟨[], none⟩ [] freshWorld ∧
      configProblem? (clientConfig "acme:eu" "other") = none ∧
      (clientConfig "acme:eu" "other").usesRedirect = true ∧
      clientOf (clientConfig "acme:eu" "app") ≠ clientOf (clientConfig "acme:eu" "other") ∧
      Isolated claimEngine (clientOf (clientConfig "acme:eu" "app"))
        (clientOf (clientConfig "acme:eu" "other")) := by
  have hproblem : configProblem? (clientConfig "acme:eu" "other") = none := by decide +kernel
  have hne : clientOf (clientConfig "acme:eu" "app") ≠
      clientOf (clientConfig "acme:eu" "other") := by decide +kernel
  refine ⟨begins_clientConfig, hproblem, rfl, hne,
    (clients_isolated_iff begins_clientConfig hproblem rfl hne).2 ?_⟩
  rintro (hfirst | hsecond)
  · exact absurd hfirst.colon_mem.2 (by decide +kernel)
  · exact absurd hsecond.colon_mem.2 (by decide +kernel)

/-- Clients of two platforms share a key and are not isolated from each other. -/
theorem overlapping_not_isolated :
    ¬ ∀ c d : OAuthConfig, configProblem? c = none → c.usesRedirect = true →
      configProblem? d = none → d.usesRedirect = true → clientOf c ≠ clientOf d →
      Isolated claimEngine (clientOf c) (clientOf d) := by
  intro h
  have hproblem : configProblem? (clientConfig "acme" "eu:app") = none := by decide +kernel
  have hne : clientOf (clientConfig "acme:eu" "app") ≠ clientOf (clientConfig "acme" "eu:app") := by
    decide +kernel
  have hkey : (clientOf (clientConfig "acme:eu" "app")).key =
      (clientOf (clientConfig "acme" "eu:app")).key := by decide +kernel
  obtain ⟨hcproblem, hcredirects⟩ := begins_clientConfig.admitted
  exact not_isolated_of_key_eq begins_clientConfig hproblem rfl hne hkey
    (h _ _ hcproblem hcredirects hproblem rfl hne)

end OAuth

end SignIn
