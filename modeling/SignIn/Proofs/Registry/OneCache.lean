import Mathlib.Tactic.ByContra
import SignIn.Proofs.Running
import SignIn.Registry.Strategy

/-!
# One cache for the process

A call that needs the cache of the process is handed the one in use, or else one that is made for it.
So all caches that are handed out between two resets are one. Which cache is made depends on the
call: asking for the cache makes it by the settings that are supplied, making a strategy makes it by
those of the environment, and before it is known whether the strategy can be made.
-/

namespace SignIn

namespace Registry

/-! ## Calls -/

/-- The cache of the process that a strategy uses, if it does. -/
def Strategy.sharedCache? : Strategy → Option NumberedCache
  | .oauth (.shared c) _ => some c
  | _ => none

/-- A call that concerns the cache of the process. -/
inductive Call where
  | get (settings : Option Settings)
  | create (protocol : Text) (given : List Collaborator) (settings : Option Settings)
  | reset

namespace Call

/-- Makes a call, which hands out the cache of the process or none. -/
def act : Call → Action (Option NumberedCache)
  | .get settings => some <$> sharedCache settings
  | .create protocol given settings =>
    Strategy.sharedCache? <$> createStrategy protocol given settings
  | .reset => (fun _ => none) <$> resetCache

/-- A call needs the cache of the process, unless it makes a strategy that has another or none. -/
def Needs : Call → Prop
  | .get _ => True
  | .create protocol given _ =>
    protocolKind? protocol = some .oauth ∧ provides given "cache" = false
  | .reset => False

/-- Whether the collaborators of a call are the right ones. -/
def IsAccepted : Call → Prop
  | .create _ given _ => accepts .oauth given = true
  | _ => True

def supplied : Call → Option Settings
  | .get settings => settings
  | .create _ _ settings => settings
  | .reset => none

/-- The settings of a call that the making of a cache sees. -/
def reaching : Call → Option Settings
  | .get settings => settings
  | _ => none

end Call

/-! ## Caches by settings -/

def settingsFor (environment : Environment) : Option Settings → Except Failure Settings
  | some settings => .ok settings
  | none => (Settings.resolve environment []).orFail

/-- The cache of some settings: its backend, its address and the prefix of its keys. -/
def cacheOf (settings : Settings) : Except Failure SharedCache :=
  match settings.cacheBackend with
  | .memory => .ok .memory
  | .redis => ((RedisAddress.parse settings.redisUrl).mapError .fault).map fun address =>
    .redis address settings.cacheKeyPrefix

/-- The cache of given settings, or else of those of an environment. -/
def cacheFor (environment : Environment) (settings : Option Settings) :
    Except Failure SharedCache :=
  (settingsFor environment settings).bind cacheOf

/-- The settings of the environment can be told if a cache has been made by them. -/
theorem exists_settingsFor {environment : Environment} {cache : SharedCache}
    (h : cacheFor environment none = .ok cache) (settings : Option Settings) :
    ∃ found, settingsFor environment settings = .ok found := by
  cases settings with
  | some settings => exact ⟨settings, rfl⟩
  | none =>
    unfold cacheFor at h
    cases hfound : settingsFor environment none with
    | ok found => exact ⟨found, rfl⟩
    | error failure =>
      rw [hfound] at h
      cases h

/-! ## Actions that only log -/

section runs

variable {α β : Type}

theorem runIn_bind (action : Action α) (next : α → Action β) (s : State) :
    runIn (action >>= next) s =
      match runIn action s with
      | (.ok a, after) => runIn (next a) after
      | (.error failure, after) => (.error failure, after) := by
  rcases hrun : runIn action s with ⟨failure | a, after⟩
  · exact run_bind_error hrun
  · exact run_bind_ok hrun

theorem runIn_map (f : α → β) (action : Action α) (s : State) :
    runIn (f <$> action) s = ((runIn action s).1.map f, (runIn action s).2) := by
  rw [map_eq_pure_bind, runIn_bind]
  rcases runIn action s with ⟨_ | _, after⟩ <;> rfl

/-- An action comes to a result by the environment alone, and changes nothing but the log. -/
def OnlyLogs (action : Action α) (environment : Environment) (result : Except Failure α) : Prop :=
  ∀ s : State, s.environment = environment →
    ∃ records, runIn action s = (result, { s with records := records })

namespace OnlyLogs

variable {action : Action α} {next : α → Action β} {environment : Environment}
  {result : Except Failure α}

theorem of_runIn (h : ∀ s : State, s.environment = environment → runIn action s = (result, s)) :
    OnlyLogs action environment result := fun s hs => ⟨s.records, h s hs⟩

theorem bind {f : α → Except Failure β} (h : OnlyLogs action environment result)
    (hnext : ∀ a, result = .ok a → OnlyLogs (next a) environment (f a)) :
    OnlyLogs (action >>= next) environment (result.bind f) := by
  intro s hs
  obtain ⟨records, hrun⟩ := h s hs
  cases result with
  | error failure => exact ⟨records, by rw [runIn_bind, hrun]; rfl⟩
  | ok a =>
    obtain ⟨more, hrest⟩ := hnext a rfl { s with records := records } hs
    exact ⟨more, by rw [runIn_bind, hrun]; exact hrest⟩

theorem map (f : α → β) (h : OnlyLogs action environment result) :
    OnlyLogs (f <$> action) environment (result.map f) := by
  intro s hs
  obtain ⟨records, hrun⟩ := h s hs
  exact ⟨records, by rw [runIn_map, hrun]⟩

theorem log_bind {record : LogRecord} (h : OnlyLogs action environment result) :
    OnlyLogs (log record >>= fun _ => action) environment result := by
  intro s hs
  obtain ⟨records, hrun⟩ := h { s with records := s.records ++ [record] } hs
  exact ⟨records, hrun⟩

end OnlyLogs

variable (environment : Environment)

theorem onlyLogs_settingsOr (settings : Option Settings) :
    OnlyLogs (settingsOr settings) environment (settingsFor environment settings) := by
  cases settings with
  | some settings => exact .of_runIn fun s _ => rfl
  | none =>
    apply OnlyLogs.of_runIn
    rintro s rfl
    simp only [settingsOr, environmentSettings, settingsFor]
    rw [runIn_bind]
    change runIn (ofExcept (Settings.resolve s.environment []).orFail) s = _
    cases (Settings.resolve s.environment []).orFail <;> rfl

theorem onlyLogs_makeCache (settings : Settings) :
    OnlyLogs (makeCache settings) environment (cacheOf settings) := by
  unfold makeCache cacheOf
  apply OnlyLogs.log_bind
  cases settings.cacheBackend with
  | memory => exact .of_runIn fun s _ => rfl
  | redis =>
    cases (RedisAddress.parse settings.redisUrl).mapError Failure.fault with
    | error failure => exact .of_runIn fun s _ => rfl
    | ok address => exact .log_bind (.of_runIn fun s _ => rfl)

theorem onlyLogs_forM_log (records : List LogRecord) :
    OnlyLogs (records.forM log) environment (.ok ()) := by
  induction records with
  | nil => exact .of_runIn fun s _ => rfl
  | cons record rest ih => exact .log_bind ih

theorem onlyLogs_makeClient (given : Bool) (settings : Settings) :
    OnlyLogs (makeClient given settings) environment (.ok ()) := by
  cases given with
  | true => exact .of_runIn fun s _ => rfl
  | false => exact onlyLogs_forM_log environment _

def checked (kind : StrategyKind) (given : List Collaborator) : Except Failure Unit :=
  if accepts kind given then .ok () else .error (.fault .wrongType)

theorem onlyLogs_checkCollaborators (kind : StrategyKind) (given : List Collaborator) :
    OnlyLogs (checkCollaborators kind given) environment (checked kind given) := by
  unfold checkCollaborators checked
  cases accepts kind given with
  | true => exact .of_runIn fun s _ => rfl
  | false => exact .of_runIn fun s _ => rfl

/-! ## Making a strategy -/

/-- Goes on to make the strategy for OAuth once its cache is chosen. -/
def finishOAuth (given : List Collaborator) (settings : Option Settings) (cache : CacheChoice) :
    Action Strategy := do
  checkCollaborators .oauth given
  let settings ← settingsOr settings
  makeClient (provides given "http_client") settings
  return .oauth cache (!provides given "http_client")

/-- What making the strategy comes to once its cache is chosen. -/
def finished (given : List Collaborator) (settings : Option Settings) (cache : CacheChoice) :
    Except Failure Strategy :=
  (checked .oauth given).bind fun _ => (settingsFor environment settings).bind fun _ =>
    .ok (.oauth cache (!provides given "http_client"))

theorem onlyLogs_finishOAuth (given : List Collaborator) (settings : Option Settings)
    (cache : CacheChoice) :
    OnlyLogs (finishOAuth given settings cache) environment
      (finished environment given settings cache) := by
  apply (onlyLogs_checkCollaborators environment .oauth given).bind
  intro _ _
  apply (onlyLogs_settingsOr environment settings).bind
  intro found _
  have hclient := onlyLogs_makeClient environment (provides given "http_client") found
  exact hclient.bind (f := fun _ => .ok (Strategy.oauth cache (!provides given "http_client")))
    fun _ _ => .of_runIn fun s _ => rfl

/-- A strategy for OAuth chooses its cache first. -/
theorem createOAuth_eq (given : List Collaborator) (settings : Option Settings) :
    createOAuth given settings =
      (if provides given "cache" then pure .given else .shared <$> sharedCache none) >>=
        finishOAuth given settings := by
  unfold createOAuth finishOAuth
  cases provides given "cache" <;> rfl

def initialized (kind : StrategyKind) : LogRecord :=
  .of .info .factory ["Auth strategy initialized: ", kind.name]

def finishCall (given : List Collaborator) (settings : Option Settings) (cache : CacheChoice) :
    Action (Option NumberedCache) :=
  Strategy.sharedCache? <$> (finishOAuth given settings cache >>= fun strategy =>
    log (initialized .oauth) >>= fun _ => pure strategy)

/-- What the call hands out in the end. -/
def CacheChoice.shared? : CacheChoice → Option NumberedCache
  | .shared c => some c
  | .given => none

theorem onlyLogs_finishCall (given : List Collaborator) (settings : Option Settings)
    (cache : CacheChoice) :
    OnlyLogs (finishCall given settings cache) environment
      ((checked .oauth given).bind fun _ => (settingsFor environment settings).map fun _ =>
        cache.shared?) := by
  have hlogged (strategy : Strategy) :
      OnlyLogs (log (initialized .oauth) >>= fun _ => pure strategy) environment (.ok strategy) :=
    .log_bind (.of_runIn fun s _ => rfl)
  have hfinished := ((onlyLogs_finishOAuth environment given settings cache).bind
    (f := .ok) fun strategy _ => hlogged strategy).map Strategy.sharedCache?
  have hresult : ((finished environment given settings cache).bind .ok).map
      Strategy.sharedCache? = (checked .oauth given).bind fun _ =>
        (settingsFor environment settings).map fun _ => cache.shared? := by
    unfold finished
    cases checked .oauth given with
    | error failure => rfl
    | ok _ =>
      cases settingsFor environment settings with
      | error failure => rfl
      | ok found => cases cache <;> rfl
  rwa [hresult] at hfinished

/-- A call that makes the strategy for OAuth chooses the cache and goes on. -/
theorem act_create {protocol : Text} (given : List Collaborator) (settings : Option Settings)
    (hprotocol : protocolKind? protocol = some .oauth) :
    (Call.create protocol given settings).act =
      (if provides given "cache" then pure .given else .shared <$> sharedCache none) >>=
        finishCall given settings := by
  have hcreate : createStrategy protocol given settings =
      createOAuth given settings >>= fun strategy =>
        log (initialized .oauth) >>= fun _ => pure strategy := by
    unfold createStrategy
    rw [hprotocol]
    rfl
  rw [Call.act, hcreate, createOAuth_eq, bind_assoc, map_bind]
  rfl

end runs

/-! ## Making a cache -/

/-- Reading the state hands it to what follows. -/
theorem runIn_get_bind {α : Type} (next : State → Action α) (s : State) :
    runIn (get >>= next) s = runIn (next s) s := rfl

theorem runIn_sharedCache_some {s : State} {c : NumberedCache} (h : s.current = some c)
    (settings : Option Settings) : runIn (sharedCache settings) s = (.ok c, s) := by
  rw [sharedCache, runIn_get_bind, h]
  rfl

/-- Numbers a cache that has been made, and puts it to use. -/
def putToUse (cache : SharedCache) : Action NumberedCache := do
  let s ← get
  let c : NumberedCache := ⟨s.made, cache⟩
  set { s with current := some c, made := s.made + 1 }
  return c

/-- If there is no cache, one is made and put to use. -/
theorem runIn_sharedCache_none {s : State} (h : s.current = none) (settings : Option Settings) :
    runIn (sharedCache settings) s = runIn ((settingsOr settings >>= makeCache) >>= putToUse) s := by
  rw [sharedCache, runIn_get_bind, h, bind_assoc]
  rfl

theorem onlyLogs_settings_makeCache (environment : Environment) (settings : Option Settings) :
    OnlyLogs (settingsOr settings >>= makeCache) environment (cacheFor environment settings) :=
  (onlyLogs_settingsOr environment settings).bind fun found _ =>
    onlyLogs_makeCache environment found

/-- A cache that is made is the one in use from then on. -/
theorem runIn_sharedCache_of_made {s : State} {settings : Option Settings} {cache : SharedCache}
    (h : s.current = none) (hmade : cacheFor s.environment settings = .ok cache) :
    ∃ records, runIn (sharedCache settings) s =
      (.ok ⟨s.made, cache⟩, ⟨s.environment, some ⟨s.made, cache⟩, s.made + 1, records⟩) := by
  obtain ⟨records, hrun⟩ := onlyLogs_settings_makeCache s.environment settings s rfl
  refine ⟨records, ?_⟩
  rw [runIn_sharedCache_none h, runIn_bind, hrun, hmade]
  rfl

/-- If a cache cannot be made, there is still none. -/
theorem runIn_sharedCache_of_unmade {s : State} {settings : Option Settings} {failure : Failure}
    (h : s.current = none) (hunmade : cacheFor s.environment settings = .error failure) :
    ∃ records, runIn (sharedCache settings) s = (.error failure, { s with records := records }) := by
  obtain ⟨records, hrun⟩ := onlyLogs_settings_makeCache s.environment settings s rfl
  refine ⟨records, ?_⟩
  rw [runIn_sharedCache_none h, runIn_bind, hrun, hunmade]

/-! ## What a call comes to -/

/-- What a call hands out when it is served with a cache. -/
def Call.answer (environment : Environment) (c : NumberedCache) :
    Call → Except Failure (Option NumberedCache)
  | .create _ given settings => (checked .oauth given).bind fun _ =>
    (settingsFor environment settings).map fun _ => some c
  | _ => .ok (some c)

/-- What a call comes to: its result, and the cache that is in use after it. -/
inductive Outcome (call : Call) (s : State) :
    Except Failure (Option NumberedCache) → Option NumberedCache → Prop
  | reset (resets : call = .reset) : Outcome call s (.ok none) none
  | idle {result : Except Failure (Option NumberedCache)} (unneeded : ¬ call.Needs)
    (keeps : call ≠ .reset) (hands_none : ∀ c, result ≠ .ok (some c)) :
    Outcome call s result s.current
  | kept {c : NumberedCache} (needs : call.Needs) (used : s.current = some c) :
    Outcome call s (call.answer s.environment c) (some c)
  | failed {failure : Failure} (needs : call.Needs) (unused : s.current = none)
    (unmade : cacheFor s.environment call.reaching = .error failure) :
    Outcome call s (.error failure) none
  | made {cache : SharedCache} (needs : call.Needs) (unused : s.current = none)
    (made : cacheFor s.environment call.reaching = .ok cache) :
    Outcome call s (call.answer s.environment ⟨s.made, cache⟩) (some ⟨s.made, cache⟩)

/-- What a call does in a state. -/
def Does (call : Call) (s : State) : Prop :=
  Outcome call s (runIn call.act s).1 (runIn call.act s).2.current ∧
    (runIn call.act s).2.environment = s.environment

theorem does_of_runIn {call : Call} {s : State} {result : Except Failure (Option NumberedCache)}
    {current : Option NumberedCache} {made : Nat} {records : List LogRecord}
    (hrun : runIn call.act s = (result, ⟨s.environment, current, made, records⟩))
    (h : Outcome call s result current) : Does call s := by
  unfold Does
  rw [hrun]
  exact ⟨h, rfl⟩

/-- A call that only logs hands out no cache and leaves the one in use. -/
theorem does_of_onlyLogs {call : Call} {s : State}
    {result : Except Failure (Option NumberedCache)} (hneeds : ¬ call.Needs)
    (hreset : call ≠ .reset) (hnone : ∀ c, result ≠ .ok (some c))
    (h : OnlyLogs call.act s.environment result) : Does call s := by
  obtain ⟨records, hrun⟩ := h s rfl
  exact does_of_runIn hrun (.idle hneeds hreset hnone)

theorem does_get (settings : Option Settings) (s : State) : Does (.get settings) s := by
  cases hcurrent : s.current with
  | some c =>
    have hrun : runIn (Call.get settings).act s = (.ok (some c), s) := by
      rw [Call.act, runIn_map, runIn_sharedCache_some hcurrent]
      rfl
    have hkept : Outcome (.get settings) s (.ok (some c)) s.current := by
      rw [hcurrent]
      exact .kept trivial hcurrent
    exact does_of_runIn hrun hkept
  | none =>
    have hrun := runIn_map some (sharedCache settings) s
    cases hcache : cacheFor s.environment settings with
    | error failure =>
      obtain ⟨records, hshared⟩ := runIn_sharedCache_of_unmade hcurrent hcache
      rw [hshared] at hrun
      have hfailed : Outcome (.get settings) s (.error failure) s.current := by
        rw [hcurrent]
        exact .failed trivial hcurrent hcache
      exact does_of_runIn hrun hfailed
    | ok cache =>
      obtain ⟨records, hshared⟩ := runIn_sharedCache_of_made hcurrent hcache
      rw [hshared] at hrun
      exact does_of_runIn hrun (.made trivial hcurrent hcache)

section create

variable {protocol : Text} {given : List Collaborator} {settings : Option Settings} {s : State}

/-- A strategy that needs the cache is made with the one in use, or else with one that the
environment has made for it. -/
theorem does_create_needing (hneeds : (Call.create protocol given settings).Needs) :
    Does (.create protocol given settings) s := by
  obtain ⟨hprotocol, hgiven⟩ := hneeds
  have hact : (Call.create protocol given settings).act =
      (.shared <$> sharedCache none) >>= finishCall given settings := by
    rw [act_create given settings hprotocol, hgiven]
    rfl
  have hbind := runIn_bind (.shared <$> sharedCache none) (finishCall given settings) s
  rw [← hact, runIn_map] at hbind
  cases hcurrent : s.current with
  | some c =>
    rw [runIn_sharedCache_some hcurrent] at hbind
    obtain ⟨records, hrun⟩ := onlyLogs_finishCall s.environment given settings (.shared c) s rfl
    have hkept : Outcome (.create protocol given settings) s
        ((Call.create protocol given settings).answer s.environment c) s.current := by
      rw [hcurrent]
      exact .kept ⟨hprotocol, hgiven⟩ hcurrent
    exact does_of_runIn (hbind.trans hrun) hkept
  | none =>
    cases hcache : cacheFor s.environment none with
    | error failure =>
      obtain ⟨records, hshared⟩ := runIn_sharedCache_of_unmade hcurrent hcache
      rw [hshared] at hbind
      have hfailed : Outcome (.create protocol given settings) s (.error failure) s.current := by
        rw [hcurrent]
        exact .failed ⟨hprotocol, hgiven⟩ hcurrent hcache
      exact does_of_runIn hbind hfailed
    | ok cache =>
      obtain ⟨records, hshared⟩ := runIn_sharedCache_of_made hcurrent hcache
      rw [hshared] at hbind
      obtain ⟨more, hrun⟩ := onlyLogs_finishCall s.environment given settings
        (.shared ⟨s.made, cache⟩) ⟨s.environment, some ⟨s.made, cache⟩, s.made + 1, records⟩ rfl
      exact does_of_runIn (hbind.trans hrun) (.made ⟨hprotocol, hgiven⟩ hcurrent hcache)

/-- A strategy that has another cache, or needs none, leaves the one in use. -/
theorem does_create_other (hneeds : ¬ (Call.create protocol given settings).Needs) :
    Does (.create protocol given settings) s := by
  have hlogged (kind : StrategyKind) (strategy : Strategy)
      (hstrategy : strategy.sharedCache? = none) :
      OnlyLogs (Strategy.sharedCache? <$> (checkCollaborators kind given >>= fun _ =>
        log (initialized kind) >>= fun _ => pure strategy)) s.environment
        ((checked kind given).map fun _ => none) := by
    have hpure : OnlyLogs (log (initialized kind) >>= fun _ => pure strategy) s.environment
        (.ok strategy) := .log_bind (.of_runIn fun s _ => rfl)
    have hmap := ((onlyLogs_checkCollaborators s.environment kind given).bind
      (f := fun _ => .ok strategy) fun _ _ => hpure).map Strategy.sharedCache?
    cases hchecked : checked kind given with
    | error failure =>
      rw [hchecked] at hmap
      exact hmap
    | ok _ =>
      rw [hchecked] at hmap
      simp only [Except.bind, Except.map, hstrategy] at hmap
      exact hmap
  have hnone (kind : StrategyKind) (c : NumberedCache) :
      ((checked kind given).map fun _ => (none : Option NumberedCache)) ≠ .ok (some c) := by
    cases checked kind given <;> simp [Except.map]
  cases hprotocol : protocolKind? protocol with
  | none =>
    have hcreate : createStrategy protocol given settings =
        throw (.fault (.unknownProtocol protocol)) := by
      unfold createStrategy
      rw [hprotocol]
    have hthrow : OnlyLogs (Call.create protocol given settings).act s.environment
        (.error (.fault (.unknownProtocol protocol))) := by
      rw [Call.act, hcreate]
      exact .of_runIn fun s _ => rfl
    exact does_of_onlyLogs hneeds nofun (by simp) hthrow
  | some kind =>
    cases kind with
    | oauth =>
      have hgiven : provides given "cache" = true := by
        cases hprovided : provides given "cache" with
        | true => rfl
        | false => exact (hneeds ⟨hprotocol, hprovided⟩).elim
      have hact : (Call.create protocol given settings).act =
          pure .given >>= finishCall given settings := by
        rw [act_create given settings hprotocol, hgiven]
        rfl
      have hfinish := onlyLogs_finishCall s.environment given settings .given
      rw [← pure_bind .given (finishCall given settings), ← hact] at hfinish
      refine does_of_onlyLogs hneeds nofun ?_ hfinish
      intro c
      cases checked .oauth given with
      | error failure => simp [Except.bind]
      | ok _ =>
        cases settingsFor s.environment settings <;>
          simp [Except.bind, Except.map, CacheChoice.shared?]
    | directory =>
      refine does_of_onlyLogs hneeds nofun (hnone .directory) ?_
      have hcreate : createStrategy protocol given settings =
          checkCollaborators .directory given >>= fun _ =>
            log (initialized .directory) >>= fun _ => pure .directory := by
        unfold createStrategy
        rw [hprotocol]
        rfl
      rw [Call.act, hcreate]
      exact hlogged .directory .directory rfl
    | «local» =>
      refine does_of_onlyLogs hneeds nofun (hnone .local) ?_
      have hcreate : createStrategy protocol given settings =
          checkCollaborators .local given >>= fun _ =>
            log (initialized .local) >>= fun _ => pure .local := by
        unfold createStrategy
        rw [hprotocol]
        rfl
      rw [Call.act, hcreate]
      exact hlogged .local .local rfl

end create

/-- Every call comes to one of the outcomes. -/
theorem does_call (call : Call) (s : State) : Does call s := by
  cases call with
  | get settings => exact does_get settings s
  | reset => exact ⟨.reset rfl, rfl⟩
  | create protocol given settings =>
    by_cases hneeds : (Call.create protocol given settings).Needs
    · exact does_create_needing hneeds
    · exact does_create_other hneeds

/-! ## Histories -/

def Call.after (s : State) (call : Call) : State := (runIn call.act s).2

def stateAfter (environment : Environment) (calls : List Call) : State :=
  calls.foldl Call.after (State.start environment)

/-- What a call hands out after some others. -/
def handed (environment : Environment) (before : List Call) (call : Call) :
    Except Failure (Option NumberedCache) :=
  (runIn call.act (stateAfter environment before)).1

section histories

variable {environment : Environment} {s : State} {call : Call} {c d : NumberedCache}
  {result : Except Failure (Option NumberedCache)} {current : Option NumberedCache}

theorem stateAfter_append (environment : Environment) (first second : List Call) :
    stateAfter environment (first ++ second) =
      second.foldl Call.after (stateAfter environment first) :=
  List.foldl_append

/-- No call changes the environment. -/
theorem environment_stateAfter (environment : Environment) (calls : List Call) :
    (stateAfter environment calls).environment = environment := by
  have hfold (s : State) : (calls.foldl Call.after s).environment = s.environment := by
    induction calls generalizing s with
    | nil => rfl
    | cons call rest ih => exact (ih (call.after s)).trans (does_call call s).2
  exact hfold (State.start environment)

theorem eq_of_answer (h : call.answer environment c = .ok (some d)) : d = c := by
  cases call with
  | create protocol given settings =>
    unfold Call.answer at h
    cases hchecked : checked .oauth given with
    | error failure => simp [hchecked, Except.bind] at h
    | ok _ =>
      cases hfound : settingsFor environment settings with
      | error failure => simp [hchecked, hfound, Except.bind, Except.map] at h
      | ok found => simpa [hchecked, hfound, Except.bind, Except.map, eq_comm] using h
  | _ => exact (Option.some.inj (Except.ok.inj h)).symm

/-- The cache that a call hands out is in use after it. -/
theorem used_of_handed (h : Outcome call s result current) (hhanded : result = .ok (some c)) :
    current = some c := by
  cases h with
  | reset hresets => cases hhanded
  | idle hunneeded hkeeps hnone => exact (hnone c hhanded).elim
  | kept hneeds hused => rw [eq_of_answer hhanded]
  | failed hneeds hunused hunmade => cases hhanded
  | made hneeds hunused hmade => rw [eq_of_answer hhanded]

/-- A cache that is in use is the one that a call hands out. -/
theorem handed_of_used (h : Outcome call s result current) (hused : s.current = some c)
    (hhanded : result = .ok (some d)) : d = c := by
  cases h with
  | reset hresets => cases hhanded
  | idle hunneeded hkeeps hnone => exact (hnone d hhanded).elim
  | @kept e hneeds hother =>
    obtain rfl := Option.some.inj (hother.symm.trans hused)
    exact eq_of_answer hhanded
  | failed hneeds hunused hunmade => cases hhanded
  | made hneeds hunused hmade =>
    rw [hused] at hunused
    cases hunused

/-- A cache stays in use until a reset. -/
theorem used_of_used (h : Outcome call s result current) (hused : s.current = some c)
    (hkeeps : call ≠ .reset) : current = some c := by
  cases h with
  | reset hresets => exact absurd hresets hkeeps
  | idle hunneeded _ hnone => exact hused
  | kept hneeds hother => exact hother.symm.trans hused
  | failed hneeds hunused hunmade =>
    rw [hused] at hunused
    cases hunused
  | made hneeds hunused hmade =>
    rw [hused] at hunused
    cases hunused

theorem used_foldl {calls : List Call} (h : ∀ call ∈ calls, call ≠ .reset)
    (hused : s.current = some c) : (calls.foldl Call.after s).current = some c := by
  induction calls generalizing s with
  | nil => exact hused
  | cons call rest ih =>
    obtain ⟨hkeeps, hrest⟩ := List.forall_mem_cons.1 h
    have hafter : (call.after s).current = some c :=
      used_of_used (does_call call s).1 hused hkeeps
    exact ih hrest hafter

end histories

/-! ## The laws -/

/-- A cache without its number, if there is one. -/
def unnumbered : Except Failure (Option NumberedCache) → Except Failure (Option SharedCache) :=
  Except.map (Option.map NumberedCache.cache)

/-- The process has one cache, made by whoever needs it first. -/
structure OneCache (environment : Environment) (calls : List Call) : Prop where
  /-- The caches that are handed out without a reset between them are one. -/
  same : ∀ before first between second rest c d,
    calls = before ++ first :: (between ++ second :: rest) →
    (∀ call ∈ between, call ≠ .reset) →
    handed environment before first = .ok (some c) →
    handed environment (before ++ first :: between) second = .ok (some d) → c = d
  /-- A call that needs a cache when there is none is handed the one of the settings that are
  supplied with it, or else of the environment, and it fails if this one cannot be made. -/
  configured : ∀ before call rest, calls = before ++ call :: rest →
    (stateAfter environment before).current = none → call.Needs → call.IsAccepted →
    unnumbered (handed environment before call) =
      (cacheFor environment call.supplied).map some
  /-- A call that fails when there is no cache leaves none. -/
  clean : ∀ before call rest failure, calls = before ++ call :: rest →
    (stateAfter environment before).current = none →
    handed environment before call = .error failure →
    (stateAfter environment (before ++ [call])).current = none

/-- A strategy is made by a call whose settings would make another cache than the environment, or
whose collaborators are refused although the environment can make a cache. -/
def Call.Overlooks (environment : Environment) : Call → Prop
  | .create protocol given settings => (Call.create protocol given settings).Needs ∧
    ((accepts .oauth given = true ∧ cacheFor environment settings ≠ cacheFor environment none) ∨
      (accepts .oauth given = false ∧ ∃ cache, cacheFor environment none = .ok cache))
  | _ => False

section laws

variable {environment : Environment} {s : State} {call : Call}
  {result : Except Failure (Option NumberedCache)} {current : Option NumberedCache}

theorem exists_settingsFor_supplied {cache : SharedCache}
    (hmade : cacheFor environment call.reaching = .ok cache) :
    ∃ found, settingsFor environment call.supplied = .ok found := by
  cases call with
  | create protocol given settings => exact exists_settingsFor hmade settings
  | reset => exact exists_settingsFor hmade none
  | get settings =>
    cases settings with
    | some settings => exact ⟨settings, rfl⟩
    | none => exact exists_settingsFor hmade none

/-- What an accepted call hands out once a cache has been made for it. -/
theorem answer_of_accepted {cache : SharedCache} (haccepted : call.IsAccepted)
    (hmade : cacheFor environment call.reaching = .ok cache) (c : NumberedCache) :
    call.answer environment c = .ok (some c) := by
  obtain ⟨found, hfound⟩ := exists_settingsFor_supplied hmade
  cases call with
  | create protocol given settings =>
    have haccepts : accepts .oauth given = true := haccepted
    have hsettings : settingsFor environment settings = .ok found := hfound
    rw [Call.answer, checked, if_pos haccepts, hsettings]
    rfl
  | _ => rfl

/-- A call that needs a cache when there is none fails to make one, or makes it and is served. -/
theorem failed_or_made (h : Outcome call s result current) (hunused : s.current = none)
    (hneeds : call.Needs) :
    (∃ failure, cacheFor s.environment call.reaching = .error failure ∧
      result = .error failure ∧ current = none) ∨
    ∃ cache, cacheFor s.environment call.reaching = .ok cache ∧
      result = call.answer s.environment ⟨s.made, cache⟩ ∧ current = some ⟨s.made, cache⟩ := by
  cases h with
  | reset hresets =>
    subst hresets
    exact hneeds.elim
  | idle hunneeded _ _ => exact (hunneeded hneeds).elim
  | kept _ hused =>
    rw [hunused] at hused
    cases hused
  | failed _ _ hunmade => exact .inl ⟨_, hunmade, rfl, rfl⟩
  | made _ _ hmade => exact .inr ⟨_, hmade, rfl, rfl⟩

/-- An accepted call that needs a cache when there is none comes to the cache of the settings that
reach its making. -/
theorem unnumbered_of_accepted (h : Outcome call s result current) (hunused : s.current = none)
    (hneeds : call.Needs) (haccepted : call.IsAccepted) :
    unnumbered result = (cacheFor s.environment call.reaching).map some := by
  rcases failed_or_made h hunused hneeds with
    ⟨failure, hunmade, rfl, -⟩ | ⟨cache, hmade, rfl, -⟩
  · rw [hunmade]
    rfl
  · rw [answer_of_accepted haccepted hmade, hmade]
    rfl

/-- The settings that reach the making of a cache lead to the same as those supplied, unless the call
overlooks the latter. -/
theorem cacheFor_reaching (hneeds : call.Needs) (haccepted : call.IsAccepted)
    (hkeeps : ¬ call.Overlooks environment) :
    cacheFor environment call.reaching = cacheFor environment call.supplied := by
  cases call with
  | create protocol given settings =>
    by_contra hne
    exact hkeeps ⟨hneeds, .inl ⟨haccepted, Ne.symm hne⟩⟩
  | _ => rfl

/-- A call that fails when there is no cache leaves none, unless it overlooks that it is refused. -/
theorem clean_of_not_overlooks (h : Outcome call s result current) (hunused : s.current = none)
    {failure : Failure} (hfailed : result = .error failure)
    (hkeeps : ¬ call.Overlooks s.environment) : current = none := by
  by_cases hneeds : call.Needs
  · rcases failed_or_made h hunused hneeds with
      ⟨_, -, -, hcurrent⟩ | ⟨cache, hmade, hanswer, -⟩
    · exact hcurrent
    · have hrefused : ¬ call.IsAccepted := by
        intro haccepted
        rw [hfailed, answer_of_accepted haccepted hmade] at hanswer
        cases hanswer
      cases call with
      | create protocol given settings =>
        have hrejected : accepts .oauth given = false := by simpa [Call.IsAccepted] using hrefused
        exact (hkeeps ⟨hneeds, .inr ⟨hrejected, cache, hmade⟩⟩).elim
      | _ => exact (hrefused trivial).elim
  · cases h with
    | reset _ => rfl
    | idle _ _ _ => exact hunused
    | kept hother _ => exact (hneeds hother).elim
    | failed hother _ _ => rfl
    | made hother _ _ => exact (hneeds hother).elim

theorem eq_of_map_some {α : Type} {first second : Except Failure α}
    (h : first.map some = second.map some) : first = second := by
  cases first with
  | error failure =>
    cases second with
    | error other => exact congrArg Except.error (Except.error.inj h)
    | ok b => cases h
  | ok a =>
    cases second with
    | error failure => cases h
    | ok b => exact congrArg Except.ok (Option.some.inj (Except.ok.inj h))

/-- A call that overlooks its settings is handed another cache than theirs, and one that overlooks
that it is refused leaves a cache behind. -/
theorem not_laws_of_overlooks (h : Outcome call s result current) (hunused : s.current = none)
    (hoverlooks : call.Overlooks s.environment)
    (hconfigured : call.Needs → call.IsAccepted →
      unnumbered result = (cacheFor s.environment call.supplied).map some)
    (hclean : ∀ failure, result = .error failure → current = none) : False := by
  cases call with
  | get settings => exact hoverlooks
  | reset => exact hoverlooks
  | create protocol given settings =>
    obtain ⟨hneeds, ⟨haccepts, hne⟩ | ⟨hrejected, cache, hmade⟩⟩ := hoverlooks
    · have hreaching := unnumbered_of_accepted h hunused hneeds haccepts
      have hsupplied := hconfigured hneeds haccepts
      have hsame : (cacheFor s.environment settings).map some =
          (cacheFor s.environment none).map some := hsupplied.symm.trans hreaching
      exact hne (eq_of_map_some hsame)
    · rcases failed_or_made h hunused hneeds with
        ⟨failure, hunmade, -, -⟩ | ⟨other, -, hanswer, hcurrent⟩
      · have hmaking : cacheFor s.environment none = .error failure := hunmade
        rw [hmade] at hmaking
        cases hmaking
      · have hrefused : result = .error (.fault .wrongType) := by
          rw [hanswer, Call.answer, checked, hrejected]
          rfl
        rw [hclean _ hrefused] at hcurrent
        cases hcurrent

end laws

/-- All caches that are handed out between two resets are one, always. The one that is made is the
one of the settings supplied, and a call that fails leaves none behind, unless some call makes a
strategy when there is no cache and overlooks its own settings or its own refusal. -/
theorem one_cache_iff (environment : Environment) (calls : List Call) :
    OneCache environment calls ↔ ∀ before call rest, calls = before ++ call :: rest →
      (stateAfter environment before).current = none → ¬ call.Overlooks environment := by
  have houtcome (before : List Call) (call : Call) :
      Outcome call (stateAfter environment before) (handed environment before call)
        (stateAfter environment (before ++ [call])).current := by
    rw [stateAfter_append]
    exact (does_call call (stateAfter environment before)).1
  have henvironment (before : List Call) : (stateAfter environment before).environment =
      environment := environment_stateAfter environment before
  constructor
  · intro h before call rest hcalls hunused hoverlooks
    have hconfigured (hneeds : call.Needs) (haccepted : call.IsAccepted) :
        unnumbered (handed environment before call) =
          (cacheFor (stateAfter environment before).environment call.supplied).map some := by
      rw [henvironment before]
      exact h.configured before call rest hcalls hunused hneeds haccepted
    have hclean (failure : Failure) := h.clean before call rest failure hcalls hunused
    rw [← henvironment before] at hoverlooks
    exact not_laws_of_overlooks (houtcome before call) hunused hoverlooks hconfigured hclean
  · intro hkeeps
    constructor
    · intro before first between second rest c d _ hbetween hfirst hsecond
      have hused : (stateAfter environment (before ++ [first])).current = some c :=
        used_of_handed (houtcome before first) hfirst
      have hstill : (stateAfter environment (before ++ first :: between)).current = some c := by
        rw [List.append_cons, stateAfter_append]
        exact used_foldl hbetween hused
      exact (handed_of_used (houtcome (before ++ first :: between) second) hstill hsecond).symm
    · intro before call rest hcalls hunused hneeds haccepted
      rw [unnumbered_of_accepted (houtcome before call) hunused hneeds haccepted,
        henvironment before]
      exact congrArg _ (cacheFor_reaching hneeds haccepted (hkeeps before call rest hcalls hunused))
    · intro before call rest failure hcalls hunused hfailed
      have hkept := hkeeps before call rest hcalls hunused
      rw [← henvironment before] at hkept
      exact clean_of_not_overlooks (houtcome before call) hunused hfailed hkept

/-- Where the environment names no backend that there is, a strategy with settings of its own is not
handed the cache of these settings. -/
theorem ownSettings_not_oneCache :
    ¬ OneCache [("AUTH_STRATEGY_CACHE_BACKEND", "nope")]
      [.create "oauth2" [⟨"user_mapper", false⟩, ⟨"http_client", false⟩, ⟨"settings", false⟩]
        (some ⟨⟨300, by decide⟩, 32, .memory, "redis://localhost:6379/0", "auth-strategy", true,
          "INFO", .text⟩)] := by
  intro h
  have haccepted : accepts .oauth
      [⟨"user_mapper", false⟩, ⟨"http_client", false⟩, ⟨"settings", false⟩] = true := by decide
  have hconfigured := h.configured [] _ [] rfl rfl ⟨by decide, by decide⟩ haccepted
  cases hconfigured

end Registry

end SignIn
