import SignIn.Proofs.OAuth.History
import SignIn.Proofs.Request

/-!
# Steps of a run

What one step of a run leaves behind. Nothing but the accesses in its journal changes the cache, and
nothing but a move of the clock changes the clock. In a run of the engine's own steps the sign-ins
follow each other on the cache, and nothing happens to it between them.
-/

namespace SignIn

namespace OAuth

/-! ## Refreshes -/

theorem does_requestToken (config : OAuthConfig) (draft : Record) {grant : Text}
    (hgrant : draft.get? "grant_type" = some (.text grant)) (replies : List Reply) :
    Does (requestToken config draft) replies fun es _ _ =>
      es = deedsOf (tokenCall config.tokenUrl (tokenForm config draft)) := by
  simp only [requestToken, get?_tokenForm_grant config hgrant]
  apply Does.log_bind
  apply (does_requestRecord (tokenCall config.tokenUrl (tokenForm config draft)) replies).bind
  · rintro _ _ _ ⟨rfl, -⟩
    rfl
  · rintro _ _ payload ⟨rfl, -⟩
    apply (does_tokenOfPayload payload _).weaken
    rintro _ _ _ ⟨rfl, -, -⟩
    exact List.append_nil _

/-- What a refresh comes to: something is lacking, its token is no text, or its form is posted. -/
inductive Refreshes (config : OAuthConfig) (refreshToken : Datum) :
    List Event → Except Failure AccessToken → Prop
  | lacking (problem : ConfigProblem)
    (lacks : nonEmpty? config.clientId = none ∨ nonEmpty? config.tokenUrl = none ∨
      refreshToken.isMissing = true) :
    Refreshes config refreshToken [] (.error (.auth (.invalidConfig problem)))
  | unusable {clientId tokenUrl : Text} (client : nonEmpty? config.clientId = some clientId)
    (endpoint : nonEmpty? config.tokenUrl = some tokenUrl)
    (present : refreshToken.isMissing = false) :
    Refreshes config refreshToken [] (.error (.fault .notText))
  | posted {clientId tokenUrl token : Text} (client : nonEmpty? config.clientId = some clientId)
    (endpoint : nonEmpty? config.tokenUrl = some tokenUrl) (text : refreshToken = .text token)
    (present : token.isBlank = false) (result : Except Failure AccessToken) :
    Refreshes config refreshToken
      (deedsOf (tokenCall config.tokenUrl (tokenForm config (refreshForm refreshToken)))) result

theorem does_refresh (config : OAuthConfig) (refreshToken : Datum) (replies : List Reply) :
    Does (refresh config refreshToken) replies fun es _ result =>
      Refreshes config refreshToken es result := by
  unfold refresh
  cases hclient : nonEmpty? config.clientId with
  | none => exact .of_runIn (fun w => rfl) (.lacking _ (.inl hclient))
  | some clientId =>
    cases hendpoint : nonEmpty? config.tokenUrl with
    | none => exact .of_runIn (fun w => rfl) (.lacking _ (.inr (.inl hendpoint)))
    | some tokenUrl =>
      cases htruthy : refreshToken.truthy with
      | false =>
        have hmissing := Datum.isMissing_of_not_truthy htruthy
        exact .of_runIn (fun w => rfl) (.lacking _ (.inr (.inr hmissing)))
      | true =>
        cases htext : refreshToken.text? with
        | none =>
          have hpresent := Datum.isMissing_of_text?_none htruthy htext
          simp only [Bool.not_true, Bool.false_eq_true, if_false]
          exact .of_runIn (fun w => rfl) (.unusable hclient hendpoint hpresent)
        | some token =>
          obtain rfl := Datum.eq_text_of_text? htext
          cases hblank : token.isBlank with
          | true =>
            have hlacking : Refreshes config (.text token) []
                (.error (.auth (.invalidConfig .missingRefreshToken))) :=
              .lacking .missingRefreshToken (.inr (.inr hblank))
            exact .of_runIn (fun w => by simp [hblank]) hlacking
          | false =>
            simp only [Bool.not_true, Bool.false_eq_true, if_false, hblank]
            apply (does_requestToken config (refreshForm (.text token)) rfl replies).weaken
            rintro _ _ result rfl
            exact .posted hclient hendpoint rfl hblank result

/-- A refresh does not access the cache. -/
theorem accesses_of_refreshes {config : OAuthConfig} {refreshToken : Datum} {es : List Event}
    {result : Except Failure AccessToken} (h : Refreshes config refreshToken es result) :
    accesses es = [] := by
  cases h with
  | lacking problem hlacks => rfl
  | unusable hclient hendpoint hpresent => rfl
  | posted hclient hendpoint htext hpresent => exact accesses_deedsOf _

/-! ## What a step leaves -/

section step

variable (engine : Engine) (w : World)

theorem run_authenticate (config : AnyConfig) (request : Request) (replies : List Reply) :
    ∃ result, ((Step.authenticate config request replies).run engine w).1 =
        result.map .outcome ∧
      ((Step.authenticate config request replies).run engine w).2.clock = w.clock ∧
      Leg engine config request w.clock w.cache replies
        (deeds ((Step.authenticate config request replies).run engine w).2.journal) result
        ((Step.authenticate config request replies).run engine w).2.cache := by
  obtain ⟨result, events, rest, random, after, hrun, hleg⟩ :=
    leg_authenticate engine config request { w with journal := [], replies := replies }
  have hstep : (Step.authenticate config request replies).run engine w =
      (result.map .outcome, ⟨w.clock, random, after, rest, events⟩) := by
    have hmap := Action.runIn_map StepResult.outcome (authenticate engine config request)
      { w with journal := [], replies := replies }
    rw [hrun] at hmap
    exact hmap
  exact ⟨result, by rw [hstep], by rw [hstep], by rw [hstep]; exact hleg⟩

theorem run_refresh (config : OAuthConfig) (refreshToken : Datum) (replies : List Reply) :
    (∃ result, ((Step.refresh config refreshToken replies).run engine w).1 = result.map .token ∧
      Refreshes config refreshToken
        (deeds ((Step.refresh config refreshToken replies).run engine w).2.journal) result) ∧
      ((Step.refresh config refreshToken replies).run engine w).2.clock = w.clock ∧
      ((Step.refresh config refreshToken replies).run engine w).2.cache = w.cache := by
  obtain ⟨result, events, rest, hrefreshes, hrun⟩ := does_refresh config refreshToken replies
  have hstep : (Step.refresh config refreshToken replies).run engine w =
      (result.map .token, ⟨w.clock, w.random, w.cache, rest, events⟩) := by
    have hmap := Action.runIn_map StepResult.token (refresh config refreshToken)
      { w with journal := [], replies := replies }
    rw [hrun { w with journal := [], replies := replies } rfl] at hmap
    exact hmap
  rw [hstep]
  exact ⟨⟨result, rfl, hrefreshes⟩, rfl, rfl⟩

theorem eq_of_atKey_error {α : Type} {cache after : MemoryCache} {key : Datum}
    {act : CacheKey → α × MemoryCache} {fault : Fault}
    (h : cache.atKey key act = (.error fault, after)) : after = cache := by
  unfold MemoryCache.atKey at h
  cases hkey : CacheKey.ofDatum key with
  | error other =>
    rw [hkey] at h
    cases h
    rfl
  | ok k =>
    rw [hkey] at h
    cases h

/-- A step changes the cache by the accesses in its journal. -/
theorem cache_run (step : Step) :
    (step.run engine w).2.cache =
      (accesses (step.run engine w).2.journal).foldl (Event.effect w.clock) w.cache := by
  cases step with
  | authenticate config request replies =>
    obtain ⟨result, -, -, hleg⟩ := run_authenticate engine w config request replies
    have hcache := (cacheDiscipline_of_leg (w := { w with replies := replies }) hleg).cache_eq
    rwa [accesses_deeds] at hcache
  | refresh config refreshToken replies =>
    obtain ⟨⟨result, -, hrefreshes⟩, -, hcache⟩ := run_refresh engine w config refreshToken replies
    have haccesses := accesses_of_refreshes hrefreshes
    rw [accesses_deeds] at haccesses
    rw [haccesses, hcache]
    rfl
  | clock now => rfl
  | cacheSet key value lifetime =>
    have hworld : ((Step.cacheSet key value lifetime).run engine w).2 =
        ((Action.cacheSet key value lifetime).runIn { w with journal := [] }).2 :=
      congrArg Prod.snd (Action.runIn_map (fun _ => StepResult.done) _ _)
    rw [hworld, Action.runIn_cacheSet]
    rcases hstore : w.cache.store w.clock key value lifetime with ⟨fault | done, after⟩
    · exact (congrArg Prod.snd hstore).symm
    · exact (congrArg Prod.snd hstore).symm
  | cacheGet key =>
    have hworld : ((Step.cacheGet key).run engine w).2 =
        ((Action.cacheGet key).runIn { w with journal := [] }).2 :=
      congrArg Prod.snd (Action.runIn_map StepResult.value _ _)
    rw [hworld, Action.cacheGet, Action.runIn_onCache_noted _ (.cacheGet key)]
    rcases hread : w.cache.read w.clock key with ⟨fault | value, after⟩
    · exact eq_of_atKey_error hread
    · exact (congrArg Prod.snd hread).symm
  | cacheTake key =>
    have hworld : ((Step.cacheTake key).run engine w).2 =
        ((Action.cacheTake key).runIn { w with journal := [] }).2 :=
      congrArg Prod.snd (Action.runIn_map StepResult.value _ _)
    rw [hworld, Action.cacheTake, Action.runIn_onCache_noted _ (.cacheTake key)]
    rcases htake : w.cache.takeOut w.clock key with ⟨fault | value, after⟩
    · exact eq_of_atKey_error htake
    · exact (congrArg Prod.snd htake).symm
  | cacheDelete key => rfl

end step

/-! ## Runs of an engine alone -/

/-- Whether a step is a call of the engine or a move of the clock. -/
def Step.IsOwn : Step → Prop
  | .authenticate _ _ _ => True
  | .refresh _ _ _ => True
  | .clock _ => True
  | _ => False

/-- The sign-in that a step is. -/
def Step.record? (engine : Engine) (w : World) (step : Step) : Option CallRecord :=
  match step with
  | .authenticate config request _ =>
    some ⟨config, request, w.clock, some (step.run engine w).1, (step.run engine w).2.journal⟩
  | _ => none

def recordsOf (engine : Engine) : List Step → World → List CallRecord
  | [], _ => []
  | step :: rest, w =>
    (step.record? engine w).toList ++ recordsOf engine rest (step.run engine w).2

def worldAfter (engine : Engine) : List Step → World → World
  | [], w => w
  | step :: rest, w => worldAfter engine rest (step.run engine w).2

theorem isLeg_of_record? {engine : Engine} {w : World} {step : Step} {c : CallRecord}
    (h : step.record? engine w = some c) :
    c.IsLeg engine w.cache (step.run engine w).2.cache := by
  cases step with
  | authenticate config request replies =>
    obtain rfl := Option.some.inj h
    obtain ⟨result, hresult, -, hleg⟩ := run_authenticate engine w config request replies
    exact .ended hleg (congrArg some hresult)
  | _ => cases h

/-- A step of the engine that is no sign-in leaves the cache as it is. -/
theorem cache_of_record?_none {engine : Engine} {w : World} {step : Step} (hown : step.IsOwn)
    (h : step.record? engine w = none) : (step.run engine w).2.cache = w.cache := by
  cases step with
  | authenticate config request replies => cases h
  | refresh config refreshToken replies =>
    exact (run_refresh engine w config refreshToken replies).2.2
  | clock now => rfl
  | _ => exact hown.elim

/-- The sign-ins of a run of the engine's own steps follow each other on the cache. -/
theorem follows_of_own {engine : Engine} {steps : List Step} {w : World}
    (h : ∀ step ∈ steps, step.IsOwn) :
    Follows (CallRecord.IsLeg engine) w.cache (recordsOf engine steps w)
      (worldAfter engine steps w).cache := by
  induction steps generalizing w with
  | nil => rfl
  | cons step rest ih =>
    obtain ⟨hown, hrest⟩ := List.forall_mem_cons.1 h
    have hfollows := ih (w := (step.run engine w).2) hrest
    unfold recordsOf worldAfter
    cases hrecord : step.record? engine w with
    | none =>
      rw [cache_of_record?_none hown hrecord] at hfollows
      exact hfollows
    | some c => exact ⟨_, isLeg_of_record? hrecord, hfollows⟩

/-! ## Results -/

def redirect? : Except Failure StepResult → Option Text
  | .ok (.outcome (.redirect url)) => some url
  | _ => none

theorem eq_of_redirect? {result : Except Failure StepResult} {url : Text}
    (h : redirect? result = some url) : result = .ok (.outcome (.redirect url)) := by
  unfold redirect? at h
  split at h
  · rw [Option.some.inj h]
  · cases h

def fault? {α : Type} : Except Failure α → Option Fault
  | .error (.fault fault) => some fault
  | _ => none

theorem eq_of_fault? {α : Type} {result : Except Failure α} {fault : Fault}
    (h : fault? result = some fault) : result = .error (.fault fault) := by
  unfold fault? at h
  split at h
  · rw [Option.some.inj h]
  · cases h

/-! ## A client -/

/-- A client that signs in by an authorization code, with a state of its own. -/
def codeConfig : OAuthConfig :=
  { credentialsConfig with
    authorizationUrl := some "https://h/a"
    userInfoUrl := some "https://h/i"
    grantType := .authorizationCode
    enablePkce := true
    challengeMethod := .plain
    state := some "s1" }

/-- The request by which a provider sends the user back to the client. -/
def codeRequest : Request := ⟨[("state", "s1"), ("code", "c0de")], none⟩

def freshWorld : World := World.start 0 ⟨fun _ => 0, 0⟩

end OAuth

end SignIn
