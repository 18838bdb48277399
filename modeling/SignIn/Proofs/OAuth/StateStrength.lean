import SignIn.Proofs.OAuth.Completion
import SignIn.Proofs.OAuth.Pipeline

/-!
# How strong random states are

A login without a state of the caller gets a random one, made from as many octets as the settings
say. The settings do not bound this number from below. From four octets on the state has six signs or
more, so it is not blank and the login can be completed. From fewer octets it has four signs at most,
and from none at all it is empty.
-/

namespace SignIn

namespace OAuth

/-! ## Strong states -/

/-- A state is strong: it has at least six signs, all of which stand in an address as they are. -/
structure IsStrong (state : Text) : Prop where
  length_le : 6 ≤ state.length
  isUrlSafe : ∀ c ∈ state, c.isUrlSafe = true

/-- A strong state is not blank, so a callback that brings it back is seen to have one. -/
theorem IsStrong.isBlank {state : Text} (h : IsStrong state) : state.isBlank = false := by
  cases state with
  | nil => exact absurd h.length_le (by decide)
  | cons c rest =>
    have hc : c.isUrlSafe = true := h.isUrlSafe c List.mem_cons_self
    rw [Text.isBlank, List.all_cons, CodePoint.isSpace_of_isUrlSafe hc, Bool.false_and]

/-- A random state is strong if and only if it is made from at least four octets. -/
theorem isStrong_iff_of_isNewState {c : OAuthConfig} {entropy : Int} {state : Text}
    (habsent : Text.present? c.state = none) (h : IsNewState c entropy state) :
    IsStrong state ↔ 4 ≤ entropy := by
  cases h with
  | own present =>
    rw [habsent] at present
    cases present
  | @random octets absent nonneg size =>
    have hlength : (Base64.encodeUrl octets).length = (4 * octets.length + 2) / 3 :=
      Base64.length_encodeUrl octets
    constructor
    · intro hstrong
      have hsix : 6 ≤ (Base64.encodeUrl octets).length := hstrong.length_le
      omega
    · intro hfour
      refine ⟨?_, fun c hc => Base64.isUrlSafe_of_mem hc⟩
      omega

/-! ## Started logins -/

/-- A login that has been begun at a moment can be completed: its expiry can be told, and as long as
nobody touches its key before, a callback that brings back its state is found right and passes. -/
def CanComplete (engine : Engine) (c : OAuthConfig) (request : Request) (state : Text)
    (challenged : Prop) (now : Instant) (begun : World) : Prop :=
  ∃ expiresAt, expiry now (some (pendingLifetime c engine.settings)) = .ok expiresAt ∧
    ∀ steps callback, Undisturbed engine (stateKey c request) expiresAt steps begun →
      BringsBack request state callback →
        (∃ pending, ((consumeState c callback).runIn (worldAfter engine steps begun)).1 =
          .ok pending) ∧
        (FormEncodable c → ∀ replies,
          Passes engine c callback replies challenged (worldAfter engine steps begun))

/-- What a call leaves is strong: every login that it stores has a strong state, and every address
that it redirects to has one strong state, which is not blank and by which the login can be
completed. -/
structure StartsStrongly (engine : Engine) (c : OAuthConfig) (request : Request)
    (replies : List Reply) (w : World) : Prop where
  stored : ∀ key value lifetime, .cacheSet key value lifetime ∈
      ((Step.authenticate (.oauth c) request replies).run engine w).2.journal →
    ∃ (pending : PendingLogin) (stored : Text), pending.toJson? = some stored ∧
      value = .text stored ∧ IsStrong pending.state
  sent : ∀ url, ((Step.authenticate (.oauth c) request replies).run engine w).1 =
      .ok (.outcome (.redirect url)) →
    ∃ parameters state, appended? c url = some parameters ∧
      Form.valuesOf "state" parameters = [state] ∧ IsStrong state ∧ state.isBlank = false ∧
      CanComplete engine c request state (Form.valuesOf "code_challenge" parameters ≠ []) w.clock
        ((Step.authenticate (.oauth c) request replies).run engine w).2

section authenticate

variable {engine : Engine} {c : OAuthConfig} {request : Request} {replies : List Reply}
  {w : World} {state stored : Text} {challenge : Option PkceChallenge}

/-- A login that has been stored can be completed if its state is not blank. -/
theorem canComplete_of_starts {begun : World}
    (hstarts : Starts engine (.oauth c) request c state challenge stored)
    (hset : w.cache.set w.clock (.text (stateKey c request)) (.text stored)
      (some (pendingLifetime c engine.settings)) = .ok begun.cache)
    (hpresent : state.isBlank = false) :
    CanComplete engine c request state (challenge ≠ none) w.clock begun := by
  have hstate : Text.present? (some state) = some state := by rw [Text.present?, hpresent]; rfl
  obtain ⟨expiresAt, hexpiry, hafter⟩ := ExpiringCache.find?_of_set hset
  have hstored := hafter (.text (stateKey c request))
  rw [if_pos rfl] at hstored
  refine ⟨expiresAt, hexpiry, fun steps callback hundisturbed hback => ?_⟩
  obtain ⟨hfind, hlive⟩ := find?_worldAfter hundisturbed hstored
  refine ⟨?_, fun hconfig replies =>
    passes_of_find? hstarts hstate hconfig hback hfind rfl hlive⟩
  rw [← stateKey_eq_of_cacheKey hback.cacheKey_eq] at hfind
  have hget : callback.get "state" = some state := by rw [Request.get, hback.state_eq, hstate]
  rw [consumeState_run, shown_of_find? hfind hlive]
  exact ⟨_, stateCheck_of_toJson? hstarts.toJson? hget⟩

/-- The journal of a call says that it has stored a login. -/
def HasStored (engine : Engine) (c : OAuthConfig) (request : Request) (replies : List Reply)
    (w : World) : Prop :=
  ∃ key value lifetime, .cacheSet key value lifetime ∈
    ((Step.authenticate (.oauth c) request replies).run engine w).2.journal

/-- What the journal says to be stored is a login that the call has started. -/
theorem starts_of_stored {key value : Datum} {lifetime : Option Lifetime}
    (hset : .cacheSet key value lifetime ∈
      ((Step.authenticate (.oauth c) request replies).run engine w).2.journal) :
    ∃ state challenge stored, Starts engine (.oauth c) request c state challenge stored ∧
      value = .text stored := by
  obtain ⟨result, -, -, hleg⟩ := run_authenticate engine w (.oauth c) request replies
  obtain ⟨d, state, challenge, stored, hstarts, hstoring, -⟩ :=
    starts_of_set hleg ((mem_deeds rfl).2 hset)
  obtain rfl : d = c := eq_of_checkAll hstarts.admitted rfl
  exact ⟨state, challenge, stored, hstarts, (Event.cacheSet.inj hstoring).2.1⟩

/-- A redirect sends the state of a login that has been stored, and that can be completed if the
state is not blank. -/
theorem sends_of_redirect {url : Text}
    (hredirect : ((Step.authenticate (.oauth c) request replies).run engine w).1 =
      .ok (.outcome (.redirect url))) :
    ∃ parameters state, appended? c url = some parameters ∧
      Form.valuesOf "state" parameters = [state] ∧ HasStored engine c request replies w ∧
      IsNewState c engine.settings.stateEntropy state ∧
      (state.isBlank = false → CanComplete engine c request state
        (Form.valuesOf "code_challenge" parameters ≠ []) w.clock
        ((Step.authenticate (.oauth c) request replies).run engine w).2) := by
  obtain ⟨result, hresult, -, hleg⟩ := run_authenticate engine w (.oauth c) request replies
  obtain rfl := eq_of_map_outcome (hresult.symm.trans hredirect)
  obtain ⟨d, state, challenge, stored, hstarts, hdeeds, hset, hurl⟩ := starts_of_redirect hleg
  obtain rfl : d = c := eq_of_checkAll hstarts.admitted rfl
  have hdeed : storing engine.settings d request stored ∈ deeds
      ((Step.authenticate (.oauth d) request replies).run engine w).2.journal := by
    rw [hdeeds]
    exact List.mem_singleton_self _
  have hstored : HasStored engine d request replies w := ⟨_, _, _, (mem_deeds rfl).1 hdeed⟩
  have hchallenged : (Form.valuesOf "code_challenge"
      (authorizationParameters d state challenge) ≠ []) = (challenge ≠ none) := by
    rw [valuesOf_challenge_authorizationParameters]
    cases challenge <;> simp
  refine ⟨_, state, appended?_of_authorizationUrl hurl,
    valuesOf_state_authorizationParameters d state challenge, hstored, hstarts.isNewState, ?_⟩
  rw [hchallenged]
  exact canComplete_of_starts hstarts hset

/-- Whatever a call stores and sends without a state of the caller is strong if and only if random
states are made from at least four octets. -/
theorem starts_strongly_iff (habsent : Text.present? c.state = none) :
    StartsStrongly engine c request replies w ↔
      (HasStored engine c request replies w → 4 ≤ engine.settings.stateEntropy) := by
  constructor
  · rintro hstrongly ⟨key, value, lifetime, hset⟩
    obtain ⟨state, challenge, stored, hstarts, rfl⟩ := starts_of_stored hset
    obtain ⟨pending, other, hpending, hother, hstrong⟩ := hstrongly.stored _ _ _ hset
    obtain rfl := Datum.text.inj hother
    rw [PendingLogin.toJson?_injective hpending hstarts.toJson?] at hstrong
    exact (isStrong_iff_of_isNewState habsent hstarts.isNewState).1 hstrong
  · intro hfour
    constructor
    · intro key value lifetime hset
      obtain ⟨state, challenge, stored, hstarts, rfl⟩ := starts_of_stored hset
      have hstrong : IsStrong state :=
        (isStrong_iff_of_isNewState habsent hstarts.isNewState).2 (hfour ⟨_, _, _, hset⟩)
      exact ⟨_, stored, hstarts.toJson?, rfl, hstrong⟩
    · intro url hredirect
      obtain ⟨parameters, state, happended, hstate, hstored, hnew, hcomplete⟩ :=
        sends_of_redirect hredirect
      have hstrong : IsStrong state :=
        (isStrong_iff_of_isNewState habsent hnew).2 (hfour hstored)
      exact ⟨parameters, state, happended, hstate, hstrong, hstrong.isBlank,
        hcomplete hstrong.isBlank⟩

end authenticate

/-! ## Settings -/

/-- The settings of a process that asks for a number of octets and lets a login stay pending for ten
minutes. -/
def octetSettings (octets : Int) : Settings :=
  { claimEngine.settings with
    stateEntropy := octets
    redisUrl := "redis://localhost:6379/0"
    cacheKeyPrefix := "auth-strategy"
    logLevel := "INFO" }

/-- The fields of these settings that are given; all others are left alone. -/
def octetRecord (octets : Int) : Record :=
  [("state_ttl_seconds", .int 600), ("state_entropy_bytes", .int octets)]

/-- Any number of octets is accepted, however small, and a negative one too. -/
theorem resolve_octetRecord (octets : Int) :
    Settings.resolve [] (octetRecord octets) = .valid (octetSettings octets) := rfl

/-- An engine whose random states are made from a number of octets. -/
def octetEngine (octets : Int) : Engine := { claimEngine with settings := octetSettings octets }

def blankStateConfig : OAuthConfig := { codeConfig with enablePkce := false, state := some " " }

theorem blankStateConfig_absent : Text.present? blankStateConfig.state = none := rfl

def octetResult (octets : Int) : Except Failure StepResult :=
  ((Step.authenticate (.oauth blankStateConfig) ⟨[], none⟩ []).run (octetEngine octets)
    freshWorld).1

/-- Four octets are enough: the state has six signs, and the login is strong. -/
theorem fourOctets_start_strongly :
    Text.present? blankStateConfig.state = none ∧
      redirect? (octetResult 4) =
        some (Text.ofString "https://h/a?response_type=code&client_id=app&state=AAAAAA") ∧
      StartsStrongly (octetEngine 4) blankStateConfig ⟨[], none⟩ [] freshWorld :=
  ⟨blankStateConfig_absent, by decide +kernel,
    (starts_strongly_iff blankStateConfig_absent).2 fun _ => Int.le_refl 4⟩

/-- Settings that ask for no octets are accepted, and so is the client, who is sent to an address
whose state is empty. -/
theorem noOctets_start_weakly :
    Settings.resolve [] (octetRecord 0) = .valid (octetSettings 0) ∧
      configProblem? blankStateConfig = none ∧ Text.present? blankStateConfig.state = none ∧
      redirect? (octetResult 0) =
        some (Text.ofString "https://h/a?response_type=code&client_id=app&state=") ∧
      ¬ StartsStrongly (octetEngine 0) blankStateConfig ⟨[], none⟩ [] freshWorld := by
  have hurl : redirect? (octetResult 0) =
      some (Text.ofString "https://h/a?response_type=code&client_id=app&state=") := by
    decide +kernel
  refine ⟨resolve_octetRecord 0, rfl, blankStateConfig_absent, hurl, fun hstrongly => ?_⟩
  obtain ⟨parameters, state, happended, hstate, -, hnew, -⟩ :=
    sends_of_redirect (eq_of_redirect? hurl)
  obtain ⟨others, other, happended', hother, hstrong, -⟩ :=
    hstrongly.sent _ (eq_of_redirect? hurl)
  obtain rfl := Option.some.inj (happended.symm.trans happended')
  obtain rfl := (List.cons.inj (hstate.symm.trans hother)).1
  exact absurd ((isStrong_iff_of_isNewState blankStateConfig_absent hnew).1 hstrong) (by decide)

end OAuth

end SignIn
