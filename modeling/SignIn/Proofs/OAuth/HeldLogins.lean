import SignIn.Proofs.Cache.Expiry
import SignIn.Proofs.Cache.Holdings
import SignIn.Proofs.OAuth.Binding
import SignIn.Proofs.OAuth.Persistence

/-!
# What the cache of an engine holds

Where nobody but the engine writes to a cache that was empty at first, every entry is a pending
login. It has its own key, it expires some time after the call that has stored it, and it goes with
the address to which this call has redirected the user: its state is sent there, and its verifier is
that of the challenge there.
-/

namespace SignIn

namespace OAuth

/-! ## Runs with their caches -/

/-- A run of an engine on a cache that was empty at first and is written by nobody else, with its
history and the cache that it leaves. In a mixed run, calls may be under way at the same time. -/
inductive RunOf (engine : Engine) : Bool → List CallRecord → MemoryCache → Prop
  | sequential (clock : Instant) (random : RandomStream) {steps : List Step}
    (own : ∀ step ∈ steps, step.IsOwn) :
    RunOf engine false (recordsOf engine steps (World.start clock random))
      (worldAfter engine steps (World.start clock random)).cache
  | concurrent (clock : Instant) (moves : List Move) :
    RunOf engine true ((System.start clock).run engine moves).history
      ((System.start clock).run engine moves).cache

/-- A call of a run: the clock shows its moment, and the texts of its configuration can be written
into an authorization address. -/
structure CallRecord.IsProper (c : CallRecord) : Prop where
  isShown : c.moment.IsShown
  encodable : ∀ config, c.config = .oauth config → AddressEncodable config

theorem RunOf.follows {engine : Engine} {mixed : Bool} {history : List CallRecord}
    {cache : MemoryCache} (h : RunOf engine mixed history cache) :
    Follows (CallRecord.IsLeg engine) ExpiringCache.empty history cache := by
  cases h with
  | sequential clock random own => exact follows_of_own (w := World.start clock random) own
  | concurrent clock moves => exact follows_of_run engine clock moves

/-- Calls that come one after another have all ended. -/
theorem result_ne_none_of_mem_recordsOf {engine : Engine} {steps : List Step} {w : World}
    {c : CallRecord} (hc : c ∈ recordsOf engine steps w) : c.result ≠ none := by
  induction steps generalizing w with
  | nil => cases hc
  | cons step rest ih =>
    rcases List.mem_append.1 hc with hc | hc
    · cases step with
      | authenticate config request replies =>
        obtain rfl := List.mem_singleton.1 hc
        exact nofun
      | _ => cases hc
    · exact ih hc

theorem RunOf.mixed_of_result {engine : Engine} {mixed : Bool} {history : List CallRecord}
    {cache : MemoryCache} (h : RunOf engine mixed history cache) {c : CallRecord}
    (hc : c ∈ history) (hresult : c.result = none) : mixed = true := by
  cases h with
  | sequential clock random own => exact absurd hresult (result_ne_none_of_mem_recordsOf hc)
  | concurrent clock moves => rfl

/-! ## Keys -/

/-- A leg stores only under texts. -/
theorem hasTextKeys_of_leg {engine : Engine} {config : AnyConfig} {request : Request}
    {now : Instant} {cache after : MemoryCache} {replies : List Reply} {es : List Event}
    {result : Except Failure Outcome}
    (h : Leg engine config request now cache replies es result after)
    (hkeys : cache.HasTextKeys) : after.HasTextKeys := by
  cases h with
  | unopened failure initiating => exact hkeys
  | unstored starts unset => exact hkeys
  | stored starts set => exact hkeys.set set
  | returned admitted completing redirects course => exact hkeys.keep _
  | direct admitted completing direct course => exact hkeys

theorem hasTextKeys_of_follows {engine : Engine} {history : List CallRecord}
    {cache after : MemoryCache} (h : Follows (CallRecord.IsLeg engine) cache history after)
    (hkeys : cache.HasTextKeys) : after.HasTextKeys := by
  induction history generalizing cache with
  | nil =>
    cases h
    exact hkeys
  | cons c history ih =>
    obtain ⟨middle, hleg, hrest⟩ := h
    obtain ⟨replies, es, result, hleg, -, -⟩ := hleg.exists_leg
    exact ih hrest (hasTextKeys_of_leg hleg hkeys)

/-! ## Pending logins and their addresses -/

/-- A verifier fits the parameters of an authorization address: the challenge there is made from it,
or neither of them is there. -/
inductive Fits (parameters : Fields) : Option Text → Prop
  | unchallenged (challenge_absent : Form.valuesOf "code_challenge" parameters = []) :
    Fits parameters none
  | challenged {challenge verifier : Text} {method : ChallengeMethod}
    (challenge_eq : Form.valuesOf "code_challenge" parameters = [challenge])
    (method_eq : Form.valuesOf "code_challenge_method" parameters = [Text.ofString method.name])
    (verifies : Pkce.verify verifier challenge method = .ok true) : Fits parameters (some verifier)

/-- The verifier of a new challenge fits the parameters that are sent. -/
theorem fits_of_isNewChallenge {config : OAuthConfig} {state : Text}
    {challenge : Option PkceChallenge} (h : IsNewChallenge config challenge) :
    Fits (authorizationParameters config state challenge)
      (challenge.map PkceChallenge.verifier) := by
  cases h with
  | none unused =>
    exact .unchallenged (valuesOf_challenge_authorizationParameters config state none)
  | @some octets challenge used size made =>
    exact .challenged (valuesOf_challenge_authorizationParameters config state _)
      (valuesOf_method_authorizationParameters config state _)
      (Pkce.verify_of_challenge? (Pkce.ne_nil_of_length size) made)

/-- What a call has answered that has begun a login: it has redirected the user to an address with
the state of the login, whose verifier fits it. A call of a mixed run may not have answered yet. -/
inductive Announces (mixed : Bool) (c : CallRecord) (config : OAuthConfig)
    (pending : PendingLogin) : Prop
  | underway (mixed_eq : mixed = true) (result_eq : c.result = none) :
    Announces mixed c config pending
  | returned {url : Text} {parameters : Fields}
    (result_eq : c.result = some (.ok (.outcome (.redirect url))))
    (appended_eq : appended? config url = some parameters)
    (state_eq : Form.valuesOf "state" parameters = [pending.state])
    (fits : Fits parameters pending.codeVerifier) : Announces mixed c config pending

/-- An entry is the login that a call has begun for a configuration. -/
structure IsLoginOf (engine : Engine) (mixed : Bool) (c : CallRecord) (config : OAuthConfig)
    (pending : PendingLogin) (key : Text) (entry : CacheEntry Datum) : Prop where
  config_eq : c.config = .oauth config
  key_eq : key = stateKey config c.request
  expires : ExpiresAfter c.moment (config.verifierTimeout.getD engine.settings.stateTtl).val entry
  value_eq : PendingLogin.ofStored entry.value = .valid pending
  pending_key : pending.key = key
  announces : Announces mixed c config pending

/-- An entry that is held under a key is the login that a call of the history has begun, and no
later call has touched the key. -/
def IsHeldLogin (engine : Engine) (mixed : Bool) (history : List CallRecord) (k : CacheKey)
    (entry : CacheEntry Datum) : Prop :=
  ∃ key earlier c later config pending, k = .text key ∧ history = earlier ++ c :: later ∧
    (∀ d ∈ later, ¬ d.Touches key) ∧ IsLoginOf engine mixed c config pending key entry

/-- What a call comes to that has stored a login. -/
theorem starts_of_stores {engine : Engine} {c : CallRecord} {before after : MemoryCache}
    {key : Text} {pending : PendingLogin} {expiresAt : Option Instant}
    (hleg : c.IsLeg engine before after) (hstores : c.Stores key pending expiresAt) :
    ∃ config state challenge stored,
      Starts engine c.config c.request config state challenge stored ∧
      key = stateKey config c.request ∧
      pending = pendingLogin config c.request state challenge ∧
      expiry c.moment (some (pendingLifetime config engine.settings)) = .ok expiresAt ∧
      (c.result = none ∨ c.result = some (((((authorizationUrl config state challenge).mapError
        .fault).map .redirect).map .outcome))) := by
  obtain ⟨written, lifetime, hwritten, hset, hexpiry⟩ := hstores.stores
  obtain ⟨replies, es, result, hleg, haccesses, hresult⟩ := hleg.exists_leg
  have hes : .cacheSet (.text key) (.text written) lifetime ∈ accesses es := by
    rw [← haccesses]
    exact List.mem_filter.2 ⟨hset, rfl⟩
  obtain ⟨config, state, challenge, stored, hstarts, hstoring, hends⟩ :=
    starts_of_set hleg (List.mem_filter.1 hes).1
  obtain ⟨hkey, hvalue, rfl⟩ := Event.cacheSet.inj hstoring
  obtain rfl := Datum.text.inj hvalue
  refine ⟨config, state, challenge, written, hstarts, Datum.text.inj hkey,
    PendingLogin.toJson?_injective hwritten hstarts.toJson?, hexpiry, ?_⟩
  rcases hresult with ⟨-, hresult⟩ | ⟨-, hresult⟩
  · rw [hresult, hends _ hexpiry]
    exact .inr rfl
  · exact .inl hresult

/-- A proper call that has stored a login announces it. -/
theorem isLoginOf_of_stores {engine : Engine} {mixed : Bool} {c : CallRecord}
    {before after : MemoryCache} {key stored : Text} {pending : PendingLogin}
    {entry : CacheEntry Datum} (hleg : c.IsLeg engine before after) (hproper : c.IsProper)
    (hmixed : c.result = none → mixed = true) (hstores : c.Stores key pending entry.expiresAt)
    (hstored : pending.toJson? = some stored) (hvalue : entry.value = .text stored) :
    ∃ config, IsLoginOf engine mixed c config pending key entry := by
  obtain ⟨config, state, challenge, written, hstarts, rfl, rfl, hexpiry, hresult⟩ :=
    starts_of_stores hleg hstores
  have hconfig := (checkAll_eq_ok_iff.1 hstarts.admitted).1
  refine ⟨config, hconfig, rfl, ?_, ?_, rfl, ?_⟩
  · exact expiresAfter_of_expiry hproper.isShown
      (config.verifierTimeout.getD engine.settings.stateTtl).property hexpiry
  · rw [hvalue, PendingLogin.ofStored_of_toJson? hstored]
  · rcases hresult with hnone | hresult
    · exact .underway (hmixed hnone) hnone
    · obtain ⟨url, hurl⟩ := (exists_url_iff_of_starts hstarts).2 (hproper.encodable config hconfig)
      rw [hurl] at hresult
      exact .returned hresult (appended?_of_authorizationUrl hurl)
        (valuesOf_state_authorizationParameters config state challenge)
        (fits_of_isNewChallenge hstarts.isNewChallenge)

/-- Whatever proper calls an engine has answered, one after another or at the same time, every entry
of its cache is the login that one of them has begun. -/
theorem held_entries_are_pending_logins {engine : Engine} {mixed : Bool}
    {history : List CallRecord} {cache : MemoryCache} (hrun : RunOf engine mixed history cache)
    (hproper : ∀ c ∈ history, c.IsProper) {k : CacheKey} {entry : CacheEntry Datum}
    (hfind : cache.find? k = some entry) : IsHeldLogin engine mixed history k entry := by
  have hfollows := hrun.follows
  obtain ⟨key, rfl⟩ := hasTextKeys_of_follows hfollows .empty k entry hfind
  obtain ⟨earlier, c, later, pending, stored, rfl, hstores, hstored, hvalue, hlater⟩ :=
    provenance_of_follows provenance_empty hfollows key entry hfind
  obtain ⟨before, -, middle, hleg, -⟩ := follows_append.1 hfollows
  have hc : c ∈ earlier ++ c :: later := List.mem_append_right _ List.mem_cons_self
  obtain ⟨config, hlogin⟩ := isLoginOf_of_stores hleg (hproper c hc) (hrun.mixed_of_result hc)
    hstores hstored hvalue
  exact ⟨key, earlier, c, later, config, pending, rfl, rfl, hlater, hlogin⟩

/-- A client without challenges, whose logins stay pending for ten seconds. -/
def hastyConfig : OAuthConfig :=
  { codeConfig with
    enablePkce := false
    state := some "s2"
    verifierTimeout := some ⟨10, by decide⟩ }

/-- Two clients begin a login, the second one a second later and under a key of its request. -/
def heldRun : List Step :=
  [.authenticate (.oauth codeConfig) ⟨[], none⟩ [], .clock Binary64.one,
    .authenticate (.oauth hastyConfig) ⟨[], some "tab"⟩ []]

theorem isProper_of_mem_heldRun :
    ∀ c ∈ recordsOf claimEngine heldRun freshWorld, c.IsProper := by
  have hcode : AddressEncodable codeConfig := by
    constructor <;> intro t ht <;> cases ht
    decide
  have hhasty : AddressEncodable hastyConfig := ⟨hcode.clientId, hcode.callbackUrl, hcode.scopes⟩
  intro c hc
  simp only [recordsOf, heldRun, Step.record?, Option.toList, List.cons_append, List.nil_append,
    List.mem_cons, List.not_mem_nil, or_false] at hc
  rcases hc with rfl | rfl
  · refine ⟨by decide +kernel, fun config hconfig => ?_⟩
    obtain rfl := AnyConfig.oauth.inj hconfig
    exact hcode
  · refine ⟨by decide +kernel, fun config hconfig => ?_⟩
    obtain rfl := AnyConfig.oauth.inj hconfig
    exact hhasty

/-- After both calls the logins of both clients are held. -/
theorem heldRun_holds_logins :
    (∀ c ∈ recordsOf claimEngine heldRun freshWorld, c.IsProper) ∧
      ∀ k ∈ [CacheKey.text "tab", .text (platformKey codeConfig)],
        ∃ entry, (worldAfter claimEngine heldRun freshWorld).cache.find? k = some entry ∧
          IsHeldLogin claimEngine false (recordsOf claimEngine heldRun freshWorld) k entry := by
  have hown : ∀ step ∈ heldRun, step.IsOwn := by simp [heldRun, Step.IsOwn]
  have hheld : ∀ k ∈ [CacheKey.text "tab", .text (platformKey codeConfig)],
      ((worldAfter claimEngine heldRun freshWorld).cache.find? k).isSome = true := by
    decide +kernel
  refine ⟨isProper_of_mem_heldRun, fun k hk => ?_⟩
  obtain ⟨entry, hfind⟩ := Option.isSome_iff_exists.1 (hheld k hk)
  exact ⟨entry, hfind, held_entries_are_pending_logins (.sequential 0 ⟨fun _ => 0, 0⟩ hown)
    isProper_of_mem_heldRun hfind⟩

end OAuth

end SignIn
