import SignIn.OAuth.Mapper
import SignIn.Proofs.OAuth.Journal
import SignIn.Proofs.OAuth.Legs
import SignIn.Proofs.OAuth.NormalToken

/-!
# The discipline of a call

Whatever the configuration, the request, the cache and the answers of the provider, a call makes at
most one access to the cache, then at most one exchange for a token and one for the claims, and then
at most one use of the mapper. Each of these happens only if all before it went well.

The claims are fetched with the obtained token as bearer token. Where the userinfo address itself
names a user or a password, the client sends these as basic credentials in its place.
-/

namespace SignIn

namespace OAuth

/-! ## Requests on the wire -/

/-- What the request for the claims carries: the access token as bearer token, or the basic
credentials of the address if it has any. -/
def CarriesToken (url : Option Text) (accessToken : Text) (request : WireRequest) : Prop :=
  ∃ address parsed, url = some address ∧ Url.parse address = .ok parsed ∧
    match parsed.fromRoot.login? with
    | none => request.authorization = some (("Bearer " : Text) ++ accessToken)
    | some login =>
      ∃ credentials, WireRequest.basic login = .ok credentials ∧
        request.authorization = some credentials

section wire

variable {call : Call} {url : Option Text} {form : Record} {accessToken : Text}
  {request : WireRequest}

theorem method_of_postsForm (hposts : call.PostsForm url form)
    (h : call.request? = some request) : request.method = "POST" := by
  obtain ⟨address, method, parsed, fields, payload, hmade⟩ := WireRequest.made_of_request? h
  obtain rfl := Option.some.inj (hposts.method_eq.symm.trans hmade.callMethod)
  rw [hmade.method]
  decide +kernel

theorem method_of_getsAsBearer (hgets : call.GetsAsBearer url accessToken)
    (h : call.request? = some request) : request.method = "GET" := by
  obtain ⟨address, method, parsed, fields, payload, hmade⟩ := WireRequest.made_of_request? h
  obtain rfl := Option.some.inj (hgets.method_eq.symm.trans hmade.callMethod)
  rw [hmade.method]
  decide +kernel

theorem carriesToken_of_getsAsBearer (hgets : call.GetsAsBearer url accessToken)
    (h : call.request? = some request) : CarriesToken url accessToken request := by
  obtain ⟨address, method, parsed, fields, payload, hmade⟩ := WireRequest.made_of_request? h
  refine ⟨address, parsed, hgets.url_eq.symm.trans hmade.callUrl, hmade.parse, ?_⟩
  have hauthorization := hmade.authorization
  cases hlogin : parsed.fromRoot.login? with
  | some login =>
    rw [hlogin] at hauthorization
    dsimp only at hauthorization ⊢
    cases hbasic : WireRequest.basic login with
    | error fault =>
      rw [hbasic] at hauthorization
      cases hauthorization
    | ok credentials =>
      rw [hbasic] at hauthorization
      exact ⟨credentials, rfl, (Except.ok.inj hauthorization).symm⟩
  | none =>
    rw [hlogin] at hauthorization
    obtain rfl := Headers.ofTexts_eq_ok (hgets.headers_eq.symm.trans hmade.callHeaders)
    have hname : (Text.ofString "Authorization").toAsciiLower = Text.ofString "authorization" := by
      decide
    rw [← Except.ok.inj hauthorization]
    simp [WireRequest.header?, hname, Text.joinWith]

end wire

/-! ## The rules -/

/-- A call passes the checks that come before the cache, and belongs to a leg. -/
structure Admitted (config : AnyConfig) (request : Request) (c : OAuthConfig) (leg : Stage) :
    Prop where
  config_eq : config = .oauth c
  unrefused : refusal? request = none
  unproblematic : configProblem? c = none
  stage_eq : stage c request = leg

/-- A payload that is no refusal holds an access token and is read as a token with it. -/
structure Gives (payload : Record) (token : AccessToken) : Prop where
  accepted : ¬ Refuses payload
  holds : HoldsToken payload token.accessToken
  read : (tokenOfPayload payload).1 = .ok token

theorem gives_of_tokenOfPayload {payload : Record} {token : AccessToken}
    (h : (tokenOfPayload payload).1 = .ok token) : Gives payload token :=
  ⟨(holdsToken_of_tokenOfPayload h).1, (holdsToken_of_tokenOfPayload h).2, h⟩

/-- The record that answers a call gives a token. -/
def Yields (replies : List Reply) (call : Call) (token : AccessToken) : Prop :=
  ∃ payload, Answers replies call payload ∧ Gives payload token

/-- The token with which a call goes on: that of the request for the implicit grant, and that of an
answer to a form for the token endpoint for the others. -/
def Obtained (config : OAuthConfig) (request : Request) (replies : List Reply)
    (token : AccessToken) : Prop :=
  if config.grantType = .implicit then Gives request.record token
  else ∃ call form, call.PostsForm config.tokenUrl form ∧ Yields replies call token

/-- The replies that are left when the claims are fetched. -/
def claimReplies (config : OAuthConfig) (replies : List Reply) : List Reply :=
  if config.grantType = .implicit then replies else replies.tail

/-- The calls to the provider that a completing call may make. -/
inductive Traffic (config : OAuthConfig) (request : Request) (replies : List Reply) :
    List Call → Prop
  | silent : Traffic config request replies []
  | asked {ask : Call} {form : Record} (direct : config.grantType ≠ .implicit)
    (posts : ask.PostsForm config.tokenUrl form) : Traffic config request replies [ask]
  | fetched {ask fetch : Call} {form : Record} {token : AccessToken}
    (direct : config.grantType ≠ .implicit) (posts : ask.PostsForm config.tokenUrl form)
    (yields : Yields replies ask token)
    (gets : fetch.GetsAsBearer config.userInfoUrl token.accessToken) :
    Traffic config request replies [ask, fetch]
  | carried {fetch : Call} {token : AccessToken} (implicit : config.grantType = .implicit)
    (carries : Gives request.record token)
    (gets : fetch.GetsAsBearer config.userInfoUrl token.accessToken) :
    Traffic config request replies [fetch]

variable (engine : Engine) (config : AnyConfig) (request : Request) (before : World)
  (es : List Event) (result : Except Failure Outcome) (after : MemoryCache)

/-- The rules for the cache. -/
structure CacheDiscipline : Prop where
  /-- There is at most one access. -/
  length_le : (accesses es).length ≤ 1
  /-- Nothing but the accesses changes the cache. -/
  cache_eq : after = (accesses es).foldl (Event.effect before.clock) before.cache
  /-- Only the first leg stores. -/
  initiating_of_set : ∀ key value lifetime, .cacheSet key value lifetime ∈ es →
    ∃ c, Admitted config request c .initiating
  /-- A redirect comes with exactly one access, which stores. -/
  set_of_redirect : ∀ url, result = .ok (.redirect url) →
    ∃ key value lifetime, accesses es = [.cacheSet key value lifetime]
  /-- A value is taken exactly by the second leg of a grant with redirect. -/
  take_iff : (∃ key value, .cacheTake key value ∈ es) ↔
    ∃ c, Admitted config request c .completing ∧ c.usesRedirect = true
  /-- A grant without redirect and a rejected call leave the cache alone. -/
  redirects_of_access : accesses es ≠ [] → ∃ c leg, Admitted config request c leg ∧
    c.usesRedirect = true

/-- The rules for calls to the provider. -/
structure CallDiscipline : Prop where
  /-- Only the second leg calls, once for the token and once for the claims. -/
  traffic : calls es = [] ∨ ∃ c, Admitted config request c .completing ∧
    Traffic c request before.replies (calls es)
  /-- The requests that go out are those of the calls, as far as they can be written. -/
  requests_eq : requests es = (calls es).filterMap Call.request?
  /-- A request asks for a token, or it fetches the claims with the token that was obtained. -/
  wire : ∀ r ∈ requests es, ∃ c, Admitted config request c .completing ∧
    ∃ call ∈ calls es, call.request? = some r ∧
      ((∃ form, call.PostsForm c.tokenUrl form ∧ r.method = "POST") ∨
        ∃ token, Obtained c request before.replies token ∧
          call.GetsAsBearer c.userInfoUrl token.accessToken ∧ r.method = "GET" ∧
          CarriesToken c.userInfoUrl token.accessToken r)
  /-- With a redirect there is no call before the state has been found right. -/
  checked : ∀ c, Admitted config request c .completing → c.usesRedirect = true → calls es ≠ [] →
    ∃ pending, stateCheck request (shown before.cache before.clock c request) = .ok pending

/-- The rules for the mapper. -/
structure MapperDiscipline : Prop where
  /-- The mapper is used at most once. -/
  length_le : (mappings es).length ≤ 1
  /-- It is used for claims without error that answer the last call. -/
  answered : ∀ m ∈ mappings es, ∃ c, Admitted config request c .completing ∧
    m.platform = c.platform ∧ Obtained c request before.replies m.token ∧
    (∃ call, (calls es).getLast? = some call ∧
      call.GetsAsBearer c.userInfoUrl m.token.accessToken ∧
      Answers (claimReplies c before.replies) call m.claims) ∧
    ¬ Refuses m.claims
  /-- A user is found exactly if the mapper finds one. -/
  user_iff : ∀ user, result = .ok (.user user) ↔
    ∃ m ∈ mappings es, engine.mapper m.platform m.claims m.token = .ok (some user)

/-- The rules for a call, whose deeds come in a fixed order. -/
structure Disciplined : Prop where
  forCache : CacheDiscipline config request before es result after
  forCalls : CallDiscipline config request before es
  forMapper : MapperDiscipline engine config request before es result
  order : es = accesses es ++ deedsOfAll (calls es) (mappings es)

/-! ## Courses keep the rules -/

section progress

variable {mapper : Mapper} {c : OAuthConfig} {request : Request} {replies : List Reply}
  {stored : Datum} {token : AccessToken} {found : Except Failure User} {es : List Event}

/-- The calls, the uses of the mapper and the result of a completing call. -/
inductive Progress (mapper : Mapper) (c : OAuthConfig) (request : Request) (replies : List Reply) :
    List Call → List Mapping → Except Failure User → Prop
  | stopped {cs : List Call} (traffic : Traffic c request replies cs) (failure : Failure) :
    Progress mapper c request replies cs [] (.error failure)
  | mapped {cs : List Call} {fetch : Call} {claims : Record} {token : AccessToken}
    (traffic : Traffic c request replies cs) (obtained : Obtained c request replies token)
    (last : cs.getLast? = some fetch) (gets : fetch.GetsAsBearer c.userInfoUrl token.accessToken)
    (answers : Answers (claimReplies c replies) fetch claims) (accepted : refusalIn? claims = none) :
    Progress mapper c request replies cs [⟨c.platform, claims, token⟩]
      (userOf c (mapper c.platform claims token))

theorem progress_of_identifies (first : List Call) {rest : List Reply}
    (hrest : rest = claimReplies c replies)
    (htraffic : Traffic c request replies
      (first ++ [userInfoCall c.userInfoUrl token.accessToken]))
    (hobtained : Obtained c request replies token)
    (h : Identifies mapper c rest token es found) :
    ∃ ms, first.flatMap deedsOf ++ es =
        deedsOfAll (first ++ [userInfoCall c.userInfoUrl token.accessToken]) ms ∧
      Progress mapper c request replies
        (first ++ [userInfoCall c.userInfoUrl token.accessToken]) ms found := by
  subst hrest
  cases h with
  | unclaimed failure => exact ⟨[], by simp [deedsOfAll], .stopped htraffic failure⟩
  | @mapped claims answers accepted =>
    exact ⟨[⟨c.platform, claims, token⟩], by simp [deedsOfAll, Mapping.event],
      .mapped htraffic hobtained List.getLast?_concat (getsAsBearer_userInfoCall _ _) answers
        accepted⟩

theorem progress_of_course (h : Course mapper c replies (tokenSource c request stored) es found) :
    ∃ cs ms, es = deedsOfAll cs ms ∧ Progress mapper c request replies cs ms found := by
  generalize hsource : tokenSource c request stored = source at h
  cases h with
  | refused failure => exact ⟨[], [], rfl, .stopped .silent failure⟩
  | @carried token es _ identifies =>
    obtain ⟨himplicit, hcarries, -⟩ := tokenSource_eq_carries hsource
    have hgives := gives_of_tokenOfPayload hcarries
    obtain ⟨ms, hes, hprogress⟩ := progress_of_identifies []
      (by rw [claimReplies, if_pos himplicit])
      (.carried himplicit hgives (getsAsBearer_userInfoCall _ _))
      (by rwa [Obtained, if_pos himplicit]) identifies
    exact ⟨_, ms, hes, hprogress⟩
  | unobtained form failure =>
    obtain ⟨hdirect, -⟩ := tokenSource_eq_asks hsource
    exact ⟨[tokenCall c.tokenUrl form], [], by simp [deedsOfAll],
      .stopped (.asked hdirect (postsForm_tokenCall _ _)) failure⟩
  | @obtained form token es _ grants identifies =>
    obtain ⟨hdirect, -⟩ := tokenSource_eq_asks hsource
    have hyields : Yields replies (tokenCall c.tokenUrl form) token := by
      obtain ⟨payload, hanswers, hread⟩ := grants
      exact ⟨payload, hanswers, gives_of_tokenOfPayload hread⟩
    have hobtained : Obtained c request replies token := by
      rw [Obtained, if_neg hdirect]
      exact ⟨_, form, postsForm_tokenCall _ _, hyields⟩
    obtain ⟨ms, hes, hprogress⟩ := progress_of_identifies [tokenCall c.tokenUrl form]
      (by rw [claimReplies, if_neg hdirect])
      (.fetched hdirect (postsForm_tokenCall _ _) hyields (getsAsBearer_userInfoCall _ _))
      hobtained identifies
    exact ⟨_, ms, by rw [← hes, List.flatMap_singleton], hprogress⟩

theorem accesses_of_course (h : Course mapper c replies (tokenSource c request stored) es found) :
    accesses es = [] := by
  obtain ⟨cs, ms, rfl, -⟩ := progress_of_course h
  exact accesses_deedsOfAll cs ms

theorem traffic_of_progress {cs : List Call} {ms : List Mapping}
    (h : Progress mapper c request replies cs ms found) : Traffic c request replies cs := by
  cases h with
  | stopped traffic failure => exact traffic
  | mapped traffic obtained last gets answers accepted => exact traffic

theorem not_refuses_of_refusalIn? {claims : Record} (h : refusalIn? claims = none) :
    ¬ Refuses claims := by
  intro hrefuses
  rw [refusalIn?_of_refuses hrefuses] at h
  cases h

/-- With a redirect, a course without deeds is all there is unless the state has been found right. -/
theorem stateCheck_of_course (hredirects : c.usesRedirect = true)
    (h : Course mapper c replies (tokenSource c request stored) es found) (hes : es ≠ []) :
    ∃ pending, stateCheck request stored = .ok pending := by
  generalize hsource : tokenSource c request stored = source at h
  cases h with
  | refused failure => exact absurd rfl hes
  | carried identifies =>
    obtain ⟨-, -, hpending⟩ := tokenSource_eq_carries hsource
    exact hpending
  | unobtained form failure =>
    obtain ⟨-, hform⟩ := tokenSource_eq_asks hsource
    obtain ⟨pending, code, hpending, -, -⟩ := hform hredirects
    exact ⟨pending, hpending⟩
  | obtained grants identifies =>
    obtain ⟨-, hform⟩ := tokenSource_eq_asks hsource
    obtain ⟨pending, code, hpending, -, -⟩ := hform hredirects
    exact ⟨pending, hpending⟩

end progress

/-! ## Every call keeps the rules -/

theorem admitted_iff {config : AnyConfig} {request : Request} {c : OAuthConfig} {leg : Stage} :
    Admitted config request c leg ↔ checkAll config request = .ok c ∧ stage c request = leg := by
  rw [checkAll_eq_ok_iff]
  constructor
  · intro h
    exact ⟨⟨h.config_eq, h.unrefused, h.unproblematic⟩, h.stage_eq⟩
  · rintro ⟨⟨hconfig, hrefused, hproblem⟩, hstage⟩
    exact ⟨hconfig, hrefused, hproblem, hstage⟩

theorem Admitted.unique {config : AnyConfig} {request : Request} {c d : OAuthConfig}
    {leg other : Stage} (h : Admitted config request c leg) (hd : Admitted config request d other) :
    c = d ∧ leg = other := by
  have hcd : c = d := AnyConfig.oauth.inj (h.config_eq.symm.trans hd.config_eq)
  subst hcd
  exact ⟨rfl, h.stage_eq.symm.trans hd.stage_eq⟩

theorem usesRedirect_of_code {c : OAuthConfig} (h : c.grantType = .authorizationCode) :
    c.usesRedirect = true := by
  rw [OAuthConfig.usesRedirect, h]
  rfl

theorem usesRedirect_of_initiating {c : OAuthConfig} {request : Request}
    (h : stage c request = .initiating) : c.usesRedirect = true := by
  unfold stage at h
  cases hredirect : c.usesRedirect with
  | true => rfl
  | false =>
    rw [hredirect] at h
    cases h

section leg

variable {engine : Engine} {config : AnyConfig} {request : Request} {w : World}
  {es : List Event} {result : Except Failure Outcome} {after : MemoryCache}

theorem not_completing {c : OAuthConfig} (h : Admitted config request c .initiating) :
    ¬ ∃ d, Admitted config request d .completing ∧ d.usesRedirect = true := by
  rintro ⟨d, hd, -⟩
  cases (h.unique hd).2

/-- The first leg stores, whether this succeeds or not. -/
theorem cacheDiscipline_of_starts {c : OAuthConfig} {state stored : Text}
    {challenge : Option PkceChallenge}
    (hstarts : Starts engine config request c state challenge stored)
    (hafter : after = (w.cache.store w.clock (.text (stateKey c request)) (.text stored)
      (some (pendingLifetime c engine.settings))).2) :
    CacheDiscipline config request w [storing engine.settings c request stored] result after := by
  have hadmitted := admitted_iff.2 ⟨hstarts.admitted, hstarts.initiating⟩
  have haccesses : accesses [storing engine.settings c request stored] =
      [storing engine.settings c request stored] := rfl
  constructor
  · exact Nat.le_of_eq (congrArg List.length haccesses)
  · rw [haccesses, hafter]
    rfl
  · exact fun _ _ _ _ => ⟨c, hadmitted⟩
  · exact fun _ _ => ⟨_, _, _, haccesses⟩
  · constructor
    · rintro ⟨key, value, htake⟩
      cases List.mem_singleton.1 htake
    · intro h
      exact absurd h (not_completing hadmitted)
  · exact fun _ => ⟨c, .initiating, hadmitted, usesRedirect_of_initiating hstarts.initiating⟩

theorem cacheDiscipline_of_leg
    (h : Leg engine config request w.clock w.cache w.replies es result after) :
    CacheDiscipline config request w es result after := by
  cases h with
  | unopened failure hinitiating =>
    constructor
    · exact Nat.zero_le 1
    · rfl
    · simp
    · simp
    · constructor
      · simp
      · rintro ⟨c, hc, -⟩
        have hstage := hinitiating c (admitted_iff.1 hc).1
        rw [hc.stage_eq] at hstage
        cases hstage
    · exact fun h => absurd rfl h
  | unstored starts hset =>
    exact cacheDiscipline_of_starts starts (by rw [MemoryCache.store_text, hset])
  | stored starts hset =>
    exact cacheDiscipline_of_starts starts (by rw [MemoryCache.store_text, hset])
  | @returned c es found admitted completing redirects course =>
    have hadmitted := admitted_iff.2 ⟨admitted, completing⟩
    have haccesses : accesses (.cacheTake (.text (stateKey c request))
        (shown w.cache w.clock c request) :: es) = [.cacheTake (.text (stateKey c request))
          (shown w.cache w.clock c request)] :=
      congrArg (List.cons _) (accesses_of_course course)
    constructor
    · exact Nat.le_of_eq (congrArg List.length haccesses)
    · rw [haccesses]
      rfl
    · intro key value lifetime hset
      have hmem : .cacheSet key value lifetime ∈ accesses (_ :: es) := List.mem_filter.2 ⟨hset, rfl⟩
      rw [haccesses] at hmem
      cases List.mem_singleton.1 hmem
    · exact fun url hurl => absurd hurl not_redirect_map
    · exact ⟨fun _ => ⟨c, hadmitted, redirects⟩, fun _ => ⟨_, _, List.mem_cons_self⟩⟩
    · exact fun _ => ⟨c, .completing, hadmitted, redirects⟩
  | @direct c es found admitted completing direct course =>
    have hadmitted := admitted_iff.2 ⟨admitted, completing⟩
    have haccesses : accesses es = [] := accesses_of_course course
    have hmem (e : Event) (he : e ∈ es) (haccess : e.isAccess = true) : False := by
      have hmem : e ∈ accesses es := List.mem_filter.2 ⟨he, haccess⟩
      rw [haccesses] at hmem
      cases hmem
    constructor
    · rw [haccesses]
      exact Nat.zero_le 1
    · rw [haccesses]
      rfl
    · exact fun key value lifetime hset => (hmem _ hset rfl).elim
    · exact fun url hurl => absurd hurl not_redirect_map
    · constructor
      · rintro ⟨key, value, htake⟩
        exact (hmem _ htake rfl).elim
      · rintro ⟨d, hd, hredirects⟩
        rw [← (hadmitted.unique hd).1, direct] at hredirects
        cases hredirects
    · exact fun h => absurd haccesses h

/-- Apart from accesses to the cache, a call is the progress of a second leg, if it is anything. -/
theorem progress_of_leg
    (h : Leg engine config request w.clock w.cache w.replies es result after) :
    ∃ first cs ms, es = first ++ deedsOfAll cs ms ∧ (∀ e ∈ first, e.isAccess = true) ∧
      ((cs = [] ∧ ms = [] ∧ ∀ user, result ≠ .ok (.user user)) ∨
        ∃ c found, Admitted config request c .completing ∧ result = found.map .user ∧
          Progress engine.mapper c request w.replies cs ms found ∧
          (c.usesRedirect = true → cs ≠ [] → ∃ pending,
            stateCheck request (shown w.cache w.clock c request) = .ok pending)) := by
  cases h with
  | unopened failure hinitiating =>
    exact ⟨[], [], [], rfl, by simp, .inl ⟨rfl, rfl, by simp⟩⟩
  | unstored starts hset =>
    exact ⟨[_], [], [], rfl, by simp [storing, Event.isAccess], .inl ⟨rfl, rfl, by simp⟩⟩
  | @stored c state challenge stored after starts hset =>
    refine ⟨[_], [], [], rfl, by simp [storing, Event.isAccess], .inl ⟨rfl, rfl, ?_⟩⟩
    exact fun user => not_user_map
  | @returned c es found admitted completing redirects course =>
    obtain ⟨cs, ms, hes, hprogress⟩ := progress_of_course course
    refine ⟨[_], cs, ms, by rw [hes]; rfl, by simp [Event.isAccess], .inr ⟨c, found,
      admitted_iff.2 ⟨admitted, completing⟩, rfl, hprogress, ?_⟩⟩
    intro _ hcs
    apply stateCheck_of_course redirects course
    intro hnil
    apply hcs
    rw [← calls_deedsOfAll cs ms, ← hes, hnil]
    rfl
  | @direct c es found admitted completing direct course =>
    obtain ⟨cs, ms, hes, hprogress⟩ := progress_of_course course
    refine ⟨[], cs, ms, by rw [hes]; rfl, by simp, .inr ⟨c, found,
      admitted_iff.2 ⟨admitted, completing⟩, rfl, hprogress, ?_⟩⟩
    intro hredirects
    rw [direct] at hredirects
    cases hredirects

theorem filterMap_of_isAccess {α : Type} {f : Event → Option α}
    (hf : ∀ e : Event, e.isAccess = true → f e = none) {first : List Event}
    (h : ∀ e ∈ first, e.isAccess = true) : first.filterMap f = [] :=
  List.filterMap_eq_nil_iff.2 fun e he => hf e (h e he)

theorem calls_of_isAccess {first : List Event} (h : ∀ e ∈ first, e.isAccess = true) :
    calls first = [] :=
  filterMap_of_isAccess (fun e he => by cases e <;> simp_all [Event.isAccess, Event.call?]) h

theorem requests_of_isAccess {first : List Event} (h : ∀ e ∈ first, e.isAccess = true) :
    requests first = [] :=
  filterMap_of_isAccess (fun e he => by cases e <;> simp_all [Event.isAccess, Event.request?]) h

theorem mappings_of_isAccess {first : List Event} (h : ∀ e ∈ first, e.isAccess = true) :
    mappings first = [] :=
  filterMap_of_isAccess (fun e he => by cases e <;> simp_all [Event.isAccess, Event.mapping?]) h

theorem accesses_of_isAccess {first : List Event} (h : ∀ e ∈ first, e.isAccess = true) :
    accesses first = first :=
  List.filter_eq_self.2 h

/-- A request that goes out for permitted calls asks for a token or carries the one obtained. -/
theorem wire_of_traffic {c : OAuthConfig} {cs : List Call}
    (h : Traffic c request w.replies cs) {r : WireRequest}
    (hr : r ∈ cs.filterMap Call.request?) :
    ∃ call ∈ cs, call.request? = some r ∧
      ((∃ form, call.PostsForm c.tokenUrl form ∧ r.method = "POST") ∨
        ∃ token, Obtained c request w.replies token ∧
          call.GetsAsBearer c.userInfoUrl token.accessToken ∧ r.method = "GET" ∧
          CarriesToken c.userInfoUrl token.accessToken r) := by
  obtain ⟨call, hcall, hrequest⟩ := List.mem_filterMap.1 hr
  refine ⟨call, hcall, hrequest, ?_⟩
  have hasked {form : Record} (hposts : call.PostsForm c.tokenUrl form) :
      ∃ form, call.PostsForm c.tokenUrl form ∧ r.method = "POST" :=
    ⟨form, hposts, method_of_postsForm hposts hrequest⟩
  have hfetched {token : AccessToken} (hobtained : Obtained c request w.replies token)
      (hgets : call.GetsAsBearer c.userInfoUrl token.accessToken) :
      ∃ token, Obtained c request w.replies token ∧
        call.GetsAsBearer c.userInfoUrl token.accessToken ∧ r.method = "GET" ∧
        CarriesToken c.userInfoUrl token.accessToken r :=
    ⟨token, hobtained, hgets, method_of_getsAsBearer hgets hrequest,
      carriesToken_of_getsAsBearer hgets hrequest⟩
  cases h with
  | silent => cases hcall
  | asked direct posts =>
    obtain rfl := List.mem_singleton.1 hcall
    exact .inl (hasked posts)
  | @fetched ask fetch form token direct posts yields gets =>
    rcases List.mem_cons.1 hcall with rfl | hcall
    · exact .inl (hasked posts)
    · obtain rfl := List.mem_singleton.1 hcall
      refine .inr (hfetched ?_ gets)
      rw [Obtained, if_neg direct]
      exact ⟨ask, form, posts, yields⟩
  | carried implicit carries gets =>
    obtain rfl := List.mem_singleton.1 hcall
    refine .inr (hfetched ?_ gets)
    rwa [Obtained, if_pos implicit]

theorem callDiscipline_of_leg
    (h : Leg engine config request w.clock w.cache w.replies es result after) :
    CallDiscipline config request w es := by
  obtain ⟨first, cs, ms, rfl, hfirst, hrest⟩ := progress_of_leg h
  have hcalls : calls (first ++ deedsOfAll cs ms) = cs := by
    rw [calls_append, calls_of_isAccess hfirst, calls_deedsOfAll, List.nil_append]
  have hrequests : requests (first ++ deedsOfAll cs ms) = cs.filterMap Call.request? := by
    rw [requests_append, requests_of_isAccess hfirst, requests_deedsOfAll, List.nil_append]
  rcases hrest with ⟨rfl, rfl, -⟩ | ⟨c, found, hadmitted, -, hprogress, hchecked⟩
  · exact ⟨.inl hcalls, by rw [hcalls, hrequests], by simp [hrequests], by simp [hcalls]⟩
  · have htraffic := traffic_of_progress hprogress
    constructor
    · exact .inr ⟨c, hadmitted, by rwa [hcalls]⟩
    · rw [hcalls, hrequests]
    · rw [hrequests, hcalls]
      exact fun r hr => ⟨c, hadmitted, wire_of_traffic htraffic hr⟩
    · rw [hcalls]
      intro d hd hredirects hcs
      obtain ⟨rfl, -⟩ := hadmitted.unique hd
      exact hchecked hredirects hcs

theorem mapperDiscipline_of_leg
    (h : Leg engine config request w.clock w.cache w.replies es result after) :
    MapperDiscipline engine config request w es result := by
  obtain ⟨first, cs, ms, rfl, hfirst, hrest⟩ := progress_of_leg h
  have hmappings : mappings (first ++ deedsOfAll cs ms) = ms := by
    rw [mappings_append, mappings_of_isAccess hfirst, mappings_deedsOfAll, List.nil_append]
  have hcalls : calls (first ++ deedsOfAll cs ms) = cs := by
    rw [calls_append, calls_of_isAccess hfirst, calls_deedsOfAll, List.nil_append]
  rcases hrest with ⟨rfl, rfl, hresult⟩ | ⟨c, found, hadmitted, rfl, hprogress, -⟩
  · exact ⟨by simp [hmappings], by simp [hmappings], by simp [hmappings, hresult]⟩
  · cases hprogress with
    | stopped traffic failure =>
      exact ⟨by simp [hmappings], by simp [hmappings], by simp [hmappings, Except.map]⟩
    | @mapped fetch claims token traffic obtained last gets answers accepted =>
      constructor
      · simp [hmappings]
      · rw [hmappings]
        intro m hm
        obtain rfl := List.mem_singleton.1 hm
        exact ⟨c, hadmitted, rfl, obtained, ⟨fetch, by rwa [hcalls], gets, answers⟩,
          not_refuses_of_refusalIn? accepted⟩
      · intro user
        rw [hmappings]
        cases hmade : engine.mapper c.platform claims token with
        | error failure => simp [userOf, Except.map, hmade]
        | ok made => cases made <;> simp [userOf, Except.map, hmade]

/-- The deeds of a leg are its access to the cache, its calls and its use of the mapper. -/
theorem order_of_leg
    (h : Leg engine config request w.clock w.cache w.replies es result after) :
    es = accesses es ++ deedsOfAll (calls es) (mappings es) := by
  obtain ⟨first, cs, ms, rfl, hfirst, -⟩ := progress_of_leg h
  rw [accesses_append, accesses_of_isAccess hfirst, accesses_deedsOfAll, calls_append,
    calls_of_isAccess hfirst, calls_deedsOfAll, mappings_append, mappings_of_isAccess hfirst,
    mappings_deedsOfAll, List.append_nil, List.nil_append, List.nil_append]

end leg

/-- One call of the engine keeps the rules, whatever it is called with and whatever is answered. -/
theorem authenticate_disciplined (engine : Engine) (config : AnyConfig) (request : Request)
    (w : World) :
    Disciplined engine config request w
      (deeds ((authenticate engine config request).runIn { w with journal := [] }).2.journal)
      ((authenticate engine config request).runIn { w with journal := [] }).1
      ((authenticate engine config request).runIn { w with journal := [] }).2.cache := by
  obtain ⟨result, events, rest, random, after, hrun, hleg⟩ :=
    leg_authenticate engine config request { w with journal := [] }
  rw [hrun]
  exact ⟨cacheDiscipline_of_leg hleg, callDiscipline_of_leg hleg, mapperDiscipline_of_leg hleg,
    order_of_leg hleg⟩

/-- A client whose userinfo address names a user and a password. -/
def credentialsConfig : OAuthConfig where
  platform := "acme"
  clientId := some "app"
  clientSecret := none
  authorizationUrl := none
  tokenUrl := some "https://h/t"
  userInfoUrl := some "https://u:p@h/i"
  callbackUrl := none
  scopes := []
  grantType := .clientCredentials
  responseType := .code
  enablePkce := false
  challengeMethod := .s256
  state := none
  verifierTimeout := none
  username := none
  password := none

/-- A provider that answers with a token and then with claims. -/
def credentialsWorld : World where
  clock := 0
  random := ⟨fun _ => 0, 0⟩
  cache := ExpiringCache.empty
  replies :=
    [.answer ⟨200, none, "\x7b\"access_token\":\"t0ken\"\x7d".toUTF8.toList⟩,
      .answer ⟨200, none, "\x7b\"sub\":\"u1\"\x7d".toUTF8.toList⟩]
  journal := []

/-- An engine that takes a user from the claim `sub`. -/
def claimEngine : Engine :=
  ⟨⟨⟨600, by decide⟩, 32, .memory, [], [], true, [], .text⟩, Mapper.byClaim "sub"⟩

/-- Not every request for the claims carries the access token. -/
theorem not_always_bearer :
    ¬ ∀ (engine : Engine) (c : OAuthConfig) (request : Request) (w : World),
      ∀ r ∈ requests
        ((authenticate engine (.oauth c) request).runIn { w with journal := [] }).2.journal,
        r.method = "GET" → ∃ token, Obtained c request w.replies token ∧
          r.authorization = some (("Bearer " : Text) ++ token.accessToken) := by
  intro h
  obtain ⟨token, -, htoken⟩ := h claimEngine credentialsConfig ⟨[], none⟩ credentialsWorld
    ⟨"GET", "https://u:p@h/i", none, some "Basic dTpw", []⟩
    (List.mem_of_getElem? (i := 1) (by decide +kernel)) rfl
  have hstart : some (CodePoint.ofChar 'a') = some (CodePoint.ofChar 'e') :=
    congrArg (fun t => t.bind fun t => t[1]?) htoken
  exact absurd hstart (by decide)

end OAuth

end SignIn
