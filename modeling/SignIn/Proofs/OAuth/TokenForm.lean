import SignIn.Proofs.OAuth.Parameters
import SignIn.Proofs.OAuth.Runs

/-!
# What a token request says

A token is requested for the configured grant, with the fields of the grant, or for a refresh token.
Either way the body of the request says each field once, in its place and with its own value, and
bodies that say different fields are different.
-/

namespace SignIn

namespace Record

/-- A field with a new name comes last. -/
theorem put_of_notMem {fields : Record} {name : Text} (h : name ∉ fields.map Prod.fst)
    (value : Datum) : fields.put name value = fields ++ [(name, value)] := by
  induction fields with
  | nil => rfl
  | cons f fields ih =>
    obtain ⟨key, old⟩ := f
    obtain ⟨hkey, hrest⟩ : name ≠ key ∧ name ∉ fields.map Prod.fst := by simpa using h
    rw [Record.put, if_neg hkey.symm, ih hrest, List.cons_append]

end Record

namespace OAuth

/-! ## Drafts of forms -/

/-- Fields with new names that differ come after the others, in order. -/
theorem putAll_of_nodup {form fields : Record} (h : ((form ++ fields).map Prod.fst).Nodup) :
    putAll form fields = form ++ fields := by
  induction fields generalizing form with
  | nil => exact (List.append_nil form).symm
  | cons f fields ih =>
    have hnew : f.1 ∉ form.map Prod.fst := by
      rw [List.map_append, List.nodup_append] at h
      exact fun hmem => h.2.2 f.1 hmem f.1 List.mem_cons_self rfl
    have hput : putAll form (f :: fields) = putAll (form ++ [f]) fields :=
      congrArg (putAll · fields) (Record.put_of_notMem hnew f.2)
    rw [List.append_cons] at h ⊢
    rw [hput, ih h]

/-- A record drafts a table: it has no names but those of the table, in order, and its filled fields
are those of the table that have a value. -/
structure Drafts (table : Form.Table) (draft : Record) : Prop where
  names_sublist : (draft.map Prod.fst).Sublist (table.map fun e => Text.ofString e.1)
  ofRecord_filled : Form.ofRecord (filled draft) = Form.present table

/-- A table as a record, with null for what has no value. -/
def draftOf (table : Form.Table) : Record :=
  table.map fun e => (Text.ofString e.1, Datum.ofText? e.2)

namespace Drafts

variable {table added : Form.Table} {draft fields : Record}

theorem append (h : Drafts table draft) (hadded : Drafts added fields) :
    Drafts (table ++ added) (draft ++ fields) where
  names_sublist := by
    rw [List.map_append, List.map_append]
    exact h.names_sublist.append hadded.names_sublist
  ofRecord_filled := by
    have hfilled : filled (draft ++ fields) = filled draft ++ filled fields :=
      List.filter_append draft fields
    have hfields : Form.ofRecord (filled draft ++ filled fields) =
        Form.ofRecord (filled draft) ++ Form.ofRecord (filled fields) := List.flatMap_append
    rw [hfilled, hfields, h.ofRecord_filled, hadded.ofRecord_filled, Form.present_append]

theorem draftOf (table : Form.Table) : Drafts table (draftOf table) := by
  induction table with
  | nil => exact ⟨.slnil, rfl⟩
  | cons e table ih =>
    have hown : Drafts [e] (OAuth.draftOf [e]) := by
      refine ⟨.refl _, ?_⟩
      obtain ⟨name, value⟩ := e
      cases value <;> rfl
    exact hown.append ih

/-- Fields that are put into a draft come after it if all names differ. -/
theorem putAll (h : Drafts table draft) (hadded : Drafts added fields)
    (hnodup : ((table ++ added).map Prod.fst).Nodup) :
    Drafts (table ++ added) (OAuth.putAll draft fields) := by
  have happend := h.append hadded
  rw [putAll_of_nodup (happend.names_sublist.nodup (Form.nodup_names hnodup))]
  exact happend

end Drafts

/-! ## The fields of a token request -/

/-- The fields that the configuration gives for its grant. -/
def grantTable (config : OAuthConfig) : Form.Table :=
  [("grant_type", some config.grantType.name),
    ("redirect_uri",
      if config.grantType = .authorizationCode then nonEmpty? config.callbackUrl else none),
    ("scope",
      if (config.grantType = .password ∨ config.grantType = .clientCredentials) ∧
        config.scopes ≠ [] then some (scopeText config.scopes) else none)]

/-- The fields that tell the provider which client asks. -/
def clientTable (config : OAuthConfig) : Form.Table :=
  [("client_id", config.clientId), ("client_secret", nonEmpty? config.clientSecret)]

theorem drafts_grantForm (config : OAuthConfig) :
    Drafts (grantTable config) (grantForm config) := by
  unfold grantTable grantForm
  cases config.grantType <;> cases nonEmpty? config.callbackUrl <;>
    by_cases hscopes : config.scopes = [] <;> constructor <;>
      simp [hscopes, filled, Form.ofRecord, Form.present, Form.scalar, Datum.display]

/-- The form of a token request has the fields of its draft and those of the client. -/
theorem Drafts.ofRecord_tokenForm {config : OAuthConfig} {table : Form.Table} {draft : Record}
    (h : Drafts table draft) (hnodup : ((table ++ clientTable config).map Prod.fst).Nodup) :
    Form.ofRecord (tokenForm config draft) = Form.present (table ++ clientTable config) := by
  -- Without a secret the form gets no field for it at all, not one that is filtered out later.
  obtain ⟨fields, hfields, hform⟩ : ∃ fields, Drafts (clientTable config) fields ∧
      tokenForm config draft = filled (OAuth.putAll draft fields) := by
    unfold clientTable tokenForm
    cases nonEmpty? config.clientSecret with
    | none =>
      refine ⟨[("client_id", Datum.ofText? config.clientId)], ⟨?_, ?_⟩, rfl⟩
      · simp
      · cases config.clientId <;> rfl
    | some secret =>
      refine ⟨_, .draftOf [("client_id", config.clientId), ("client_secret", some secret)], ?_⟩
      simp [OAuth.putAll, OAuth.draftOf, Datum.ofText?]
  rw [hform]
  exact (h.putAll hfields hnodup).ofRecord_filled

/-! ## Token requests -/

/-- What a token is requested for: the configured grant with some fields, or a refresh token. -/
inductive TokenRequest
  | grant (fields : Form.Table)
  | refresh (refreshToken : Text)

namespace TokenRequest

/-- The names of the fields that grants have of their own. -/
def grantNames : List String := ["code", "code_verifier", "username", "password"]

/-- The fields of a grant have different names, which are among those that grants have. -/
def NamesFit : TokenRequest → Prop
  | .grant fields => (fields.map Prod.fst).Nodup ∧ ∀ name ∈ fields.map Prod.fst, name ∈ grantNames
  | .refresh _ => True

def action (config : OAuthConfig) : TokenRequest → Action AccessToken
  | .grant fields => exchange config (draftOf fields)
  | .refresh refreshToken => exchangeRefresh config (.text refreshToken)

def draft (config : OAuthConfig) : TokenRequest → Record
  | .grant fields => putAll (grantForm config) (draftOf fields)
  | .refresh refreshToken => refreshForm (.text refreshToken)

/-- The fields of the request but those of the client. -/
def ownTable (config : OAuthConfig) : TokenRequest → Form.Table
  | .grant fields => grantTable config ++ fields
  | .refresh refreshToken =>
    [("grant_type", some (Text.ofString "refresh_token")), ("refresh_token", some refreshToken)]

/-- The fields of the request, with the values they shall have. -/
def table (config : OAuthConfig) (q : TokenRequest) : Form.Table :=
  q.ownTable config ++ clientTable config

variable {config : OAuthConfig} {q : TokenRequest}

theorem action_eq (config : OAuthConfig) (q : TokenRequest) :
    q.action config = requestToken config (q.draft config) := by
  cases q <;> rfl

/-- The names of a request differ. -/
theorem nodup_table (h : q.NamesFit) : ((q.table config).map Prod.fst).Nodup := by
  cases q with
  | grant fields =>
    obtain ⟨hnodup, hnames⟩ := h
    have hgrant : ∀ name ∈ ["grant_type", "redirect_uri", "scope"],
        ∀ own ∈ grantNames, name ≠ own := by decide
    have hclient : ∀ own ∈ grantNames, ∀ name ∈ ["client_id", "client_secret"], own ≠ name := by
      decide
    have hboth : ∀ name ∈ ["grant_type", "redirect_uri", "scope"],
        ∀ other ∈ ["client_id", "client_secret"], name ≠ other := by decide
    -- The names of the grant stand between those of the configuration and those of the client.
    rw [table, ownTable, List.map_append, List.map_append, List.nodup_append, List.nodup_append]
    refine ⟨⟨?_, hnodup, ?_⟩, ?_, ?_⟩
    · exact (by decide : ["grant_type", "redirect_uri", "scope"].Nodup)
    · exact fun name hname own hown => hgrant name hname own (hnames own hown)
    · exact (by decide : ["client_id", "client_secret"].Nodup)
    · intro name hname other hother
      rcases List.mem_append.1 hname with hname | hname
      · exact hboth name hname other hother
      · exact hclient name (hnames name hname) other hother
  | refresh refreshToken =>
    exact (by decide : ["grant_type", "refresh_token", "client_id", "client_secret"].Nodup)

/-- The form of a request has the fields of its table. -/
theorem ofRecord_tokenForm (h : q.NamesFit) :
    Form.ofRecord (tokenForm config (q.draft config)) = Form.present (q.table config) := by
  have hnodup : ((q.table config).map Prod.fst).Nodup := nodup_table h
  have hdrafts : Drafts (q.ownTable config) (q.draft config) := by
    cases q with
    | grant fields =>
      have hown := hnodup
      rw [table, List.map_append] at hown
      exact (drafts_grantForm config).putAll (.draftOf fields) (List.nodup_append.1 hown).1
    | refresh refreshToken =>
      exact .draftOf (ownTable config (.refresh refreshToken))
  exact hdrafts.ofRecord_tokenForm hnodup

/-- The draft of a request names its grant. -/
theorem get?_draft_grant (h : q.NamesFit) :
    ∃ grant, (q.draft config).get? "grant_type" = some (.text grant) := by
  cases q with
  | grant fields =>
    have hother : ∀ f ∈ draftOf fields, f.1 ≠ ("grant_type" : Text) := by
      intro f hf hname
      obtain ⟨e, he, rfl⟩ := List.mem_map.1 hf
      have hmem := h.2 e.1 (List.mem_map_of_mem he)
      rw [Text.ofString_inj.1 hname] at hmem
      exact absurd hmem (by decide)
    exact ⟨_, (get?_putAll hother).trans rfl⟩
  | refresh refreshToken => exact ⟨_, rfl⟩

/-! ## What goes out -/

/-- What a request leaves in an empty journal. -/
def journal (config : OAuthConfig) (q : TokenRequest) (w : World) : List Event :=
  ((q.action config).runIn { w with journal := [] }).2.journal

/-- A request makes one call, with the form of its draft. -/
theorem deeds_journal (h : q.NamesFit) (w : World) :
    deeds (q.journal config w) =
      deedsOf (tokenCall config.tokenUrl (tokenForm config (q.draft config))) := by
  obtain ⟨grant, hgrant⟩ : ∃ grant, (q.draft config).get? "grant_type" = some (.text grant) :=
    get?_draft_grant h
  obtain ⟨result, events, rest, hdeeds, hrun⟩ :=
    does_requestToken config (q.draft config) hgrant w.replies
  rw [journal, action_eq, hrun { w with journal := [] } rfl]
  exact hdeeds

/-- The bodies of the calls that a request makes; none for one that cannot be written. -/
def bodies (config : OAuthConfig) (q : TokenRequest) (w : World) : List (Option Text) :=
  (calls (q.journal config w)).map fun call => call.payload.toOption.bind Payload.body?

theorem bodies_eq (h : q.NamesFit) (w : World) :
    q.bodies config w = [Form.encode? (Form.present (q.table config))] := by
  rw [bodies, ← calls_deeds, deeds_journal h, calls_deedsOf, ← ofRecord_tokenForm h]
  rfl

/-- What goes out has the body of the call. -/
theorem body_of_sent (h : q.NamesFit) {w : World} {r : WireRequest}
    (hr : r ∈ requests (q.journal config w)) :
    Form.encode? (Form.present (q.table config)) = some r.body := by
  rw [← requests_deeds, deeds_journal h, requests_deedsOf, Option.mem_toList] at hr
  obtain ⟨_, _, _, _, payload, hmade⟩ := WireRequest.made_of_request? hr
  obtain rfl : .form _ = payload := Except.ok.inj hmade.callPayload
  rw [← ofRecord_tokenForm h]
  exact hmade.body

/-- A request whose values have a UTF-8 form posts one body. Decoding it gives the fields of the
request in order, each once and each with its own value. No request that says other fields, of
whichever client and in whichever world, posts the same body. -/
theorem tokenRequest_tells (h : q.NamesFit)
    (hencodable : ∀ e ∈ q.table config, ∀ t ∈ e.2, Utf8.encodable t = true) (w : World) :
    ∃ body fields, q.bodies config w = [some body] ∧
      (∀ r ∈ requests (q.journal config w), r.body = body) ∧
      Form.decode? body = some fields ∧ Form.Tells (q.table config) fields ∧
      ∀ (p : TokenRequest) (d : OAuthConfig) (v : World), p.NamesFit →
        p.bodies d v = [some body] → Form.present (p.table d) = fields := by
  obtain ⟨body, hbody⟩ := Form.exists_encode?_iff.2 (Form.encodable_present_iff.2 hencodable)
  have hdecode := Form.decode?_of_encode? hbody
  refine ⟨body, _, by rw [bodies_eq h, hbody], fun r hr => ?_, hdecode,
    Form.tells_present (nodup_table h), fun p d v hp hsame => ?_⟩
  · exact Option.some.inj ((body_of_sent h hr).symm.trans hbody)
  · rw [bodies_eq hp, List.singleton_inj] at hsame
    exact Option.some.inj ((Form.decode?_of_encode? hsame).symm.trans hdecode)

end TokenRequest

/-- A client whose texts are full of the signs that divide and escape fields. -/
def garbledClient : OAuthConfig :=
  { codeConfig with
    clientId := some "é&client_secret="
    clientSecret := some "%26 +=\u0000"
    callbackUrl := some "https://h/c?a=b&c" }

/-- A request for a code that looks like another field, without a verifier. -/
def garbledGrant : TokenRequest :=
  .grant [("code", some (Text.ofString "c0de&grant_type=password")), ("code_verifier", none)]

/-- The code and the client change no other field, and the verifier is left out. -/
theorem tokenRequest_tells_garbled :
    garbledGrant.NamesFit ∧
      (∀ e ∈ garbledGrant.table garbledClient, ∀ t ∈ e.2, Utf8.encodable t = true) ∧
      ∃ body fields, garbledGrant.bodies garbledClient freshWorld = [some body] ∧
        Form.decode? body = some fields ∧
        Form.valuesOf "grant_type" fields = [Text.ofString "authorization_code"] ∧
        Form.valuesOf "redirect_uri" fields = [Text.ofString "https://h/c?a=b&c"] ∧
        Form.valuesOf "code" fields = [Text.ofString "c0de&grant_type=password"] ∧
        Form.valuesOf "code_verifier" fields = [] ∧
        Form.valuesOf "client_id" fields = [Text.ofString "é&client_secret="] ∧
        Form.valuesOf "client_secret" fields = [Text.ofString "%26 +=\u0000"] := by
  have hnames : garbledGrant.NamesFit := ⟨by decide, by decide⟩
  have hencodable : ∀ e ∈ garbledGrant.table garbledClient, ∀ t ∈ e.2, Utf8.encodable t = true := by
    decide
  obtain ⟨body, fields, hbody, -, hdecode, htells, -⟩ :=
    TokenRequest.tokenRequest_tells hnames hencodable freshWorld
  have hvalue (name : String) (value : Option Text)
      (hmem : (name, value) ∈ garbledGrant.table garbledClient) :
      Form.valuesOf name fields = value.toList := htells.values_eq (name, value) hmem
  exact ⟨hnames, hencodable, body, fields, hbody, hdecode,
    hvalue "grant_type" (some _) (by decide), hvalue "redirect_uri" (some _) (by decide),
    hvalue "code" (some _) (by decide), hvalue "code_verifier" none (by decide),
    hvalue "client_id" (some _) (by decide), hvalue "client_secret" (some _) (by decide)⟩

end OAuth

end SignIn
