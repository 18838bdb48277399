import SignIn.Cache.Redis
import SignIn.Proofs.Cache.Operations
import SignIn.Proofs.Text.Utf8

/-!
# The cache on a server as the cache in memory

A cache on a server keeps its entries among those of others, behind its name. Mirrored in memory,
these entries answer every sequence of calls as the server does, whether it hands texts back as they
are or as octets, as long as no lifetime is over at any call. The cache in memory notes when an
entry expires, so it refuses a lifetime whose end is no moment of the clock; the server takes any.
-/

namespace SignIn

namespace RedisCache

/-! ## The cache on a server -/

/-- The cache on a server, which limits lifetimes by a clock of its own. -/
def machine (c : RedisCache) : CacheMachine RedisServer := fun _ s op =>
  match op with
  | .set key value lifetime =>
    let r := c.set s key (.text value) lifetime
    (doneAnswer r.result, r.server)
  | .get key => ((c.get s key).result, (c.get s key).server)
  | .take key => ((c.take s key).result, (c.take s key).server)
  | .delete key =>
    let r := c.delete s key
    (doneAnswer r.result, r.server)

def owns (c : RedisCache) (key : Text) : Bool := key.startsWith (c.keyPrefix ++ ":")

theorem key_eq (c : RedisCache) (key : Text) : c.key key = c.keyPrefix ++ ":" ++ key := rfl

theorem key_injective {c : RedisCache} {key other : Text} (h : c.key key = c.key other) :
    key = other := by
  rw [key_eq, key_eq] at h
  exact List.append_cancel_left h

theorem owns_key (c : RedisCache) (key : Text) : c.owns (c.key key) = true := by
  rw [owns, Text.startsWith, key_eq, Text.stripStart?_append, Option.isSome_some]

/-- The text of a value on a server, if the value is UTF-8. -/
def storedText? : Datum → Option Text
  | .text t => if Utf8.encodable t then some t else none
  | .octets o => Utf8.decode? o
  | _ => none

/-- The entries of the cache on a server, by the keys of the cache. -/
def own (c : RedisCache) (data : Record) : List (Text × Text) :=
  data.filterMap fun field =>
    (Text.stripStart? (c.keyPrefix ++ ":") field.1).bind fun key =>
      (storedText? field.2).map fun text => (key, text)

end RedisCache

/-- A cache in memory that holds some texts for good. -/
def MemoryCache.ofTexts (texts : List (Text × Text)) : MemoryCache :=
  texts.foldr (fun e cache => cache.insert (.text e.1) ⟨.text e.2, none⟩) .empty

theorem MemoryCache.find?_ofTexts (texts : List (Text × Text)) (key : Text) :
    (ofTexts texts).find? (.text key) =
      (texts.lookup key).map fun text => ⟨Datum.text text, none⟩ := by
  induction texts with
  | nil => rfl
  | cons e texts ih =>
    obtain ⟨k, text⟩ := e
    rw [ofTexts, List.foldr_cons, ExpiringCache.find?_insert]
    by_cases h : key = k
    · simp [h]
    · have hne : (key == k) = false := beq_eq_false_iff_ne.2 h
      simp only [CacheKey.text.injEq, h, if_false, List.lookup_cons, hne]
      exact ih

namespace RedisCache

/-- The cache in memory that holds the entries of the cache on a server. -/
def mirror (c : RedisCache) (data : Record) : MemoryCache := MemoryCache.ofTexts (c.own data)

/-- Where the entries of the cache are UTF-8, those under its keys are the ones of the server. -/
theorem lookup_own (c : RedisCache) {data : Record}
    (hdata : ∀ f ∈ data, c.owns f.1 = true → (storedText? f.2).isSome) (key : Text) :
    (c.own data).lookup key = (data.get? (c.key key)).bind storedText? := by
  induction data with
  | nil => rfl
  | cons f data ih =>
    obtain ⟨name, value⟩ := f
    obtain ⟨hvalue, hdata⟩ := List.forall_mem_cons.1 hdata
    specialize ih hdata
    rw [Record.get?] at ih ⊢
    by_cases hname : name = c.key key
    · obtain ⟨text, htext⟩ := Option.isSome_iff_exists.1 (hvalue (hname ▸ c.owns_key key))
      rw [own, hname, key_eq]
      simp only [List.filterMap_cons, Text.stripStart?_append, Option.bind_some, htext,
        Option.map_some, List.lookup_cons_self]
    · have hne : (c.key key == name) = false := beq_eq_false_iff_ne.2 (Ne.symm hname)
      rw [List.lookup_cons, hne, ← ih, own, List.filterMap_cons]
      cases hstrip : Text.stripStart? (c.keyPrefix ++ ":") name with
      | none => rfl
      | some k =>
        have hk : (key == k) = false := by
          rw [beq_eq_false_iff_ne]
          rintro rfl
          exact hname ((Text.eq_append_of_stripStart? hstrip).trans (c.key_eq key).symm)
        cases htext : storedText? value with
        | none => simp [own]
        | some text => simp [hk, own, List.lookup_cons]

/-! ## What the server hands back -/

/-- A client that answers in texts or in octets makes a text of a value. -/
def HandsBack (asOctets : Bool) (value : Datum) (text : Text) : Prop :=
  (value = .text text ∧ (asOctets = true → Utf8.encodable text = true)) ∨
    ∃ octets, value = .octets octets ∧ Utf8.decode? octets = some text

/-- A stored value that is UTF-8 is handed back as its text. -/
theorem handsBack_of_storedText? {value : Datum} {text : Text}
    (h : storedText? value = some text) (asOctets : Bool) : HandsBack asOctets value text := by
  cases value with
  | text t =>
    obtain ⟨hencodable, rfl⟩ : Utf8.encodable t = true ∧ t = text := by simpa [storedText?] using h
    exact .inl ⟨rfl, fun _ => hencodable⟩
  | octets o => exact .inr ⟨o, rfl, h⟩
  | null | bool | int | real | list | record => simp [storedText?] at h

/-- What is under a key is read as the text that is handed back. -/
theorem decode_fetch {s : RedisServer} {key text : Text} {value : Datum}
    (hvalue : s.data.get? key = some value) (h : HandsBack s.asOctets value text) :
    (s.fetch key).bind decode = .ok (.text text) := by
  rw [RedisServer.fetch, hvalue]
  obtain ⟨rfl, hencodable⟩ | ⟨octets, rfl, hdecode⟩ := h
  · cases hoctets : s.asOctets with
    | false => rfl
    | true =>
      have hencode := Utf8.encode?_of_encodable (hencodable hoctets)
      simp [hencode, decode, Except.bind, Utf8.decode?_of_encode? hencode]
  · simp [decode, Except.bind, hdecode]

/-- Nothing is read where nothing is stored. -/
theorem decode_fetch_none {s : RedisServer} {key : Text} (h : s.data.get? key = none) :
    (s.fetch key).bind decode = .ok .null := by
  rw [RedisServer.fetch, h]
  rfl

end RedisCache

/-! ## The entries side by side -/

/-- When a call is made, nothing that a history has stored last has expired. -/
def NoneExpired (history : List CacheCall) (now : Instant) : Prop :=
  ∀ key text expiresAt, LastStored history key text (some expiresAt) → now < expiresAt

/-- Under a key there is nothing on the server and nothing in memory, or a value on the server and
its text in memory, which expires only if it was stored to. -/
def MirroredAt (history : List CacheCall) (asOctets : Bool) (key : Text) (value : Option Datum)
    (entry : Option (CacheEntry Datum)) : Prop :=
  (value = none ∧ entry = none) ∨
    ∃ stored text expiresAt, value = some stored ∧ entry = some ⟨.text text, expiresAt⟩ ∧
      RedisCache.HandsBack asOctets stored text ∧
      ∀ t, expiresAt = some t → LastStored history key text (some t)

/-- After a history, the server and the cache in memory hold the same under every key of the
cache. -/
def Mirrors (c : RedisCache) (history : List CacheCall) (s : RedisServer) (m : MemoryCache) :
    Prop :=
  ∀ key, MirroredAt history s.asOctets key (s.data.get? (c.key key)) (m.find? (.text key))

namespace Mirrors

variable {c : RedisCache} {history : List CacheCall} {s : RedisServer} {m : MemoryCache}
  {now : Instant}

/-- At first the cache in memory holds the entries of the cache on the server. -/
theorem mirror (hdata : ∀ f ∈ s.data, c.owns f.1 = true → (RedisCache.storedText? f.2).isSome) :
    Mirrors c [] s (c.mirror s.data) := by
  intro key
  rw [RedisCache.mirror, MemoryCache.find?_ofTexts, c.lookup_own hdata]
  cases hvalue : s.data.get? (c.key key) with
  | none => exact .inl ⟨rfl, rfl⟩
  | some value =>
    obtain ⟨before, after, hsplit, -⟩ := List.lookup_eq_some_iff.1 hvalue
    obtain ⟨text, htext⟩ := Option.isSome_iff_exists.1
      (hdata (c.key key, value) (by simp [hsplit]) (c.owns_key key))
    rw [Option.bind_some, htext]
    exact .inr ⟨value, text, none, rfl, rfl, RedisCache.handsBack_of_storedText? htext _, nofun⟩

/-- While nothing has expired, every entry in memory is alive. -/
theorem filter_isLive (h : Mirrors c history s m) (hlive : NoneExpired history now) (key : Text) :
    (m.find? (.text key)).filter (CacheEntry.isLive now) = m.find? (.text key) := by
  obtain ⟨-, hentry⟩ | ⟨stored, text, expiresAt, -, hentry, -, hexpiry⟩ := h key
  · rw [hentry]
    rfl
  · rw [hentry, Option.filter_some, if_pos]
    exact CacheEntry.isLive_iff.2 fun t ht => hlive key text t (hexpiry t ht)

/-- While nothing has expired, the same is read from both. -/
theorem read_eq (h : Mirrors c history s m) (hlive : NoneExpired history now) (key : Text) :
    (s.fetch (c.key key)).bind RedisCache.decode =
      .ok ((m.lookup now (.text key)).getD .null) := by
  rw [ExpiringCache.lookup_eq_filter, h.filter_isLive hlive]
  obtain ⟨hvalue, hentry⟩ | ⟨stored, text, expiresAt, hvalue, hentry, hback, -⟩ := h key
  · rw [hentry, RedisCache.decode_fetch_none hvalue]
    rfl
  · rw [hentry, RedisCache.decode_fetch hvalue hback]
    rfl

/-- A call leaves the caches mirrored if under its key both hold the same afterwards, and under
other keys what they held. -/
theorem concat (h : Mirrors c history s m) (hlive : NoneExpired history now) {op : CacheOp}
    {s' : RedisServer} {m' : MemoryCache} (hclient : s'.asOctets = s.asOctets)
    (hsettled : ∀ key, CacheCall.Settles key ⟨now, op⟩ → MirroredAt (history ++ [⟨now, op⟩])
      s.asOctets key (s'.data.get? (c.key key)) (m'.find? (.text key)))
    (hdata : ∀ key, ¬ CacheCall.Settles key ⟨now, op⟩ →
      s'.data.get? (c.key key) = s.data.get? (c.key key))
    (hfind : ∀ key, ¬ CacheCall.Settles key ⟨now, op⟩ →
      m'.find? (.text key) = m.find? (.text key) ∨
        m'.find? (.text key) = (m.find? (.text key)).filter (CacheEntry.isLive now)) :
    Mirrors c (history ++ [⟨now, op⟩]) s' m' := by
  intro key
  rw [hclient]
  by_cases hkey : CacheCall.Settles key ⟨now, op⟩
  · exact hsettled key hkey
  · have hsame : m'.find? (.text key) = m.find? (.text key) := by
      rcases hfind key hkey with hfind | hfind
      · exact hfind
      · rw [hfind, h.filter_isLive hlive]
    rw [hdata key hkey, hsame]
    obtain hnone | ⟨stored, text, expiresAt, hvalue, hentry, hback, hexpiry⟩ := h key
    · exact .inl hnone
    · refine .inr ⟨stored, text, expiresAt, hvalue, hentry, hback, ?_⟩
      exact fun t ht => (lastStored_concat_of_not_settles hkey).2 (hexpiry t ht)

/-- Storing a value leaves the caches mirrored, if its expiry can be told and the server hands the
value back. -/
theorem set (h : Mirrors c history s m) (hlive : NoneExpired history now) {key value : Text}
    {lifetime : Option Lifetime} {expiresAt : Option Instant} {m' : MemoryCache}
    (hback : RedisCache.HandsBack s.asOctets (.text value) value)
    (expires : ExpiresAt now lifetime expiresAt)
    (hset : m.set now (.text key) (.text value) lifetime = .ok m') :
    Mirrors c (history ++ [⟨now, .set key value lifetime⟩]) (s.store (c.key key) (.text value))
      m' := by
  obtain ⟨t, ht, hfind⟩ := ExpiringCache.find?_of_set hset
  obtain rfl := Except.ok.inj ((expiresAt_iff.1 expires).symm.trans ht)
  have hother (other : Text) (hne : ¬ CacheCall.Settles other ⟨now, .set key value lifetime⟩) :
      other ≠ key := fun heq => hne ⟨heq.symm, expiresAt, expires⟩
  refine h.concat hlive rfl ?_ ?_ ?_
  · rintro other ⟨rfl, -⟩
    refine .inr ⟨.text value, value, expiresAt, ?_, ?_, hback, ?_⟩
    · rw [RedisServer.store, Record.get?_put, if_pos rfl]
    · rw [hfind, if_pos rfl]
    · rintro t rfl
      have hsettles : CacheCall.Settles key ⟨now, .set key value lifetime⟩ := ⟨rfl, some t, expires⟩
      exact (lastStored_concat_of_settles hsettles).2 ⟨lifetime, rfl, expires⟩
  · intro other hne
    rw [RedisServer.store, Record.get?_put, if_neg]
    exact fun heq => hother other hne (RedisCache.key_injective heq)
  · intro other hne
    rw [hfind, if_neg]
    · exact .inr rfl
    · exact fun heq => hother other hne (CacheKey.text.inj heq)

/-- Removing what is under a key leaves the caches mirrored. -/
theorem erase (h : Mirrors c history s m) (hlive : NoneExpired history now) {key : Text}
    {op : CacheOp} (hop : op = .take key ∨ op = .delete key) :
    Mirrors c (history ++ [⟨now, op⟩]) (s.remove (c.key key)) (m.erase (.text key)) := by
  have hsettles (other : Text) : CacheCall.Settles other ⟨now, op⟩ ↔ other = key := by
    rcases hop with rfl | rfl <;> exact eq_comm
  refine h.concat hlive rfl ?_ ?_ ?_
  · intro other hkey
    obtain rfl := (hsettles other).1 hkey
    refine .inl ⟨?_, ?_⟩
    · rw [RedisServer.remove, Record.get?_without, if_pos rfl]
    · rw [ExpiringCache.find?_erase, if_pos rfl]
  · intro other hne
    rw [RedisServer.remove, Record.get?_without, if_neg]
    exact fun heq => hne ((hsettles other).2 (RedisCache.key_injective heq))
  · intro other hne
    rw [ExpiringCache.find?_erase, if_neg]
    · exact .inl rfl
    · exact fun heq => hne ((hsettles other).2 (CacheKey.text.inj heq))

/-- Reading leaves the caches mirrored. -/
theorem get (h : Mirrors c history s m) (hlive : NoneExpired history now) (key : Text) :
    Mirrors c (history ++ [⟨now, .get key⟩]) s (m.get now (.text key)).2 := by
  refine h.concat hlive rfl (fun _ hkey => hkey.elim) (fun _ _ => rfl) ?_
  intro other _
  rw [ExpiringCache.find?_get]
  split
  · exact .inr rfl
  · exact .inl rfl

/-- Both caches answer a call in the same way and stay mirrored. -/
theorem step (h : Mirrors c history s m) (hlive : NoneExpired history now) (op : CacheOp)
    (hstores : ∀ key value lifetime, op = .set key value lifetime →
      (s.asOctets = true → Utf8.encodable value = true) ∧
        ∃ expiresAt, ExpiresAt now lifetime expiresAt) :
    (c.machine now s op).1 = (memoryMachine now m op).1 ∧
      Mirrors c (history ++ [⟨now, op⟩]) (c.machine now s op).2 (memoryMachine now m op).2 := by
  cases op with
  | set key value lifetime =>
    obtain ⟨hencodable, expiresAt, expires⟩ := hstores key value lifetime rfl
    obtain ⟨m', hset⟩ :=
      m.exists_set_of_expiry (.text key) (.text value) (expiresAt_iff.1 expires)
    simp only [memoryMachine, MemoryCache.store_text, hset]
    exact ⟨rfl, h.set hlive (.inl ⟨rfl, hencodable⟩) expires hset⟩
  | get key => exact ⟨h.read_eq hlive key, h.get hlive key⟩
  | take key => exact ⟨h.read_eq hlive key, h.erase hlive (.inl rfl)⟩
  | delete key => exact ⟨rfl, h.erase hlive (.inr rfl)⟩

end Mirrors

/-! ## The entries of others -/

/-- Writing a field changes no field under a name of another kind. -/
theorem Record.filter_put {p : Text → Bool} {name : Text} (h : p name = false) (fields : Record)
    (value : Datum) : (fields.put name value).filter (fun f => p f.1) =
      fields.filter fun f => p f.1 := by
  induction fields with
  | nil => simp [Record.put, h]
  | cons f fields ih =>
    obtain ⟨key, old⟩ := f
    by_cases hkey : key = name
    · simp [Record.put, hkey, h]
    · simp [Record.put, hkey, List.filter_cons, ih]

/-- Leaving a field out changes no field under a name of another kind. -/
theorem Record.filter_without {p : Text → Bool} {name : Text} (h : p name = false)
    (fields : Record) : (fields.without name).filter (fun f => p f.1) =
      fields.filter fun f => p f.1 := by
  rw [Record.without, List.filter_filter]
  apply List.filter_congr
  intro f _
  by_cases hname : f.1 = name
  · simp [hname, h]
  · simp [hname]

namespace RedisCache

/-- The entries on a server that are not the cache's. -/
def others (c : RedisCache) (data : Record) : Record := data.filter fun f => !c.owns f.1

theorem others_machine (c : RedisCache) (now : Instant) (s : RedisServer) (op : CacheOp) :
    c.others (c.machine now s op).2.data = c.others s.data := by
  have howns (key : Text) : (!c.owns (c.key key)) = false := by rw [c.owns_key key, Bool.not_true]
  cases op with
  | set key value lifetime =>
    exact Record.filter_put (p := fun name => !c.owns name) (howns key) s.data (.text value)
  | get key => rfl
  | take key => exact Record.filter_without (p := fun name => !c.owns name) (howns key) s.data
  | delete key => exact Record.filter_without (p := fun name => !c.owns name) (howns key) s.data

/-- Whatever is asked of the cache, the entries of others stay as they are. -/
theorem others_after (c : RedisCache) (s : RedisServer) (calls : List CacheCall) :
    c.others (c.machine.after s calls).data = c.others s.data := by
  induction calls generalizing s with
  | nil => rfl
  | cons call calls ih =>
    rw [CacheMachine.after_cons, ih, c.others_machine]

/-! ## Runs -/

/-- The entries of the cache on a server, and calls that a cache in memory can follow. -/
structure Agreeable (c : RedisCache) (data : Record) (calls : List CacheCall) : Prop where
  /-- The entries of the cache are UTF-8. -/
  utf8 : ∀ f ∈ data, c.owns f.1 = true → (storedText? f.2).isSome
  /-- Each lifetime ends at a moment of the clock, or never. -/
  told : ∀ call ∈ calls, ∀ key value lifetime, call.op = .set key value lifetime →
    ∃ expiresAt, ExpiresAt call.now lifetime expiresAt
  /-- No lifetime is over when a call is made. -/
  alive : ∀ before call rest, calls = before ++ call :: rest → NoneExpired before call.now

def StoresUtf8 (calls : List CacheCall) : Prop :=
  ∀ call ∈ calls, ∀ key value lifetime, call.op = .set key value lifetime →
    Utf8.encodable value = true

@[simp] theorem machine_asOctets (c : RedisCache) (now : Instant) (s : RedisServer) (op : CacheOp) :
    (c.machine now s op).2.asOctets = s.asOctets := by
  cases op <;> rfl

/-- Whether a client answers in texts or in octets, the cache on a server answers as the cache in
memory that holds its entries, and it leaves the entries of others as they are. -/
theorem server_answers_as_memory {c : RedisCache} {s : RedisServer} {calls : List CacheCall}
    (h : c.Agreeable s.data calls) (asOctets : Bool)
    (hvalues : asOctets = true → StoresUtf8 calls) :
    c.machine.answers { s with asOctets := asOctets } calls =
        memoryMachine.answers (c.mirror s.data) calls ∧
      c.others (c.machine.after { s with asOctets := asOctets } calls).data = c.others s.data := by
  refine ⟨?_, c.others_after _ calls⟩
  apply CacheMachine.answers_eq_of_related fun before t m =>
    t.asOctets = asOctets ∧ Mirrors c before t m
  · exact ⟨rfl, Mirrors.mirror (s := { s with asOctets := asOctets }) h.utf8⟩
  · intro before call rest hcalls t m ⟨hclient, hmirrors⟩
    have hmem : call ∈ calls := by simp [hcalls]
    obtain ⟨hanswer, hkept⟩ := hmirrors.step (h.alive before call rest hcalls) call.op
      fun key value lifetime hop =>
        ⟨fun hoctets => hvalues (hclient ▸ hoctets) call hmem key value lifetime hop,
          h.told call hmem key value lifetime hop⟩
    exact ⟨hanswer, (c.machine_asOctets call.now t call.op).trans hclient, hkept⟩

/-- Nothing expires while calls are made if each comes before everything that is stored expires. -/
theorem noneExpired_of_forall {calls : List CacheCall}
    (h : ∀ c ∈ calls, ∀ key value lifetime t, c.op = .set key value lifetime →
      ExpiresAt c.now lifetime (some t) → ∀ d ∈ calls, d.now < t)
    {before rest : List CacheCall} {call : CacheCall} (hcalls : calls = before ++ call :: rest) :
    NoneExpired before call.now := by
  rintro key text t ⟨first, now, lifetime, since, hbefore, expires, -⟩
  refine h ⟨now, .set key text lifetime⟩ ?_ key text lifetime t rfl expires call ?_
  · simp [hcalls, hbefore]
  · simp [hcalls]

/-- A server with an entry of a cache, in octets, and an entry of another. -/
def sharedServer : RedisServer where
  data := [("app:k", .octets [0x76]), ("apps:k", .text "x")]
  asOctets := false
  ping := .value .null

/-- A value is taken, another is stored in its place for ten seconds and read in time. -/
def timelyCalls : List CacheCall :=
  [⟨0, .take "k"⟩, ⟨1, .set "k" "w" (some (.whole 10))⟩, ⟨2, .get "k"⟩, ⟨3, .delete "j"⟩]

theorem expiresAt_timelyCalls :
    ∃ t : Instant, 3 < t ∧ ∀ expiresAt, ExpiresAt 1 (some (.whole 10)) expiresAt ↔
      expiresAt = some t := by
  let ten : Instant := 10 * Binary64.one
  have htold : (expiry 1 (some (.whole 10))).toOption = some (some ten) := by decide +kernel
  refine ⟨ten, by decide +kernel, fun expiresAt => ?_⟩
  rw [expiresAt_iff]
  generalize expiry 1 (some (.whole 10)) = told at htold ⊢
  cases told with
  | error fault => cases htold
  | ok moment =>
    obtain rfl := Option.some.inj htold
    rw [Except.ok.injEq, eq_comm]

theorem agreeable_timelyCalls : Agreeable ⟨"app"⟩ sharedServer.data timelyCalls where
  utf8 := by decide +kernel
  told := by
    obtain ⟨t, -, hexpires⟩ := expiresAt_timelyCalls
    simp [timelyCalls, hexpires]
  alive := by
    intro before call rest hcalls
    refine noneExpired_of_forall ?_ hcalls
    obtain ⟨t, ht, hexpires⟩ := expiresAt_timelyCalls
    have hlater (now : Instant) (hnow : now ≤ 3) : now < t := Int.lt_of_le_of_lt hnow ht
    simp only [timelyCalls, List.mem_cons, List.not_mem_nil, or_false, forall_eq_or_imp, forall_eq,
      reduceCtorEq, false_implies, implies_true, CacheOp.set.injEq, and_imp, and_true, true_and]
    rintro key value lifetime expiresAt rfl rfl rfl expires
    obtain rfl := Option.some.inj ((hexpires _).1 expires)
    exact ⟨hlater 0 (by decide), hlater 1 (by decide), hlater 2 (by decide), ht⟩

theorem sharedServer_answers_as_memory :
    Agreeable ⟨"app"⟩ sharedServer.data timelyCalls ∧ StoresUtf8 timelyCalls ∧
      (machine ⟨"app"⟩).answers { sharedServer with asOctets := true } timelyCalls =
        memoryMachine.answers (mirror ⟨"app"⟩ sharedServer.data) timelyCalls ∧
      (memoryMachine.answers (mirror ⟨"app"⟩ sharedServer.data) timelyCalls).map
          (fun answer => answer.toOption.map Datum.text?) =
        [some (some ("v" : Text)), some none, some (some ("w" : Text)), some none] ∧
      others ⟨"app"⟩ ((machine ⟨"app"⟩).after { sharedServer with asOctets := true }
        timelyCalls).data = [(("apps:k" : Text), Datum.text "x")] := by
  have hvalues : StoresUtf8 timelyCalls := by
    simp [StoresUtf8, timelyCalls]
    decide +kernel
  obtain ⟨hanswers, hothers⟩ :=
    server_answers_as_memory agreeable_timelyCalls true fun _ => hvalues
  exact ⟨agreeable_timelyCalls, hvalues, hanswers, by decide +kernel, hothers⟩

/-- Ten to the four hundredth seconds, which lead beyond every moment of the clock. -/
def endlessSeconds : Int := Int.ofNat (Nat.pow 10 400)

/-- A value is stored for more seconds than the clock can tell, and read. -/
def endlessCalls : List CacheCall :=
  [⟨0, .set "k" "v" (some (.whole endlessSeconds))⟩, ⟨1, .get "k"⟩]

/-- A lifetime that leads beyond every moment of the clock is taken by the server and refused in
memory. -/
theorem endlessCalls_answered_otherwise :
    (∀ call ∈ endlessCalls, ∀ key value lifetime, call.op = .set key value lifetime →
      ∃ seconds, 0 < seconds ∧ lifetime = some (.whole seconds)) ∧
    StoresUtf8 endlessCalls ∧
    (∀ before call rest, endlessCalls = before ++ call :: rest → NoneExpired before call.now) ∧
    (machine ⟨"app"⟩).answers ⟨[], false, .value .null⟩ endlessCalls ≠
      memoryMachine.answers (mirror ⟨"app"⟩ []) endlessCalls := by
  refine ⟨?_, ?_, ?_, ?_⟩
  · have hpositive : 0 < endlessSeconds := by decide +kernel
    simpa [endlessCalls] using hpositive
  · simp [StoresUtf8, endlessCalls]
    decide +kernel
  · intro before call rest hcalls
    have htold : (expiry 0 (some (.whole endlessSeconds))).toOption = none := by decide +kernel
    refine noneExpired_of_forall ?_ hcalls
    simp only [endlessCalls, List.mem_cons, List.not_mem_nil, or_false, forall_eq_or_imp, forall_eq,
      CacheOp.set.injEq, and_imp, reduceCtorEq, false_implies, implies_true, and_true]
    rintro key value lifetime t rfl rfl rfl expires
    rw [expiresAt_iff.1 expires] at htold
    cases htold
  · intro heq
    have htexts := congrArg (List.map fun answer => answer.toOption.map Datum.text?) heq
    revert htexts
    decide +kernel

end RedisCache

end SignIn
