import SignIn.Cache.Memory
import SignIn.Proofs.Cache.Expiry

/-!
# Operations on a cache

A cache is used by a sequence of calls, each at a moment of the clock. Any kind of store can be used
in this way, and two kinds can be compared by what they answer. What a history of calls says of a
key is told by the last call that settles it: that stores a value there, takes it or deletes it.
-/

namespace SignIn

/-- What is asked of a cache. -/
inductive CacheOp where
  | set (key value : Text) (lifetime : Option Lifetime)
  | get (key : Text)
  | take (key : Text)
  | delete (key : Text)

/-- An operation that is asked for at a moment. -/
structure CacheCall where
  now : Instant
  op : CacheOp

/-- An answer: a text, null for none, or a fault. -/
abbrev CacheAnswer := Except Fault Datum

/-- How a kind of store answers an operation at a moment, and what it is afterwards. -/
abbrev CacheMachine (σ : Type) := Instant → σ → CacheOp → CacheAnswer × σ

/-! ## Sequences of calls -/

namespace CacheMachine

variable {σ τ : Type}

def after (m : CacheMachine σ) (s : σ) (calls : List CacheCall) : σ :=
  calls.foldl (fun s c => (m c.now s c.op).2) s

def answers (m : CacheMachine σ) : σ → List CacheCall → List CacheAnswer
  | _, [] => []
  | s, c :: rest => (m c.now s c.op).1 :: answers m (m c.now s c.op).2 rest

@[simp] theorem after_nil (m : CacheMachine σ) (s : σ) : m.after s [] = s := rfl

@[simp] theorem after_cons (m : CacheMachine σ) (s : σ) (c : CacheCall) (calls : List CacheCall) :
    m.after s (c :: calls) = m.after (m c.now s c.op).2 calls := rfl

theorem after_append (m : CacheMachine σ) (s : σ) (first second : List CacheCall) :
    m.after s (first ++ second) = m.after (m.after s first) second := List.foldl_append

/-- A call is answered from what the calls before it have left. -/
theorem getElem?_answers (m : CacheMachine σ) (s : σ) (before rest : List CacheCall)
    (c : CacheCall) :
    (m.answers s (before ++ c :: rest))[before.length]? =
      some (m c.now (m.after s before) c.op).1 := by
  induction before generalizing s with
  | nil => rfl
  | cons d before ih => exact ih (m d.now s d.op).2

theorem answers_concat (m : CacheMachine σ) (s : σ) (calls : List CacheCall) (c : CacheCall) :
    m.answers s (calls ++ [c]) = m.answers s calls ++ [(m c.now (m.after s calls) c.op).1] := by
  induction calls generalizing s with
  | nil => rfl
  | cons d calls ih => exact congrArg (List.cons _) (ih (m d.now s d.op).2)

/-- Two stores answer the same calls in the same way if a relation between them, which may depend on
the calls so far, makes them answer each call in the same way and is kept by it. -/
theorem answers_eq_of_related {m : CacheMachine σ} {n : CacheMachine τ}
    (related : List CacheCall → σ → τ → Prop) {calls : List CacheCall} {s : σ} {t : τ}
    (hstart : related [] s t)
    (hstep : ∀ before c rest, calls = before ++ c :: rest → ∀ s t, related before s t →
      (m c.now s c.op).1 = (n c.now t c.op).1 ∧
        related (before ++ [c]) (m c.now s c.op).2 (n c.now t c.op).2) :
    m.answers s calls = n.answers t calls := by
  have hrest (todo : List CacheCall) : ∀ before s t, calls = before ++ todo →
      related before s t → m.answers s todo = n.answers t todo := by
    induction todo with
    | nil => exact fun _ _ _ _ _ => rfl
    | cons c todo ih =>
      intro before s t hcalls hrelated
      obtain ⟨hanswer, hkept⟩ := hstep before c todo hcalls s t hrelated
      have htodo := ih (before ++ [c]) _ _ (by rw [hcalls, List.append_assoc]; rfl) hkept
      rw [answers, answers, hanswer, htodo]
  exact hrest calls [] s t rfl hstart

end CacheMachine

/-! ## The cache in memory -/

/-- The answer of an operation that has nothing to say. -/
def doneAnswer (result : Except Fault Unit) : CacheAnswer := result.map fun _ => .null

def memoryMachine : CacheMachine MemoryCache := fun now cache op =>
  match op with
  | .set key value lifetime =>
    let (done, after) := cache.store now (.text key) (.text value) lifetime
    (doneAnswer done, after)
  | .get key => cache.read now (.text key)
  | .take key => cache.takeOut now (.text key)
  | .delete key =>
    let (done, after) := cache.remove (.text key)
    (doneAnswer done, after)

/-! ## Histories -/

/-- Whether a call settles what is under a key: it takes or deletes it, or it stores a value whose
expiry can be told. -/
def CacheCall.Settles (key : Text) (c : CacheCall) : Prop :=
  match c.op with
  | .set k _ lifetime => k = key ∧ ∃ expiresAt, ExpiresAt c.now lifetime expiresAt
  | .get _ => False
  | .take k => k = key
  | .delete k => k = key

/-- The last call of a history that settles a key has stored a value there with an expiry. -/
def LastStored (history : List CacheCall) (key value : Text) (expiresAt : Option Instant) : Prop :=
  ∃ before now lifetime since, history = before ++ ⟨now, .set key value lifetime⟩ :: since ∧
    ExpiresAt now lifetime expiresAt ∧ ∀ c ∈ since, ¬ c.Settles key

section LastStored

variable {history : List CacheCall} {key value : Text} {expiresAt : Option Instant}

/-- Where a history is split at a call, either that call is the last one or the last one is in what
follows it. -/
theorem split_of_concat {c d : CacheCall} {before since : List CacheCall}
    (h : history ++ [c] = before ++ d :: since) :
    (since = [] ∧ before = history ∧ d = c) ∨
      ∃ rest, since = rest ++ [c] ∧ history = before ++ d :: rest := by
  rcases List.eq_nil_or_concat since with rfl | ⟨rest, last, rfl⟩
  · obtain ⟨rfl, hlast⟩ := List.append_inj' h rfl
    exact .inl ⟨rfl, rfl, (List.singleton_inj.1 hlast).symm⟩
  · rw [List.concat_eq_append, ← List.cons_append, ← List.append_assoc] at h
    rw [List.concat_eq_append]
    obtain ⟨rfl, hlast⟩ := List.append_inj' h rfl
    obtain rfl := List.singleton_inj.1 hlast
    exact .inr ⟨rest, rfl, rfl⟩

theorem not_lastStored_nil : ¬ LastStored [] key value expiresAt := by
  rintro ⟨before, now, lifetime, since, h, -⟩
  exact absurd h (by simp)

/-- A call that does not settle a key leaves what was last stored there. -/
theorem lastStored_concat_of_not_settles {c : CacheCall} (hc : ¬ c.Settles key) :
    LastStored (history ++ [c]) key value expiresAt ↔ LastStored history key value expiresAt := by
  constructor
  · rintro ⟨before, now, lifetime, since, h, hexpires, hsince⟩
    rcases split_of_concat h with ⟨-, -, rfl⟩ | ⟨rest, rfl, hhistory⟩
    · exact absurd ⟨rfl, expiresAt, hexpires⟩ hc
    · exact ⟨before, now, lifetime, rest, hhistory, hexpires,
        fun e he => hsince e (List.mem_append_left _ he)⟩
  · rintro ⟨before, now, lifetime, since, rfl, hexpires, hsince⟩
    refine ⟨before, now, lifetime, since ++ [c], by simp, hexpires, ?_⟩
    intro e he
    rcases List.mem_append.1 he with he | he
    · exact hsince e he
    · exact List.mem_singleton.1 he ▸ hc

/-- After a call that settles a key, what was last stored there is what the call has stored. -/
theorem lastStored_concat_of_settles {c : CacheCall} (hc : c.Settles key) :
    LastStored (history ++ [c]) key value expiresAt ↔
      ∃ lifetime, c.op = .set key value lifetime ∧ ExpiresAt c.now lifetime expiresAt := by
  constructor
  · rintro ⟨before, now, lifetime, since, h, hexpires, hsince⟩
    rcases split_of_concat h with ⟨-, -, rfl⟩ | ⟨rest, rfl, -⟩
    · exact ⟨lifetime, rfl, hexpires⟩
    · exact absurd hc (hsince c (by simp))
  · rintro ⟨lifetime, hop, hexpires⟩
    obtain ⟨now, op⟩ := c
    dsimp only at hop
    subst hop
    exact ⟨history, now, lifetime, [], rfl, hexpires, by simp⟩

end LastStored

end SignIn
