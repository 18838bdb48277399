import SignIn.Cache.Memory
import SignIn.Http.Exchange
import SignIn.Identity
import SignIn.Random

/-!
# The world of an OAuth engine

An engine reads a clock, draws random octets, keeps pending logins in a cache and talks to a
provider. All of this is a value, and so is the journal of what the engine has done, in order. An
action reads and changes the world and may fail; what it did before it failed stays done.
-/

namespace SignIn

namespace OAuth

inductive Event where
  | logged (record : LogRecord)
  /-- A value was handed to the cache, which may still fail to store it. -/
  | cacheSet (key value : Datum) (lifetime : Option Lifetime)
  /-- A value was read, null where there was none. -/
  | cacheGet (key result : Datum)
  /-- A value was taken out, null where there was none. -/
  | cacheTake (key result : Datum)
  | cacheDelete (key : Text)
  /-- A call was handed to the client. -/
  | called (call : Call)
  /-- A request went out. -/
  | sent (request : WireRequest)
  /-- Claims were handed to the mapper. -/
  | mapped (platform : Text) (claims : Record) (token : AccessToken)

/-- The state of everything that an engine depends on. -/
structure World where
  clock : Instant
  random : RandomStream
  cache : MemoryCache
  /-- What the provider is going to answer; when nothing is left, it knows no resource. -/
  replies : List Reply
  journal : List Event

/-- A step that reads and changes the world and may fail. -/
abbrev Action (α : Type) := ExceptT Failure (StateM World) α

namespace Action

def note (e : Event) : Action Unit := modify fun w => { w with journal := w.journal ++ [e] }

def log (severity : Severity) (source : LogSource) (parts : List Text) : Action Unit :=
  note (.logged (.of severity source parts))

def logAll : List LogRecord → Action Unit
  | [] => pure ()
  | r :: rest => do
    note (.logged r)
    logAll rest

def fail {α : Type} (error : AuthError) : Action α := throw (.auth error)

def faulty {α : Type} (fault : Fault) : Action α := throw (.fault fault)

def ofFault {α : Type} : Except Fault α → Action α
  | .ok a => pure a
  | .error fault => faulty fault

def ofExcept {α : Type} : Except Failure α → Action α
  | .ok a => pure a
  | .error failure => throw failure

def draw {α : Type} (f : RandomStream → α × RandomStream) : Action α := do
  let w ← get
  let (a, random) := f w.random
  set { w with random := random }
  return a

def onCache {α : Type} (act : Instant → MemoryCache → Except Fault α × MemoryCache) : Action α := do
  let w ← get
  let (result, cache) := act w.clock w.cache
  set { w with cache := cache }
  ofFault result

def cacheSet (key value : Datum) (lifetime : Option Lifetime) : Action Unit := do
  note (.cacheSet key value lifetime)
  onCache fun now cache => cache.store now key value lifetime
  note (.logged (MemoryCache.storedRecord key lifetime))

def cacheGet (key : Datum) : Action Datum := do
  let value ← onCache fun now cache => cache.read now key
  note (.cacheGet key value)
  return value

def cacheTake (key : Datum) : Action Datum := do
  let value ← onCache fun now cache => cache.takeOut now key
  note (.cacheTake key value)
  return value

def cacheDelete (key : Text) : Action Unit := do
  onCache fun _ cache => cache.remove (.text key)
  note (.cacheDelete key)

def setClock (now : Instant) : Action Unit := modify fun w => { w with clock := now }

def nextReply : Action Reply := do
  let w ← get
  match w.replies with
  | [] => return .answer Answer.notFound
  | reply :: rest =>
    set { w with replies := rest }
    return reply

def runIn {α : Type} (action : Action α) (w : World) : Except Failure α × World :=
  (ExceptT.run action).run w

end Action

end OAuth

end SignIn
