import SignIn.Cache.Expiring
import SignIn.Datum.Display
import SignIn.Log

/-!
# The cache in memory

An expiring cache by dynamic keys. Numbers are the same key when they are equal, whether they are
whole or not, and a truth value is the key of its number. Lists and records are no keys. Main
statement: a text is the key of itself.
-/

namespace SignIn

/-- What the entries of a cache are told apart by. -/
inductive CacheKey where
  | null
  | text (value : Text)
  | whole (value : Int)
  | real (value : Binary64)
  | octets (value : Octets)
deriving DecidableEq

namespace CacheKey

def ofReal (x : Binary64) : CacheKey :=
  match x.truncate? with
  | some n => if x.isWhole then .whole n else .real x
  | none => .real x

def ofDatum : Datum → Except Fault CacheKey
  | .null => .ok .null
  | .text t => .ok (.text t)
  | .bool b => .ok (.whole (if b then 1 else 0))
  | .int n => .ok (.whole n)
  | .real x => .ok (ofReal x)
  | .octets o => .ok (.octets o)
  | .list _ => .error .wrongType
  | .record _ => .error .wrongType

@[simp] theorem ofDatum_text (t : Text) : ofDatum (.text t) = .ok (.text t) := rfl

end CacheKey

abbrev MemoryCache := ExpiringCache CacheKey Datum

namespace MemoryCache

/-- Applies an operation to the entry of a key. Where there is no such key, nothing happens. -/
def atKey {α : Type} (c : MemoryCache) (key : Datum) (act : CacheKey → α × MemoryCache) :
    Except Fault α × MemoryCache :=
  match CacheKey.ofDatum key with
  | .ok k =>
    let (a, after) := act k
    (.ok a, after)
  | .error fault => (.error fault, c)

/-- Stores a value for a lifetime. Expired entries are swept out even where the key is none. -/
def store (c : MemoryCache) (now : Instant) (key value : Datum) (lifetime : Option Lifetime) :
    Except Fault Unit × MemoryCache :=
  match expiry now lifetime, CacheKey.ofDatum key with
  | .error fault, _ => (.error fault, c)
  | .ok _, .error fault => (.error fault, c.sweep now)
  | .ok expiresAt, .ok k => (.ok (), (c.sweep now).insert k ⟨value, expiresAt⟩)

/-- Reads the value of a key, null where there is none. -/
def read (c : MemoryCache) (now : Instant) (key : Datum) : Except Fault Datum × MemoryCache :=
  c.atKey key fun k =>
    let (value, after) := c.get now k
    (value.getD .null, after)

/-- Takes the value of a key out of the cache, null where there is none. -/
def takeOut (c : MemoryCache) (now : Instant) (key : Datum) : Except Fault Datum × MemoryCache :=
  c.atKey key fun k =>
    let (value, after) := c.take now k
    (value.getD .null, after)

def remove (c : MemoryCache) (key : Datum) : Except Fault Unit × MemoryCache :=
  c.atKey key fun k => ((), c.erase k)

def storedRecord (key : Datum) (lifetime : Option Lifetime) : LogRecord :=
  let seconds : Text := match lifetime with
    | none => "None"
    | some l => l.display
  .of .debug .memoryCache ["Cached key ", key.display, " (TTL: ", seconds, "s)"]

/-- Storing under a text writes the entry of that text, unless its expiry cannot be told. -/
theorem store_text (c : MemoryCache) (now : Instant) (key : Text) (value : Datum)
    (lifetime : Option Lifetime) :
    c.store now (.text key) value lifetime =
      match c.set now (.text key) value lifetime with
      | .ok after => (.ok (), after)
      | .error fault => (.error fault, c) := by
  unfold store ExpiringCache.set
  cases expiry now lifetime <;> rfl

end MemoryCache

end SignIn
