import SignIn.Datum.Basic
import SignIn.Cache.Lifetime
import SignIn.Log
import SignIn.Text.Utf8

/-!
# A cache on a Redis server

Keys are written behind a name of the cache and a colon. The server is a dictionary; it hands values
back as they are or, where it does not decode, as octets. Lifetimes are the server's business.
-/

namespace SignIn

inductive RedisCommand where
  | setex (key : Text) (lifetime : Lifetime) (value : Datum)
  | set (key : Text) (value : Datum)
  | get (key : Text)
  | delete (key : Text)
  | getdel (key : Text)
  | ping

inductive PingReply where
  | value (d : Datum)
  /-- The client reports a failure. -/
  | failure (reason : Text)
  /-- The operating system reports one. -/
  | system

/-- A server that is a dictionary. -/
structure RedisServer where
  data : Record
  /-- Whether texts are handed back as octets. -/
  asOctets : Bool
  ping : PingReply

/-- What an operation comes to: its result, the server after it, the commands and the log. -/
structure RedisResult (α : Type) where
  result : Except Fault α
  server : RedisServer
  commands : List RedisCommand
  records : List LogRecord

structure RedisCache where
  keyPrefix : Text

namespace RedisServer

/-- The value of a key as the server hands it back; a missing one is null. -/
def fetch (s : RedisServer) (key : Text) : Except Fault Datum :=
  match s.data.get? key with
  | none => .ok .null
  | some (.text t) =>
    if s.asOctets then
      match Utf8.encode? t with
      | some o => .ok (.octets o)
      | none => .error .unencodable
    else .ok (.text t)
  | some d => .ok d

def store (s : RedisServer) (key : Text) (value : Datum) : RedisServer :=
  { s with data := s.data.put key value }

def remove (s : RedisServer) (key : Text) : RedisServer := { s with data := s.data.without key }

end RedisServer

namespace RedisCache

/-- The key of the server for a key of the cache. -/
def key (c : RedisCache) (k : Text) : Text := c.keyPrefix ++ (":" : Text) ++ k

/-- A value in text: octets are decoded, anything else is as it is. -/
def decode : Datum → Except Fault Datum
  | .octets o =>
    match Utf8.decode? o with
    | some t => .ok (.text t)
    | none => .error .undecodable
  | d => .ok d

def set (c : RedisCache) (s : RedisServer) (k : Text) (value : Datum)
    (lifetime : Option Lifetime) : RedisResult Unit :=
  let command := match lifetime with
    | none => .set (c.key k) value
    | some l => if l.limits then .setex (c.key k) l value else .set (c.key k) value
  ⟨.ok (), s.store (c.key k) value, [command], []⟩

def get (c : RedisCache) (s : RedisServer) (k : Text) : RedisResult Datum :=
  ⟨(s.fetch (c.key k)).bind decode, s, [.get (c.key k)], []⟩

def delete (c : RedisCache) (s : RedisServer) (k : Text) : RedisResult Unit :=
  ⟨.ok (), s.remove (c.key k), [.delete (c.key k)], []⟩

/-- Reads and removes a value in one command. -/
def take (c : RedisCache) (s : RedisServer) (k : Text) : RedisResult Datum :=
  ⟨(s.fetch (c.key k)).bind decode, s.remove (c.key k), [.getdel (c.key k)], []⟩

def healthCheck (_ : RedisCache) (s : RedisServer) : RedisResult Bool :=
  match s.ping with
  | .value d => ⟨.ok d.truthy, s, [.ping], []⟩
  | .failure reason =>
    ⟨.ok false, s, [.ping], [.of .error .redisCache ["Redis health check failed: ", reason]]⟩
  | .system => ⟨.error .system, s, [.ping], []⟩

def configuredRecord (keyPrefix : Text) : LogRecord :=
  .of .info .redisCache ["Redis credential cache configured (prefix: ", keyPrefix, ")"]

end RedisCache

end SignIn
