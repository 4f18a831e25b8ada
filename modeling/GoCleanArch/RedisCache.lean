import GoCleanArch.RedisServer

/-!
`RedisCache` of pkg/cache/redis_cache.go over the server model, with go-redis's
encoding of durations: `formatMs` and `formatSec` truncate toward zero and send
at least 1 for a positive duration under the unit; `usePrecise` picks PX over EX.
`Increment` is a pipeline, not a transaction: `incrementCommands` lists its two
commands, which the server may interleave with other clients' commands, and
`increment` runs them back to back. `Exec` reports the first failed command.
-/

namespace GoCleanArch

structure RedisCache where
  server : RedisServer
  config : Config

namespace RedisCache

def formatMs (dur : Int) : Int :=
  if 0 < dur ∧ dur < millisecond then 1 else dur.tdiv millisecond

def formatSec (dur : Int) : Int :=
  if 0 < dur ∧ dur < second then 1 else dur.tdiv second

def usePrecise (dur : Int) : Bool := decide (dur < second) || decide (dur.tmod second ≠ 0)

-- `redis.KeepTTL`
def keepTTL : Int := -1

-- The expiry arguments of go-redis `Set(ctx, key, value, expiration)`.
def setExpiry (expiration : Int) : RedisServer.SetExpiry :=
  if 0 < expiration then
    if usePrecise expiration then .px (formatMs expiration) else .ex (formatSec expiration)
  else if expiration = keepTTL then .keepTTL
  else .none

def withServer (r : RedisCache) (server : RedisServer) : RedisCache := { r with server := server }

def get (r : RedisCache) (key : String) (now : Int) : Except CacheError Bytes :=
  match r.server.get key now with
  | .error e => .error (.operation "get" key e)
  | .ok none => .error .keyNotFound
  | .ok (some bytes) => .ok bytes

def set (r : RedisCache) (key : String) (value : Bytes) (ttl now : Int) :
    Except CacheError Unit × RedisCache :=
  let ttl := if ttl = 0 then r.config.defaultTTL else ttl
  match r.server.set key value (setExpiry ttl) false now with
  | (.error e, server) => (.error (.operation "set" key e), r.withServer server)
  | (.ok _, server) => (.ok (), r.withServer server)

def delete (r : RedisCache) (key : String) (now : Int) : RedisCache :=
  r.withServer (r.server.del key now).2

def existsKey (r : RedisCache) (key : String) (now : Int) : Bool :=
  decide (0 < r.server.existsCount key now)

-- `GetKeys`: KEYS's reply. Its error branch wraps a failed connection, which the
-- model leaves out.
def getKeys (r : RedisCache) (pattern : String) (now : Int) : List String :=
  r.server.keys pattern now

-- The seconds of the pipelined EXPIRE, if `Increment` sends one.
def incrementExpiry (r : RedisCache) (ttl : Int) : Option Int :=
  if 0 < ttl then some (formatSec ttl)
  else if ttl = 0 ∧ 0 < r.config.defaultTTL then some (formatSec r.config.defaultTTL)
  else none

-- EXPIRE as the pipeline runs it; its reply is not read.
def expireStep (key : String) (seconds : Option Int) (now : Int) (server : RedisServer) :
    RedisServer :=
  match seconds with
  | none => server
  | some seconds => (server.expire key seconds now).2

def increment (r : RedisCache) (key : String) (delta ttl now : Int) :
    Except CacheError Int × RedisCache :=
  let incr := r.server.incrBy key delta now
  let server := expireStep key (r.incrementExpiry ttl) now incr.2
  match incr.1 with
  | .error e => (.error (.operation "increment" key e), r.withServer server)
  | .ok value => (.ok value, r.withServer server)

def decrement (r : RedisCache) (key : String) (delta ttl now : Int) :
    Except CacheError Int × RedisCache :=
  r.increment key (wrap64 (-delta)) ttl now

-- go-redis `SetNX`: SETNX for 0, SET KEEPTTL NX for `KeepTTL`, else SET PX|EX NX.
def lock (r : RedisCache) (key : String) (ttl now : Int) : Except CacheError Bool × RedisCache :=
  let reply : Except String Bool × RedisServer :=
    if ttl = 0 then
      let result := r.server.setnx (lockKey key) lockedValue now
      (.ok result.1, result.2)
    else if ttl = keepTTL then r.server.set (lockKey key) lockedValue .keepTTL true now
    else r.server.set (lockKey key) lockedValue
      (if usePrecise ttl then .px (formatMs ttl) else .ex (formatSec ttl)) true now
  match reply with
  | (.error e, server) => (.error (.operation "lock" key e), r.withServer server)
  | (.ok acquired, server) => (.ok acquired, r.withServer server)

def unlock (r : RedisCache) (key : String) (now : Int) : RedisCache :=
  r.withServer (r.server.del (lockKey key) now).2

-- A `DurationCmd` of precision one second: -2 and -1 are kept as nanoseconds.
def getTTL (r : RedisCache) (key : String) (now : Int) : Except CacheError Int :=
  let reply := r.server.ttl key now
  .ok (if reply = -2 ∨ reply = -1 then reply else reply * second)

def setTTL (r : RedisCache) (key : String) (ttl now : Int) : Except CacheError Unit × RedisCache :=
  (.ok (), r.withServer (r.server.expire key (formatSec ttl) now).2)

-- SADD, then, when DefaultTTL is positive and a member was new, SCARD and EXPIRE in
-- round trips of their own. A failed SCARD skips the EXPIRE; both their errors and
-- EXPIRE's reply are dropped.
def sAdd (r : RedisCache) (key : String) (members : List Bytes) (now : Int) :
    Except CacheError Int × RedisCache :=
  match r.server.sadd key members now with
  | (.error e, server) => (.error (.operation "sadd" key e), r.withServer server)
  | (.ok added, server) =>
      if 0 < r.config.defaultTTL ∧ 0 < added then
        match server.scard key now with
        | .ok size =>
            if size = added then
              (.ok added, r.withServer (server.expire key (formatSec r.config.defaultTTL) now).2)
            else (.ok added, r.withServer server)
        | .error _ => (.ok added, r.withServer server)
      else (.ok added, r.withServer server)

def sRem (r : RedisCache) (key : String) (members : List Bytes) (now : Int) :
    Except CacheError Int × RedisCache :=
  match r.server.srem key members now with
  | (.error e, server) => (.error (.operation "srem" key e), r.withServer server)
  | (.ok removed, server) => (.ok removed, r.withServer server)

def sMembers (r : RedisCache) (key : String) (now : Int) : Except CacheError (List Bytes) :=
  match r.server.smembers key now with
  | .error e => .error (.operation "smembers" key e)
  | .ok listed => .ok listed

def sIsMember (r : RedisCache) (key : String) (member : Bytes) (now : Int) :
    Except CacheError Bool :=
  match r.server.sismember key member now with
  | .error e => .error (.operation "sismember" key e)
  | .ok found => .ok found

def sCard (r : RedisCache) (key : String) (now : Int) : Except CacheError Int :=
  match r.server.scard key now with
  | .error e => .error (.operation "scard" key e)
  | .ok size => .ok size

/-! ### Lemmas -/

@[simp] theorem withServer_server (r : RedisCache) (server : RedisServer) :
    (r.withServer server).server = server := rfl

@[simp] theorem withServer_config (r : RedisCache) (server : RedisServer) :
    (r.withServer server).config = r.config := rfl

@[simp] theorem withServer_self (r : RedisCache) : r.withServer r.server = r := rfl

theorem formatSec_pos {dur : Int} (positive : 0 < dur) : 0 < formatSec dur := by
  unfold formatSec
  split
  · decide
  · rw [Int.tdiv_eq_ediv positive.le (by decide)]
    simp only [second] at *
    omega

theorem formatMs_pos {dur : Int} (positive : 0 < dur) : 0 < formatMs dur := by
  unfold formatMs
  split
  · decide
  · rw [Int.tdiv_eq_ediv positive.le (by decide)]
    simp only [millisecond] at *
    omega

theorem incrementExpiry_of_pos (r : RedisCache) {ttl : Int} (positive : 0 < ttl) :
    r.incrementExpiry ttl = some (formatSec ttl) := by
  simp [incrementExpiry, positive]

theorem increment_server (r : RedisCache) (key : String) (delta ttl now : Int) :
    (r.increment key delta ttl now).2.server =
      expireStep key (r.incrementExpiry ttl) now (r.server.incrBy key delta now).2 := by
  simp only [increment]
  split <;> rfl

-- With a positive ttl the pipeline leaves the key live until its EXPIRE's deadline,
-- whatever the key held before.
theorem increment_deadline (r : RedisCache) (key : String) {delta ttl : Int} (now : Int)
    (range : InInt64 delta) (positive : 0 < ttl) :
    ((r.increment key delta ttl now).2.server.keyspace.lookup key).map RedisEntry.expiresAt =
      some (some (RedisServer.clockMs now + formatSec ttl * 1000)) := by
  obtain ⟨entry, live⟩ := Option.isSome_iff_exists.mp (r.server.incrBy_live key now range)
  rw [increment_server, incrementExpiry_of_pos r positive, expireStep,
    RedisServer.expire_lookup live (formatSec_pos positive)]
  rfl

@[simp] theorem sAdd_config (r : RedisCache) (key : String) (members : List Bytes) (now : Int) :
    (r.sAdd key members now).2.config = r.config := by
  unfold sAdd
  split
  · rfl
  · split
    · split
      · split <;> rfl
      · rfl
    · rfl

-- SAdd leaves what SADD wrote, or that after its EXPIRE.
theorem sAdd_server (r : RedisCache) (key : String) (members : List Bytes) (now : Int) :
    (r.sAdd key members now).2.server = (r.server.sadd key members now).2 ∨
      (r.sAdd key members now).2.server =
        ((r.server.sadd key members now).2.expire key (formatSec r.config.defaultTTL) now).2 := by
  rcases written : r.server.sadd key members now with ⟨_ | added, server⟩
  · simp [sAdd, written]
  · simp only [sAdd, written]
    split
    · split
      · split
        · exact .inr rfl
        · exact .inl rfl
      · exact .inl rfl
    · exact .inl rfl

-- SADD added members and SCARD counts just those: the EXPIRE runs.
theorem sAdd_of_count {r : RedisCache} {key : String} {members : List Bytes} {now added : Int}
    {server : RedisServer} (written : r.server.sadd key members now = (.ok added, server))
    (positive : 0 < r.config.defaultTTL) (some : 0 < added) (counted : server.scard key now = .ok added) :
    (r.sAdd key members now).2.server = (server.expire key (formatSec r.config.defaultTTL) now).2 := by
  simp [sAdd, written, positive, some, counted]

end RedisCache

end GoCleanArch
