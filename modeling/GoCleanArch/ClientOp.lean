import GoCleanArch.MemoryCache

/-!
The `cache.Client` calls of pkg/cache as data, and `MemoryCache` as a state
machine over them: `step` runs one call at the instant it takes, `run` a
sequence of calls. `SCard` is a method of `MemoryCache` outside the interface,
and `sweep` is one tick of the cleanup goroutine. Every error a `MemoryCache`
method can return is in its reply.

`Stats` reads more than the map: the `hits` and `misses` counters that `Get`,
`GetMultiple`, `HGet` and `HGetAll` bump for each key they look up, and
`len(m.data)`, which counts expired entries too. A `MemoryClient` is the cache with
its two counters, and runs `Stats` beside every call on the entries. `SetJSON` and
`GetJSON` marshal through `encoding/json`, and `Close` and `Ping` touch neither the
map nor the counters; they are left out.
-/

namespace GoCleanArch

inductive ClientOp where
  | get (key : String)
  | set (key : String) (value : Bytes) (ttl : Int)
  | delete (key : String)
  | existsKey (key : String)
  | getMultiple (keys : List String)
  | setMultiple (items : List Item)
  | deleteMultiple (keys : List String)
  | deletePattern (pattern : String)
  | getKeys (pattern : String)
  | increment (key : String) (delta ttl : Int)
  | decrement (key : String) (delta ttl : Int)
  | hGet (key field : String)
  | hSet (key field : String) (value : Bytes) (ttl : Int)
  | hGetAll (key : String)
  | hDelete (key : String) (fields : List String)
  | sAdd (key : String) (members : List Bytes)
  | sRem (key : String) (members : List Bytes)
  | sMembers (key : String)
  | sIsMember (key : String) (member : Bytes)
  | sCard (key : String)
  | lock (key : String) (ttl : Int)
  | unlock (key : String)
  | getTTL (key : String)
  | setTTL (key : String) (ttl : Int)
  | flushAll
  | sweep

-- The fields of `Stats` that depend on the cache's state: `HitRate` is computed from
-- the first two, and `Memory`, `Uptime` and `Metadata` do not read the map.
structure Stats where
  hits : Nat
  misses : Nat
  keys : Nat
  deriving DecidableEq, Repr

-- What a call returns, by the Go result types of the interface.
inductive Reply where
  | bytes (result : Except CacheError Bytes)
  | done (result : Except CacheError Unit)
  | flag (result : Bool)
  | values (result : AList (fun _ : String => Bytes))
  | keys (result : List String)
  | count (result : Except CacheError Int)
  | members (result : Except CacheError (List Bytes))
  | member (result : Except CacheError Bool)
  | stats (result : Stats)

namespace MemoryCache

def step (m : MemoryCache) (op : ClientOp) (now : Int) : Reply × MemoryCache :=
  match op with
  | .get key => (.bytes (m.get key now), m)
  | .set key value ttl => (.done (.ok ()), m.set key value ttl now)
  | .delete key => (.done (.ok ()), m.delete key)
  | .existsKey key => (.flag (m.existsKey key now), m)
  | .getMultiple keys => (.values (m.getMultiple keys now), m)
  | .setMultiple items => (.done (.ok ()), m.setMultiple items now)
  | .deleteMultiple keys => (.done (.ok ()), m.deleteMultiple keys)
  | .deletePattern pattern => (.done (.ok ()), m.deletePattern pattern)
  | .getKeys pattern => (.keys (m.getKeys pattern), m)
  | .increment key delta ttl =>
      let result := m.increment key delta ttl now
      (.count (.ok result.1), result.2)
  | .decrement key delta ttl =>
      let result := m.decrement key delta ttl now
      (.count (.ok result.1), result.2)
  | .hGet key field => (.bytes (m.hGet key field now), m)
  | .hSet key field value ttl => (.done (.ok ()), m.hSet key field value ttl now)
  | .hGetAll key => (.values (m.hGetAll key now), m)
  | .hDelete key fields => (.done (.ok ()), m.hDelete key fields)
  | .sAdd key members =>
      let result := m.sAdd key members now
      (.count result.1, result.2)
  | .sRem key members =>
      let result := m.sRem key members now
      (.count result.1, result.2)
  | .sMembers key => (.members (m.sMembers key now), m)
  | .sIsMember key member => (.member (m.sIsMember key member now), m)
  | .sCard key => (.count (m.sCard key now), m)
  | .lock key ttl =>
      let result := m.lock key ttl now
      (.flag result.1, result.2)
  | .unlock key => (.done (.ok ()), m.unlock key)
  | .getTTL key => (.count (m.getTTL key now), m)
  | .setTTL key ttl =>
      let result := m.setTTL key ttl now
      (.done result.1, result.2)
  | .flushAll => (.done (.ok ()), m.flushAll)
  | .sweep => (.done (.ok ()), m.cleanup now)

def run (m : MemoryCache) : List (ClientOp × Int) → List Reply × MemoryCache
  | [] => ([], m)
  | (op, now) :: rest =>
      let first := m.step op now
      let later := run first.2 rest
      (first.1 :: later.1, later.2)

-- The keys a call looks up through `recordHit` or `recordMiss`, in order: `HGetAll`
-- calls `Get` on every key `GetKeys` lists under its prefix, expired ones included.
def lookups (m : MemoryCache) : ClientOp → List String
  | .get key => [key]
  | .getMultiple keys => keys
  | .hGet key field => [hashKey key field]
  | .hGetAll key => (m.getKeys (key ++ "::*")).filter (hasPrefix · (key ++ "::"))
  | _ => []

end MemoryCache

inductive ClientCall where
  | op (op : ClientOp)
  | stats

structure MemoryClient where
  cache : MemoryCache
  hits : Nat
  misses : Nat

namespace MemoryClient

-- `recordHit` for a live key, `recordMiss` for an absent or expired one.
def record (c : MemoryClient) (now : Int) (key : String) : MemoryClient :=
  if (c.cache.lookupLive key now).isSome then { c with hits := c.hits + 1 }
  else { c with misses := c.misses + 1 }

def step (c : MemoryClient) (call : ClientCall) (now : Int) : Reply × MemoryClient :=
  match call with
  | .op op =>
      let counted := (c.cache.lookups op).foldl (fun c key => c.record now key) c
      let result := c.cache.step op now
      (result.1, { counted with cache := result.2 })
  | .stats => (.stats ⟨c.hits, c.misses, c.cache.data.keys.length⟩, c)

def run (c : MemoryClient) : List (ClientCall × Int) → List Reply × MemoryClient
  | [] => ([], c)
  | (call, now) :: rest =>
      let first := c.step call now
      let later := run first.2 rest
      (first.1 :: later.1, later.2)

@[simp] theorem foldl_record_cache (c : MemoryClient) (now : Int) (keys : List String) :
    (keys.foldl (fun c key => c.record now key) c).cache = c.cache := by
  induction keys generalizing c with
  | nil => rfl
  | cons key keys ih =>
      rw [List.foldl_cons, ih]
      unfold record
      split <;> rfl

theorem foldl_record_hits (c : MemoryClient) (now : Int) (keys : List String) :
    (keys.foldl (fun c key => c.record now key) c).hits =
      c.hits + (keys.filter fun key => (c.cache.lookupLive key now).isSome).length := by
  induction keys generalizing c with
  | nil => rfl
  | cons key keys ih =>
      rw [List.foldl_cons, ih, List.filter_cons]
      unfold record
      split
      · next live =>
          simp only [live, if_true, List.length_cons]
          omega
      · next dead => simp only [dead]

end MemoryClient

end GoCleanArch
