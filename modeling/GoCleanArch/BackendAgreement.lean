import GoCleanArch.KeyListing

/-!
The two `cache.Client` backends side by side on the calls that both store as plain
keys: Set, Get, Delete, Exists, GetKeys, Increment, Decrement, Lock, Unlock, GetTTL
and SetTTL. `MemoryCache` keeps nanosecond deadlines and `RedisCache` millisecond
ones through go-redis's EX and PX arguments, so the two agree where every instant
and every duration is a whole number of seconds. KEYS answers in the order of
Redis's hash table and GetKeys of memory sorts, so a key list is compared once
sorted. `Mirrors` relates a memory state to the Redis keyspace holding the same
entries; from it each allowed call returns the same result on both backends and
leaves mirrored states (`backends_agree`).
-/

namespace GoCleanArch

inductive KeyCall where
  | set (key : String) (value : Bytes) (ttl : Int)
  | get (key : String)
  | delete (key : String)
  | existsKey (key : String)
  | getKeys (pattern : String)
  | increment (key : String) (delta ttl : Int)
  | decrement (key : String) (delta ttl : Int)
  | lock (key : String) (ttl : Int)
  | unlock (key : String)
  | getTTL (key : String)
  | setTTL (key : String) (ttl : Int)

-- What a call returns besides its error.
inductive CallValue where
  | none
  | bytes (value : Bytes)
  | int (value : Int)
  | bool (value : Bool)
  | keys (result : List String)
  deriving DecidableEq, Repr

-- A key list as a caller compares it: sorted, as `MemoryCache.GetKeys` returns it.
def CallValue.sortKeys : CallValue → CallValue
  | .keys result => .keys (result.insertionSort (· ≤ ·))
  | value => value

-- What a caller can tell apart: the error kind, and the value on success.
def observe (result : Except CacheError CallValue) : ErrorKind × Option CallValue :=
  (errorKind result, (result.map CallValue.sortKeys).toOption)

namespace MemoryCache

def keyStep (m : MemoryCache) (call : KeyCall) (now : Int) :
    Except CacheError CallValue × MemoryCache :=
  match call with
  | .set key value ttl => (.ok .none, m.set key value ttl now)
  | .get key => ((m.get key now).map .bytes, m)
  | .delete key => (.ok .none, m.delete key)
  | .existsKey key => (.ok (.bool (m.existsKey key now)), m)
  | .getKeys pattern => (.ok (.keys (m.getKeys pattern)), m)
  | .increment key delta ttl =>
      let result := m.increment key delta ttl now
      (.ok (.int result.1), result.2)
  | .decrement key delta ttl =>
      let result := m.decrement key delta ttl now
      (.ok (.int result.1), result.2)
  | .lock key ttl =>
      let result := m.lock key ttl now
      (.ok (.bool result.1), result.2)
  | .unlock key => (.ok .none, m.unlock key)
  | .getTTL key => ((m.getTTL key now).map .int, m)
  | .setTTL key ttl =>
      let result := m.setTTL key ttl now
      (result.1.map fun _ => .none, result.2)

def keyRun (m : MemoryCache) : List (KeyCall × Int) → List (Except CacheError CallValue) × MemoryCache
  | [] => ([], m)
  | (call, now) :: rest =>
      let first := m.keyStep call now
      let later := keyRun first.2 rest
      (first.1 :: later.1, later.2)

end MemoryCache

namespace RedisCache

def keyStep (r : RedisCache) (call : KeyCall) (now : Int) :
    Except CacheError CallValue × RedisCache :=
  match call with
  | .set key value ttl =>
      let result := r.set key value ttl now
      (result.1.map fun _ => .none, result.2)
  | .get key => ((r.get key now).map .bytes, r)
  | .delete key => (.ok .none, r.delete key now)
  | .existsKey key => (.ok (.bool (r.existsKey key now)), r)
  | .getKeys pattern => (.ok (.keys (r.getKeys pattern now)), r)
  | .increment key delta ttl =>
      let result := r.increment key delta ttl now
      (result.1.map .int, result.2)
  | .decrement key delta ttl =>
      let result := r.decrement key delta ttl now
      (result.1.map .int, result.2)
  | .lock key ttl =>
      let result := r.lock key ttl now
      (result.1.map .bool, result.2)
  | .unlock key => (.ok .none, r.unlock key now)
  | .getTTL key => ((r.getTTL key now).map .int, r)
  | .setTTL key ttl =>
      let result := r.setTTL key ttl now
      (result.1.map fun _ => .none, result.2)

def keyRun (r : RedisCache) : List (KeyCall × Int) → List (Except CacheError CallValue) × RedisCache
  | [] => ([], r)
  | (call, now) :: rest =>
      let first := r.keyStep call now
      let later := keyRun first.2 rest
      (first.1 :: later.1, later.2)

end RedisCache

/-! ### Whole seconds -/

-- A positive whole number of seconds: go-redis sends it with EX, exactly.
def wholeSeconds (d : Int) : Bool := 0 < d && d % second == 0

section WholeSeconds

variable {d now : Int}

theorem wholeSeconds_iff : wholeSeconds d = true ↔ 0 < d ∧ d % second = 0 := by
  simp [wholeSeconds]

theorem formatSec_of_wholeSeconds (whole : wholeSeconds d = true) :
    RedisCache.formatSec d = d / second := by
  rw [wholeSeconds_iff] at whole
  simp only [RedisCache.formatSec, second] at *
  rw [if_neg (by omega), Int.tdiv_eq_ediv (by omega) (by decide)]

theorem usePrecise_of_wholeSeconds (whole : wholeSeconds d = true) :
    RedisCache.usePrecise d = false := by
  rw [wholeSeconds_iff] at whole
  simp only [RedisCache.usePrecise, second] at *
  simp [Int.tmod_eq_emod (show 0 ≤ d by omega) (show (0 : Int) ≤ 1000000000 by decide), whole.2,
    show ¬ d < 1000000000 by omega]

theorem clockMs_add_wholeSeconds (aligned : now % second = 0) (whole : wholeSeconds d = true) :
    RedisServer.clockMs (now + d) = RedisServer.clockMs now + RedisCache.formatSec d * 1000 := by
  rw [formatSec_of_wholeSeconds whole]
  rw [wholeSeconds_iff] at whole
  simp only [RedisServer.clockMs, second] at *
  omega

end WholeSeconds

/-! ### Mirrored states -/

def toRedisEntry (item : MemoryItem) : RedisEntry :=
  ⟨.str item.value, item.expiresAt.map RedisServer.clockMs⟩

-- The Redis keyspace holds the memory entries, with deadlines on the second.
structure Mirrors (m : MemoryCache) (r : RedisCache) : Prop where
  config : m.config = r.config
  entries : ∀ key, r.server.keyspace.lookup key = (m.data.lookup key).map toRedisEntry
  onSecond : ∀ key item, m.data.lookup key = some item → ∀ e ∈ item.expiresAt, e % second = 0

theorem isExpired_toRedisEntry {item : MemoryItem} {now : Int} (aligned : now % second = 0)
    (onSecond : ∀ e ∈ item.expiresAt, e % second = 0) :
    RedisServer.isExpired (toRedisEntry item) now = MemoryCache.isExpired item now := by
  rcases item with ⟨value, _ | e⟩
  · rfl
  · have whole := onSecond e rfl
    simp only [toRedisEntry, RedisServer.isExpired, MemoryCache.isExpired, Option.map_some', after,
      RedisServer.clockMs, second] at *
    exact decide_eq_decide.mpr (by omega)

namespace Mirrors

variable {m : MemoryCache} {r : RedisCache} {now : Int}

theorem lookupLive (mirrors : Mirrors m r) (aligned : now % second = 0) (key : String) :
    r.server.lookupLive key now = (m.lookupLive key now).map toRedisEntry := by
  unfold RedisServer.lookupLive MemoryCache.lookupLive
  rw [mirrors.entries key]
  cases stored : m.data.lookup key with
  | none => rfl
  | some item =>
    simp only [Option.map_some', isExpired_toRedisEntry aligned (mirrors.onSecond key item stored)]
    split <;> rfl

theorem insert (mirrors : Mirrors m r) (key : String) (item : MemoryItem)
    (onSecond : ∀ e ∈ item.expiresAt, e % second = 0) :
    Mirrors (m.withData (m.data.insert key item))
      (r.withServer ⟨r.server.keyspace.insert key (toRedisEntry item)⟩) := by
  refine ⟨mirrors.config, fun k => ?_, fun k stored found => ?_⟩
  · by_cases same : k = key
    · subst same; simp
    · simp [AList.lookup_insert_ne same, mirrors.entries k]
  · by_cases same : k = key
    · subst same
      simp only [MemoryCache.withData_data, AList.lookup_insert, Option.some.injEq] at found
      exact found ▸ onSecond
    · simp only [MemoryCache.withData_data, AList.lookup_insert_ne same] at found
      exact mirrors.onSecond k stored found

theorem erase (mirrors : Mirrors m r) (key : String) :
    Mirrors (m.withData (m.data.erase key)) (r.withServer ⟨r.server.keyspace.erase key⟩) := by
  refine ⟨mirrors.config, fun k => ?_, fun k stored found => ?_⟩
  · by_cases same : k = key
    · subst same; simp
    · simp [AList.lookup_erase_ne same, mirrors.entries k]
  · by_cases same : k = key
    · subst same; simp at found
    · simp only [MemoryCache.withData_data, AList.lookup_erase_ne same] at found
      exact mirrors.onSecond k stored found

theorem withDefault (mirrors : Mirrors m r) (ttl : Int) :
    (if ttl = 0 then r.config.defaultTTL else ttl) = m.withDefault ttl := by
  rw [MemoryCache.withDefault, mirrors.config]

end Mirrors

theorem expiryAfter_onSecond {ttl now : Int} (aligned : now % second = 0)
    (whole : wholeSeconds ttl = true) : ∀ e ∈ MemoryCache.expiryAfter ttl now, e % second = 0 := by
  rw [wholeSeconds_iff] at whole
  simp only [MemoryCache.expiryAfter, if_pos whole.1, Option.mem_def, Option.some.injEq]
  rintro e rfl
  simp only [second] at *
  omega

theorem toRedisEntry_expiryAfter {value : Bytes} {ttl now : Int} (aligned : now % second = 0)
    (whole : wholeSeconds ttl = true) :
    toRedisEntry ⟨value, MemoryCache.expiryAfter ttl now⟩ =
      ⟨.str value, some (RedisServer.clockMs now + RedisCache.formatSec ttl * 1000)⟩ := by
  rw [MemoryCache.expiryAfter, if_pos ((wholeSeconds_iff.mp whole).1), toRedisEntry,
    Option.map_some', clockMs_add_wholeSeconds aligned whole]

/-! ### The calls -/

-- The counter at `key` holds an int64 as FormatInt writes it, or nothing live, and
-- adding `delta` stays in int64.
def counterFits (m : MemoryCache) (key : String) (delta now : Int) : Bool :=
  match m.lookupLive key now with
  | none => decide (InInt64 delta)
  | some item =>
    match parseInt64 item.value with
    | some n => item.value == formatInt64 n && decide (InInt64 (n + delta))
    | none => false

-- The calls on which the backends agree, read in the memory state: durations of
-- whole seconds, counters that Redis can read and add to, GetTTL and SetTTL on
-- live keys only, and GetKeys with a pattern and keys both matchers read alike and
-- no expired key stored under the pattern.
def KeyCall.allowed (m : MemoryCache) (now : Int) : KeyCall → Bool
  | .set _ _ ttl => wholeSeconds (m.withDefault ttl)
  | .getKeys pattern => plainPattern pattern && m.data.keys.all plainName &&
      (m.getKeys pattern).all fun key => (m.lookupLive key now).isSome
  | .increment key delta ttl => wholeSeconds (m.withDefault ttl) && counterFits m key delta now
  | .decrement key delta ttl =>
      wholeSeconds (m.withDefault ttl) && counterFits m key (wrap64 (-delta)) now
  | .lock _ ttl => wholeSeconds ttl
  | .getTTL key => (m.lookupLive key now).isSome
  | .setTTL key ttl => (m.lookupLive key now).isSome && wholeSeconds ttl
  | .get _ | .delete _ | .existsKey _ | .unlock _ => true

namespace Mirrors

variable {m : MemoryCache} {r : RedisCache} {now : Int}

theorem get (mirrors : Mirrors m r) (aligned : now % second = 0) (key : String) :
    r.get key now = m.get key now := by
  unfold RedisCache.get RedisServer.get MemoryCache.get
  rw [mirrors.lookupLive aligned key]
  cases m.lookupLive key now <;> rfl

theorem existsKey (mirrors : Mirrors m r) (aligned : now % second = 0) (key : String) :
    r.existsKey key now = m.existsKey key now := by
  unfold RedisCache.existsKey RedisServer.existsCount MemoryCache.existsKey
  rw [mirrors.lookupLive aligned key]
  cases m.lookupLive key now <;> rfl

theorem set (mirrors : Mirrors m r) (aligned : now % second = 0) {ttl : Int}
    (whole : wholeSeconds (m.withDefault ttl) = true) (key : String) (value : Bytes) :
    (r.set key value ttl now).1 = .ok () ∧ Mirrors (m.set key value ttl now) (r.set key value ttl now).2 := by
  have positive := RedisCache.formatSec_pos (wholeSeconds_iff.mp whole).1
  have stored := mirrors.insert key ⟨value, MemoryCache.expiryAfter (m.withDefault ttl) now⟩
    (expiryAfter_onSecond aligned whole)
  rw [toRedisEntry_expiryAfter aligned whole] at stored
  simp only [RedisCache.set, mirrors.withDefault, RedisCache.setExpiry, RedisServer.set,
    (wholeSeconds_iff.mp whole).1, usePrecise_of_wholeSeconds whole, if_true, Bool.false_eq_true,
    show ¬ RedisCache.formatSec (m.withDefault ttl) ≤ 0 by omega, if_false, Bool.false_and, true_and]
  exact stored

theorem delete (mirrors : Mirrors m r) (key : String) :
    Mirrors (m.delete key) (r.delete key now) :=
  mirrors.erase key

theorem incrementExpiry (mirrors : Mirrors m r) {ttl : Int}
    (whole : wholeSeconds (m.withDefault ttl) = true) :
    r.incrementExpiry ttl = some (RedisCache.formatSec (m.withDefault ttl)) := by
  have positive := (wholeSeconds_iff.mp whole).1
  unfold MemoryCache.withDefault at positive ⊢
  unfold RedisCache.incrementExpiry
  rw [← mirrors.config]
  split at positive
  · rename_i zero
    simp [zero, positive]
  · rename_i nonzero
    simp [nonzero, positive]

end Mirrors

theorem MemoryCache.not_expired_of_lookupLive {m : MemoryCache} {key : String} {now : Int} {item : MemoryItem}
    (live : m.lookupLive key now = some item) : MemoryCache.isExpired item now = false := by
  rw [MemoryCache.lookupLive_of_lookup (MemoryCache.lookup_of_lookupLive live)] at live
  split at live <;> simp_all

-- What INCRBY reads where memory's Increment may go: nothing live, or an int64 in
-- decimal, and it writes the sum under the deadline it read, which has not passed.
theorem Mirrors.incrBy {m : MemoryCache} {r : RedisCache} {now : Int} (mirrors : Mirrors m r)
    (aligned : now % second = 0) {key : String} {delta : Int} (fits : counterFits m key delta now = true) :
    ∃ base expiresAt, r.server.incrBy key delta now = (.ok (base + delta),
        ⟨r.server.keyspace.insert key ⟨.str (formatInt64 (base + delta)), expiresAt⟩⟩) ∧
      m.counterValue key now = base ∧ InInt64 (base + delta) ∧
      RedisServer.isExpired ⟨.str (formatInt64 (base + delta)), expiresAt⟩ now = false := by
  unfold counterFits at fits
  cases live : m.lookupLive key now with
  | none =>
    simp only [live, decide_eq_true_eq] at fits
    have missing : r.server.lookupLive key now = none := by rw [mirrors.lookupLive aligned, live]; rfl
    exact ⟨0, none, by simpa using RedisServer.incrBy_of_missing missing fits,
      MemoryCache.counterValue_of_not_live live, by simpa using fits, rfl⟩
  | some item =>
    simp only [live] at fits
    split at fits
    · rename_i n parsed
      simp only [Bool.and_eq_true, beq_iff_eq, decide_eq_true_eq] at fits
      have range := parseInt64_inInt64 parsed
      have stored : m.lookupLive key now = some ⟨formatInt64 n, item.expiresAt⟩ := by
        rw [live, ← fits.1]
      have redisLive : r.server.lookupLive key now =
          some ⟨.str (formatInt64 n), item.expiresAt.map RedisServer.clockMs⟩ := by
        rw [mirrors.lookupLive aligned, stored]; rfl
      have fresh := isExpired_toRedisEntry aligned
        (mirrors.onSecond key item (MemoryCache.lookup_of_lookupLive live))
      rw [MemoryCache.not_expired_of_lookupLive live] at fresh
      exact ⟨n, _, RedisServer.incrBy_of_live redisLive range fits.2,
        MemoryCache.counterValue_of_live stored range, fits.2, fresh⟩
    · cases fits

theorem Mirrors.increment {m : MemoryCache} {r : RedisCache} {now : Int} (mirrors : Mirrors m r)
    (aligned : now % second = 0) {key : String} {delta ttl : Int}
    (whole : wholeSeconds (m.withDefault ttl) = true) (fits : counterFits m key delta now = true) :
    (r.increment key delta ttl now).1 = .ok (m.increment key delta ttl now).1 ∧
      Mirrors (m.increment key delta ttl now).2 (r.increment key delta ttl now).2 := by
  obtain ⟨base, expiresAt, incr, counted, sum, fresh⟩ := mirrors.incrBy aligned fits
  have stored := mirrors.insert key
    ⟨formatInt64 (base + delta), MemoryCache.expiryAfter (m.withDefault ttl) now⟩
    (expiryAfter_onSecond aligned whole)
  rw [toRedisEntry_expiryAfter aligned whole] at stored
  simp only [RedisCache.increment, MemoryCache.increment, incr, mirrors.incrementExpiry whole,
    RedisCache.expireStep, RedisServer.expire_insert fresh
      (RedisCache.formatSec_pos (wholeSeconds_iff.mp whole).1), counted, wrap64_of_inInt64 sum,
    true_and]
  exact stored

theorem Mirrors.lock {m : MemoryCache} {r : RedisCache} {now : Int} (mirrors : Mirrors m r)
    (aligned : now % second = 0) (key : String) {ttl : Int} (whole : wholeSeconds ttl = true) :
    (r.lock key ttl now).1 = .ok (m.lock key ttl now).1 ∧
      Mirrors (m.lock key ttl now).2 (r.lock key ttl now).2 := by
  have positive := (wholeSeconds_iff.mp whole).1
  have seconds := RedisCache.formatSec_pos positive
  have redisLive := mirrors.lookupLive aligned (lockKey key)
  have stored := mirrors.insert (lockKey key) ⟨lockedValue, MemoryCache.expiryAfter ttl now⟩
    (expiryAfter_onSecond aligned whole)
  rw [toRedisEntry_expiryAfter aligned whole] at stored
  cases live : m.lookupLive (lockKey key) now <;> rw [live] at redisLive <;>
    simp [RedisCache.lock, MemoryCache.lock, RedisServer.set, live, redisLive, RedisCache.keepTTL,
      usePrecise_of_wholeSeconds whole, show ttl ≠ 0 by omega, show ttl ≠ -1 by omega,
      show ¬ RedisCache.formatSec ttl ≤ 0 by omega, stored, mirrors]

theorem Mirrors.unlock {m : MemoryCache} {r : RedisCache} {now : Int} (mirrors : Mirrors m r)
    (key : String) : Mirrors (m.unlock key) (r.unlock key now) :=
  mirrors.erase (lockKey key)

theorem Mirrors.getTTL {m : MemoryCache} {r : RedisCache} {now : Int} (mirrors : Mirrors m r)
    (aligned : now % second = 0) {key : String} {item : MemoryItem}
    (live : m.lookupLive key now = some item) : r.getTTL key now = m.getTTL key now := by
  have stored := MemoryCache.lookup_of_lookupLive live
  have fresh := MemoryCache.not_expired_of_lookupLive live
  have onSecond := mirrors.onSecond key item stored
  unfold RedisCache.getTTL RedisServer.ttl MemoryCache.getTTL
  rw [mirrors.lookupLive aligned, live, stored]
  rcases item with ⟨value, _ | e⟩
  · rfl
  · have whole := onSecond e rfl
    simp only [MemoryCache.isExpired, after, decide_eq_false_iff_not, not_lt, second] at fresh whole aligned
    have reply : (max (e / 1000000 - now / 1000000) 0 + 500) / 1000 * 1000000000 = e - now := by
      omega
    simp [toRedisEntry, RedisServer.clockMs, second, reply, show ¬ e - now < 0 by omega,
      show ¬ (max (e / 1000000 - now / 1000000) 0 + 500) / 1000 = -2 by omega,
      show ¬ (max (e / 1000000 - now / 1000000) 0 + 500) / 1000 = -1 by omega]

theorem Mirrors.setTTL {m : MemoryCache} {r : RedisCache} {now : Int} (mirrors : Mirrors m r)
    (aligned : now % second = 0) {key : String} {item : MemoryItem} {ttl : Int}
    (live : m.lookupLive key now = some item) (whole : wholeSeconds ttl = true) :
    (r.setTTL key ttl now).1 = (m.setTTL key ttl now).1 ∧
      Mirrors (m.setTTL key ttl now).2 (r.setTTL key ttl now).2 := by
  have stored := MemoryCache.lookup_of_lookupLive live
  have redisLive := mirrors.lookupLive aligned key
  rw [live] at redisLive
  have moved := mirrors.insert key ⟨item.value, MemoryCache.expiryAfter ttl now⟩
    (expiryAfter_onSecond aligned whole)
  rw [toRedisEntry_expiryAfter aligned whole] at moved
  have seconds := RedisCache.formatSec_pos (wholeSeconds_iff.mp whole).1
  simp [RedisCache.setTTL, MemoryCache.setTTL, stored, RedisServer.expire, redisLive,
    show ¬ RedisServer.clockMs now + RedisCache.formatSec ttl * 1000 ≤ RedisServer.clockMs now by omega]
  exact moved

theorem sortKeys_map {α : Type} {f : α → CallValue} (unsorted : ∀ a, (f a).sortKeys = f a)
    (result : Except CacheError α) : (result.map f).map CallValue.sortKeys = result.map f := by
  cases result <;> simp [Except.map, unsorted]

-- Memory lists the keys KEYS lists, sorted, when both matchers read the pattern and
-- every key alike and memory holds no expired key under the pattern.
theorem Mirrors.getKeys {m : MemoryCache} {r : RedisCache} {now : Int} (mirrors : Mirrors m r)
    (aligned : now % second = 0) {pattern : String} (patternPlain : plainPattern pattern = true)
    (names : m.data.keys.all plainName = true)
    (live : (m.getKeys pattern).all (fun key => (m.lookupLive key now).isSome) = true) :
    m.getKeys pattern = (r.getKeys pattern now).insertionSort (· ≤ ·) := by
  refine MemoryCache.sorted_keys_eq (MemoryCache.getKeys_sorted _ _) (List.sorted_insertionSort _ _)
    (MemoryCache.getKeys_nodup _ _) ((List.perm_insertionSort _ _).nodup_iff.mpr (RedisServer.keys_nodup _ _ _))
    fun key => ?_
  have stored : key ∈ r.server.keyspace ↔ key ∈ m.data := by
    rw [← AList.lookup_isSome, ← AList.lookup_isSome, mirrors.entries key, Option.isSome_map']
  have liveSame : (r.server.lookupLive key now).isSome = (m.lookupLive key now).isSome := by
    rw [mirrors.lookupLive aligned key, Option.isSome_map']
  have plainKey : key ∈ m.data → plainName key = true := fun member =>
    List.all_eq_true.mp names key (AList.mem_keys.mpr member)
  rw [List.mem_insertionSort, RedisCache.getKeys, RedisServer.mem_keys, MemoryCache.mem_getKeys, stored,
    liveSame]
  constructor
  · rintro ⟨matched, member⟩
    exact ⟨member, keyMatches_redis patternPlain (plainKey member) ▸ matched,
      List.all_eq_true.mp live key (MemoryCache.mem_getKeys.mpr ⟨matched, member⟩)⟩
  · rintro ⟨member, matched, -⟩
    exact ⟨(keyMatches_redis patternPlain (plainKey member)).trans matched, member⟩

-- One allowed call at an instant on the second returns the same result on both
-- backends, a key list sorted, and leaves mirrored states.
theorem Mirrors.keyStep {m : MemoryCache} {r : RedisCache} {now : Int} (mirrors : Mirrors m r)
    (aligned : now % second = 0) (call : KeyCall) (allowed : call.allowed m now = true) :
    (m.keyStep call now).1 = (r.keyStep call now).1.map CallValue.sortKeys ∧
      Mirrors (m.keyStep call now).2 (r.keyStep call now).2 := by
  cases call with
  | set key value ttl =>
    obtain ⟨result, next⟩ := mirrors.set aligned allowed key value
    exact ⟨by simp only [MemoryCache.keyStep, RedisCache.keyStep, result]; rfl, next⟩
  | get key =>
    exact ⟨by simp [MemoryCache.keyStep, RedisCache.keyStep, mirrors.get aligned, sortKeys_map,
      CallValue.sortKeys], mirrors⟩
  | delete key => exact ⟨rfl, mirrors.delete key⟩
  | existsKey key =>
    exact ⟨by simp only [MemoryCache.keyStep, RedisCache.keyStep, mirrors.existsKey aligned]; rfl, mirrors⟩
  | getKeys pattern =>
    simp only [KeyCall.allowed, Bool.and_eq_true] at allowed
    exact ⟨by rw [MemoryCache.keyStep, RedisCache.keyStep, mirrors.getKeys aligned allowed.1.1 allowed.1.2
      allowed.2]; rfl, mirrors⟩
  | increment key delta ttl =>
    simp only [KeyCall.allowed, Bool.and_eq_true] at allowed
    obtain ⟨result, next⟩ := mirrors.increment aligned allowed.1 allowed.2
    exact ⟨by simp only [MemoryCache.keyStep, RedisCache.keyStep, result]; rfl, next⟩
  | decrement key delta ttl =>
    simp only [KeyCall.allowed, Bool.and_eq_true] at allowed
    obtain ⟨result, next⟩ := mirrors.increment aligned allowed.1 allowed.2
    exact ⟨by simp only [MemoryCache.keyStep, RedisCache.keyStep, MemoryCache.decrement,
      RedisCache.decrement, result]; rfl, next⟩
  | lock key ttl =>
    obtain ⟨result, next⟩ := mirrors.lock aligned key allowed
    exact ⟨by simp only [MemoryCache.keyStep, RedisCache.keyStep, result]; rfl, next⟩
  | unlock key => exact ⟨rfl, mirrors.unlock key⟩
  | getTTL key =>
    obtain ⟨item, live⟩ := Option.isSome_iff_exists.mp allowed
    exact ⟨by simp [MemoryCache.keyStep, RedisCache.keyStep, mirrors.getTTL aligned live, sortKeys_map,
      CallValue.sortKeys], mirrors⟩
  | setTTL key ttl =>
    simp only [KeyCall.allowed, Bool.and_eq_true] at allowed
    obtain ⟨item, live⟩ := Option.isSome_iff_exists.mp allowed.1
    obtain ⟨result, next⟩ := mirrors.setTTL aligned live allowed.2
    exact ⟨by simp [MemoryCache.keyStep, RedisCache.keyStep, result, sortKeys_map, CallValue.sortKeys], next⟩

/-! ### Runs -/

-- Every call comes at an instant on the second and is allowed in the memory state
-- the calls before it leave.
def MemoryCache.allowedRun (m : MemoryCache) : List (KeyCall × Int) → Bool
  | [] => true
  | (call, now) :: rest =>
      now % second == 0 && call.allowed m now && allowedRun (m.keyStep call now).2 rest

-- From mirrored states, a sequence of allowed calls returns the same results on
-- both backends, value for value and error for error with key lists sorted, and
-- leaves mirrored states.
theorem backends_agree (m : MemoryCache) (r : RedisCache) (calls : List (KeyCall × Int))
    (mirrors : Mirrors m r) (allowed : m.allowedRun calls = true) :
    (m.keyRun calls).1 = (r.keyRun calls).1.map (Except.map CallValue.sortKeys) ∧
      Mirrors (m.keyRun calls).2 (r.keyRun calls).2 := by
  induction calls generalizing m r with
  | nil => exact ⟨rfl, mirrors⟩
  | cons call rest ih =>
    obtain ⟨call, now⟩ := call
    simp only [MemoryCache.allowedRun, Bool.and_eq_true, beq_iff_eq] at allowed
    obtain ⟨⟨aligned, first⟩, later⟩ := allowed
    obtain ⟨same, next⟩ := mirrors.keyStep aligned call first
    obtain ⟨sameLater, final⟩ := ih _ _ next later
    simp only [MemoryCache.keyRun, RedisCache.keyRun, List.map_cons, same, sameLater, true_and]
    exact final

theorem backends_agree_counter_and_lock :
    let calls : List (KeyCall × Int) :=
      [(.set "session" [1] second, 0), (.increment "hits" 1 minute, 0),
        (.decrement "hits" 1 minute, second), (.lock "job" (30 * second), second),
        (.getTTL "session", second), (.getKeys "se*", second), (.setTTL "hits" minute, 2 * second),
        (.get "session", 2 * second), (.unlock "job", 3 * second), (.existsKey "job", 3 * second)]
    ((⟨∅, ⟨0⟩⟩ : MemoryCache).keyRun calls).1 =
        ((⟨⟨∅⟩, ⟨0⟩⟩ : RedisCache).keyRun calls).1.map (Except.map CallValue.sortKeys) ∧
      Mirrors ((⟨∅, ⟨0⟩⟩ : MemoryCache).keyRun calls).2 ((⟨⟨∅⟩, ⟨0⟩⟩ : RedisCache).keyRun calls).2 :=
  backends_agree ⟨∅, ⟨0⟩⟩ ⟨⟨∅⟩, ⟨0⟩⟩ _ ⟨rfl, by simp, by simp⟩ (by decide)

-- Where the calls leave that domain the backends disagree in what a caller sees.
theorem memory_redis_disagree :
    -- SetTTL with a non-positive duration clears the expiry in memory and deletes in Redis
    ((⟨∅, ⟨0⟩⟩ : MemoryCache).keyRun
        [(.set "k" [1] second, 0), (.setTTL "k" 0, 0), (.get "k", 0)]).1.map observe ≠
      ((⟨⟨∅⟩, ⟨0⟩⟩ : RedisCache).keyRun
        [(.set "k" [1] second, 0), (.setTTL "k" 0, 0), (.get "k", 0)]).1.map observe ∧
    -- GetTTL and SetTTL on a missing key fail in memory and succeed in Redis
    ((⟨∅, ⟨0⟩⟩ : MemoryCache).keyRun [(.getTTL "k", 0), (.setTTL "k" second, 0)]).1.map observe ≠
      ((⟨⟨∅⟩, ⟨0⟩⟩ : RedisCache).keyRun [(.getTTL "k", 0), (.setTTL "k" second, 0)]).1.map observe ∧
    -- Increment with a negative ttl drops the expiry in memory and keeps it in Redis
    ((⟨∅, ⟨0⟩⟩ : MemoryCache).keyRun
        [(.increment "c" 1 second, 0), (.increment "c" 1 (-1), 0), (.get "c", 2 * second)]).1.map
        observe ≠
      ((⟨⟨∅⟩, ⟨0⟩⟩ : RedisCache).keyRun
        [(.increment "c" 1 second, 0), (.increment "c" 1 (-1), 0), (.get "c", 2 * second)]).1.map
        observe ∧
    -- an increment past int64 wraps in memory and fails in Redis
    ((⟨∅, ⟨0⟩⟩ : MemoryCache).keyRun
        [(.increment "c" int64Max second, 0), (.increment "c" 1 second, 0)]).1.map observe ≠
      ((⟨⟨∅⟩, ⟨0⟩⟩ : RedisCache).keyRun
        [(.increment "c" int64Max second, 0), (.increment "c" 1 second, 0)]).1.map observe ∧
    -- GetTTL reads a deadline of a second and a half as two seconds in Redis
    ((⟨∅, ⟨0⟩⟩ : MemoryCache).keyRun [(.set "k" [1] (3 * second / 2), 0), (.getTTL "k", 0)]).1.map
        observe ≠
      ((⟨⟨∅⟩, ⟨0⟩⟩ : RedisCache).keyRun [(.set "k" [1] (3 * second / 2), 0), (.getTTL "k", 0)]).1.map
        observe ∧
    -- Lock with a ttl below KeepTTL succeeds in memory and is refused by Redis
    ((⟨∅, ⟨0⟩⟩ : MemoryCache).keyRun [(.lock "r" (-2), 0)]).1.map observe ≠
      ((⟨⟨∅⟩, ⟨0⟩⟩ : RedisCache).keyRun [(.lock "r" (-2), 0)]).1.map observe ∧
    -- GetKeys lists an expired key that memory still stores; KEYS skips it
    ((⟨∅, ⟨0⟩⟩ : MemoryCache).keyRun [(.set "k" [1] second, 0), (.getKeys "*", 2 * second)]).1.map
        observe ≠
      ((⟨⟨∅⟩, ⟨0⟩⟩ : RedisCache).keyRun [(.set "k" [1] second, 0), (.getKeys "*", 2 * second)]).1.map
        observe ∧
    -- a star stops at `/` in memory and not in Redis
    ((⟨∅, ⟨0⟩⟩ : MemoryCache).keyRun [(.set "a/b" [1] second, 0), (.getKeys "a*", 0)]).1.map observe ≠
      ((⟨⟨∅⟩, ⟨0⟩⟩ : RedisCache).keyRun [(.set "a/b" [1] second, 0), (.getKeys "a*", 0)]).1.map observe ∧
    -- `?` takes a rune in memory and a byte in Redis
    ((⟨∅, ⟨0⟩⟩ : MemoryCache).keyRun [(.set "é" [1] second, 0), (.getKeys "?", 0)]).1.map observe ≠
      ((⟨⟨∅⟩, ⟨0⟩⟩ : RedisCache).keyRun [(.set "é" [1] second, 0), (.getKeys "?", 0)]).1.map observe ∧
    -- the empty key matches `**` in memory only
    ((⟨∅, ⟨0⟩⟩ : MemoryCache).keyRun [(.set "" [1] second, 0), (.getKeys "**", 0)]).1.map observe ≠
      ((⟨⟨∅⟩, ⟨0⟩⟩ : RedisCache).keyRun [(.set "" [1] second, 0), (.getKeys "**", 0)]).1.map observe ∧
    -- a trailing backslash is a bad pattern in memory and a literal in Redis
    ((⟨∅, ⟨0⟩⟩ : MemoryCache).keyRun [(.set "k\\" [1] second, 0), (.getKeys "k\\", 0)]).1.map observe ≠
      ((⟨⟨∅⟩, ⟨0⟩⟩ : RedisCache).keyRun [(.set "k\\" [1] second, 0), (.getKeys "k\\", 0)]).1.map
        observe := by
  refine ⟨?_, ?_, ?_, ?_, ?_, ?_, ?_, ?_, ?_, ?_, ?_⟩ <;> decide

end GoCleanArch
