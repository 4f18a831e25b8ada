import GoCleanArch.CacheClient
import GoCleanArch.SetCodec
import GoCleanArch.RedisGlob
import Mathlib.Data.List.AList

/-!
The Redis server that `RedisCache` talks to, as far as the commands it sends:
GET, SET (EX/PX/KEEPTTL/NX), SETNX, DEL, EXISTS, INCRBY, EXPIRE, TTL, KEYS, SADD,
SREM, SMEMBERS, SISMEMBER and SCARD, with the replies and error texts of Redis 7. Expiry is kept in unix
milliseconds and compared with the server clock `now / 10^6` as `keyIsExpired`
does (`now > when`). An expired entry is absent to every command; Redis also
removes it lazily or in its active cycle, which no command can observe. The
overflow checks on expire arguments are left out: go-redis never sends more than
2^63 ns in seconds or milliseconds, which a clock inside int64 milliseconds
cannot overflow.
-/

namespace GoCleanArch

inductive RedisValue where
  | str (bytes : Bytes)
  | set (members : SetMap)

structure RedisEntry where
  value : RedisValue
  expiresAt : Option Int

structure RedisServer where
  keyspace : AList (fun _ : String => RedisEntry)

-- `string2ll`: "0", or an optional `-` then digits without a leading zero,
-- shorter than 21 bytes and inside the int64 range.
def string2ll (s : Bytes) : Option Int :=
  if s = [] ∨ 21 ≤ s.length then none
  else if s = [48] then some 0
  else
    let negative := s.head? = some 45
    let digits := if negative then s.tail else s
    match digits with
    | [] => none
    | d :: _ =>
        if 49 ≤ d.toNat ∧ d.toNat ≤ 57 ∧ digits.all isDigitByte = true then
          if negative then
            if digitsValue digits ≤ 9223372036854775808 then some (-(digitsValue digits : Int))
            else none
          else if digitsValue digits ≤ 9223372036854775807 then some (digitsValue digits)
          else none
        else none

-- Redis reads back every int64 that strconv.FormatInt writes.
theorem string2ll_formatInt64 {v : Int} (range : InInt64 v) : string2ll (formatInt64 v) = some v := by
  unfold InInt64 int64Min int64Max at range
  by_cases zero : v = 0
  · subst zero; decide
  have sign : (v < 0 ∧ -(v.natAbs : Int) = v) ∨ (¬ v < 0 ∧ (v.natAbs : Int) = v) := by omega
  have bound : v.natAbs ≤ 9223372036854775808 := by omega
  have positive : 0 < v.natAbs := by omega
  unfold formatInt64 formatInt decimal
  generalize v.natAbs = u at sign bound positive ⊢
  obtain ⟨-, digits, value⟩ := decimalAux_spec (u + 1) u (by omega)
  have short := decimalAux_length (u + 1) u 18
    (by rw [show (10 : Nat) ^ (18 + 1) = 10000000000000000000 from rfl]; omega)
  obtain ⟨c, rest, split, low, high⟩ := decimalAux_head (u + 1) u positive (by omega)
  rw [split, List.length_cons] at short
  rw [split] at digits value ⊢
  rcases sign with ⟨negative, back⟩ | ⟨negative, back⟩
  · simp only [if_pos negative]
    simp [string2ll, digits, value, low, high, back]
    omega
  · have notSign : c ≠ 45 := fun h => absurd (h ▸ low) (by decide)
    have notZero : c ≠ 48 := fun h => absurd (h ▸ low) (by decide)
    simp [string2ll, digits, value, low, high, back, negative, notSign, notZero]
    omega

-- SADD's member loop counts exactly the members it appends.
theorem foldl_addMember_length (members : List Bytes) (setMap : SetMap) (count : Int) :
    let result := members.foldl (fun acc member =>
      if member ∈ acc.1.members then acc else (acc.1.insert member, acc.2 + 1)) (setMap, count)
    (result.1.members.length : Int) + count = setMap.members.length + result.2 := by
  induction members generalizing setMap count with
  | nil => simp
  | cons x rest ih =>
      simp only [List.foldl_cons]
      by_cases present : x ∈ setMap.members
      · simpa only [present, if_true] using ih setMap count
      · have longer := ih (setMap.insert x) (count + 1)
        simp only [present, if_false, SetMap.insert_of_not_mem _ present, List.length_append,
          List.length_singleton] at longer ⊢
        push_cast at longer
        omega

namespace RedisServer

def clockMs (now : Int) : Int := now / 1000000

def isExpired (entry : RedisEntry) (now : Int) : Bool :=
  match entry.expiresAt with
  | none => false
  | some whenMs => decide (whenMs < clockMs now)

def lookupLive (r : RedisServer) (key : String) (now : Int) : Option RedisEntry :=
  match r.keyspace.lookup key with
  | some entry => if isExpired entry now then none else some entry
  | none => none

def wrongType : String := "WRONGTYPE Operation against a key holding the wrong kind of value"
def notInteger : String := "ERR value is not an integer or out of range"
def incrOverflow : String := "ERR increment or decrement would overflow"
def invalidSetExpire : String := "ERR invalid expire time in 'set' command"

def get (r : RedisServer) (key : String) (now : Int) : Except String (Option Bytes) :=
  match r.lookupLive key now with
  | none => .ok none
  | some ⟨.str bytes, _⟩ => .ok (some bytes)
  | some ⟨.set _, _⟩ => .error wrongType

inductive SetExpiry where
  | none
  | keepTTL
  | px (ms : Int)
  | ex (seconds : Int)

-- SET key value [EX|PX|KEEPTTL] [NX]: `false` is the nil reply of a refused NX.
def set (r : RedisServer) (key : String) (value : Bytes) (expiry : SetExpiry) (nx : Bool)
    (now : Int) : Except String Bool × RedisServer :=
  let whenMs : Except String (Option Int) :=
    match expiry with
    | .px ms => if ms ≤ 0 then .error invalidSetExpire else .ok (some (clockMs now + ms))
    | .ex seconds =>
        if seconds ≤ 0 then .error invalidSetExpire else .ok (some (clockMs now + seconds * 1000))
    | _ => .ok none
  match whenMs with
  | .error e => (.error e, r)
  | .ok whenMs =>
      if nx && (r.lookupLive key now).isSome then (.ok false, r)
      else
        let kept := match expiry, r.lookupLive key now with
          | .keepTTL, some entry => entry.expiresAt
          | _, _ => whenMs
        (.ok true, ⟨r.keyspace.insert key ⟨.str value, kept⟩⟩)

def setnx (r : RedisServer) (key : String) (value : Bytes) (now : Int) : Bool × RedisServer :=
  match r.lookupLive key now with
  | some _ => (false, r)
  | none => (true, ⟨r.keyspace.insert key ⟨.str value, none⟩⟩)

def del (r : RedisServer) (key : String) (now : Int) : Int × RedisServer :=
  ((if (r.lookupLive key now).isSome then 1 else 0), ⟨r.keyspace.erase key⟩)

def existsCount (r : RedisServer) (key : String) (now : Int) : Int :=
  if (r.lookupLive key now).isSome then 1 else 0

-- INCRBY key increment: a new key starts at 0 and an existing one keeps its expiry.
def incrBy (r : RedisServer) (key : String) (increment now : Int) :
    Except String Int × RedisServer :=
  let current : Except String (Int × Option Int) :=
    match r.lookupLive key now with
    | none => .ok (0, none)
    | some ⟨.set _, _⟩ => .error wrongType
    | some ⟨.str bytes, expiresAt⟩ =>
        match string2ll bytes with
        | none => .error notInteger
        | some value => .ok (value, expiresAt)
  match current with
  | .error e => (.error e, r)
  | .ok (value, expiresAt) =>
      if InInt64 (value + increment) then
        (.ok (value + increment),
          ⟨r.keyspace.insert key ⟨.str (formatInt64 (value + increment)), expiresAt⟩⟩)
      else (.error incrOverflow, r)

-- EXPIRE key seconds: 0 for a missing key; a deadline not after now deletes the key.
def expire (r : RedisServer) (key : String) (seconds now : Int) : Int × RedisServer :=
  match r.lookupLive key now with
  | none => (0, r)
  | some entry =>
      if clockMs now + seconds * 1000 ≤ clockMs now then (1, ⟨r.keyspace.erase key⟩)
      else (1, ⟨r.keyspace.insert key
        { entry with expiresAt := some (clockMs now + seconds * 1000) }⟩)

-- TTL key: -2 for a missing key, -1 without expiry, else seconds rounded to nearest.
def ttl (r : RedisServer) (key : String) (now : Int) : Int :=
  match r.lookupLive key now with
  | none => -2
  | some ⟨_, none⟩ => -1
  | some ⟨_, some whenMs⟩ => (max (whenMs - clockMs now) 0 + 500) / 1000

def saddArity : String := "ERR wrong number of arguments for 'sadd' command"

-- SADD key member...: the count of members not yet in the set.
def sadd (r : RedisServer) (key : String) (members : List Bytes) (now : Int) :
    Except String Int × RedisServer :=
  if members = [] then (.error saddArity, r) else
  let existing : Except String (SetMap × Option Int) :=
    match r.lookupLive key now with
    | none => .ok (SetMap.empty, none)
    | some ⟨.str _, _⟩ => .error wrongType
    | some ⟨.set setMap, expiresAt⟩ => .ok (setMap, expiresAt)
  match existing with
  | .error e => (.error e, r)
  | .ok (setMap, expiresAt) =>
      let added := members.foldl (fun acc m =>
        if m ∈ acc.1.members then acc else (acc.1.insert m, acc.2 + 1)) (setMap, (0 : Int))
      if added.2 = 0 then (.ok 0, r)
      else (.ok added.2, ⟨r.keyspace.insert key ⟨.set added.1, expiresAt⟩⟩)

def scard (r : RedisServer) (key : String) (now : Int) : Except String Int :=
  match r.lookupLive key now with
  | none => .ok 0
  | some ⟨.str _, _⟩ => .error wrongType
  | some ⟨.set setMap, _⟩ => .ok setMap.members.length

def sremArity : String := "ERR wrong number of arguments for 'srem' command"

-- SREM key member...: the count of members removed. A set left empty is deleted
-- with its expiry; Redis stops its loop there, when no later member can be found.
def srem (r : RedisServer) (key : String) (members : List Bytes) (now : Int) :
    Except String Int × RedisServer :=
  if members = [] then (.error sremArity, r) else
  match r.lookupLive key now with
  | none => (.ok 0, r)
  | some ⟨.str _, _⟩ => (.error wrongType, r)
  | some ⟨.set setMap, expiresAt⟩ =>
      let removed := members.foldl (fun acc m =>
        if m ∈ acc.1.members then (acc.1.erase m, acc.2 + 1) else acc) (setMap, (0 : Int))
      if removed.2 = 0 then (.ok 0, r)
      else if removed.1.members = [] then (.ok removed.2, ⟨r.keyspace.erase key⟩)
      else (.ok removed.2, ⟨r.keyspace.insert key ⟨.set removed.1, expiresAt⟩⟩)

-- SMEMBERS key, in the order of the set's encoding; the model keeps insertion order.
def smembers (r : RedisServer) (key : String) (now : Int) : Except String (List Bytes) :=
  match r.lookupLive key now with
  | none => .ok []
  | some ⟨.str _, _⟩ => .error wrongType
  | some ⟨.set setMap, _⟩ => .ok setMap.members

def sismember (r : RedisServer) (key : String) (member : Bytes) (now : Int) : Except String Bool :=
  match r.lookupLive key now with
  | none => .ok false
  | some ⟨.str _, _⟩ => .error wrongType
  | some ⟨.set setMap, _⟩ => .ok (decide (member ∈ setMap.members))

-- KEYS pattern: the live keys whose bytes match, every live key for `*` alone.
-- Redis answers in the order of its hash table; the model keeps the keyspace's.
def keys (r : RedisServer) (pattern : String) (now : Int) : List String :=
  r.keyspace.keys.filter fun key =>
    (pattern == "*" || stringmatchlen (keyBytes pattern) (keyBytes key)) && (r.lookupLive key now).isSome

/-! ### Lookup lemmas -/

theorem lookupLive_of_lookup {r : RedisServer} {key : String} {now : Int} {entry : RedisEntry}
    (stored : r.keyspace.lookup key = some entry) :
    r.lookupLive key now = if isExpired entry now then none else some entry := by
  simp [lookupLive, stored]

theorem lookup_of_lookupLive {r : RedisServer} {key : String} {now : Int} {entry : RedisEntry}
    (live : r.lookupLive key now = some entry) : r.keyspace.lookup key = some entry := by
  unfold lookupLive at live
  split at live
  · split at live <;> simp_all
  · cases live

theorem not_expired_of_lookupLive {r : RedisServer} {key : String} {now : Int}
    {entry : RedisEntry} (live : r.lookupLive key now = some entry) : isExpired entry now = false := by
  have stored := lookup_of_lookupLive live
  rw [lookupLive_of_lookup stored] at live
  split at live <;> simp_all

theorem mem_keys {r : RedisServer} {pattern key : String} {now : Int} :
    key ∈ r.keys pattern now ↔ key ∈ r.keyspace ∧
      (pattern == "*" || stringmatchlen (keyBytes pattern) (keyBytes key)) = true ∧
        (r.lookupLive key now).isSome = true := by
  simp [keys, AList.mem_keys, and_assoc]

theorem keys_nodup (r : RedisServer) (pattern : String) (now : Int) : (r.keys pattern now).Nodup :=
  r.keyspace.keys_nodup.filter _

theorem lookupLive_insert_self (r : RedisServer) (key : String) (entry : RedisEntry) (now : Int) :
    (⟨r.keyspace.insert key entry⟩ : RedisServer).lookupLive key now =
      if isExpired entry now then none else some entry :=
  lookupLive_of_lookup (AList.lookup_insert _)

theorem clockMs_le {now later : Int} (le : now ≤ later) : clockMs now ≤ clockMs later :=
  Int.ediv_le_ediv (by decide) le

theorem isExpired_of_le {entry : RedisEntry} {now later : Int} (expired : isExpired entry now = true)
    (le : now ≤ later) : isExpired entry later = true := by
  unfold isExpired at *
  split at expired
  · cases expired
  · have := clockMs_le le
    simp_all only [decide_eq_true_eq]
    omega

theorem lookupLive_of_le {r : RedisServer} {key : String} {now later : Int} {entry : RedisEntry}
    (live : r.lookupLive key later = some entry) (le : now ≤ later) :
    r.lookupLive key now = some entry := by
  have stored := lookup_of_lookupLive live
  have fresh := not_expired_of_lookupLive live
  rw [lookupLive_of_lookup stored, if_neg]
  intro expired
  rw [isExpired_of_le expired le] at fresh
  cases fresh

-- INCRBY leaves the expiry of a live key as it is, whether it succeeds or fails.
theorem incrBy_keeps_expiry {r : RedisServer} {key : String} {increment now : Int}
    {entry : RedisEntry} (live : r.lookupLive key now = some entry) :
    ((r.incrBy key increment now).2.keyspace.lookup key).map RedisEntry.expiresAt =
      some entry.expiresAt := by
  have stored := lookup_of_lookupLive live
  rcases entry with ⟨bytes | setMap, expiresAt⟩
  · cases parsed : string2ll bytes with
    | none => simp [incrBy, live, parsed, stored]
    | some value =>
        by_cases range : InInt64 (value + increment) <;> simp [incrBy, live, parsed, stored, range]
  · simp [incrBy, live, stored]

-- After INCRBY of an int64 the key is live: a new key has no expiry, and a failure
-- leaves the live entry that caused it.
theorem incrBy_live (r : RedisServer) (key : String) {increment : Int} (now : Int)
    (range : InInt64 increment) : ((r.incrBy key increment now).2.lookupLive key now).isSome := by
  cases live : r.lookupLive key now with
  | none => simp [incrBy, live, range, lookupLive_insert_self, isExpired]
  | some entry =>
      have fresh := not_expired_of_lookupLive live
      rcases entry with ⟨bytes | setMap, expiresAt⟩
      · cases parsed : string2ll bytes with
        | none => simp [incrBy, live, parsed]
        | some value =>
            by_cases range : InInt64 (value + increment) <;>
              simp_all [incrBy, lookupLive_insert_self, isExpired]
      · simp [incrBy, live]

theorem expire_lookup {r : RedisServer} {key : String} {seconds now : Int} {entry : RedisEntry}
    (live : r.lookupLive key now = some entry) (positive : 0 < seconds) :
    (r.expire key seconds now).2.keyspace.lookup key =
      some { entry with expiresAt := some (clockMs now + seconds * 1000) } := by
  simp [expire, live, show ¬clockMs now + seconds * 1000 ≤ clockMs now by omega]

theorem incrBy_of_live {r : RedisServer} {key : String} {delta now n : Int}
    {expiresAt : Option Int} (live : r.lookupLive key now = some ⟨.str (formatInt64 n), expiresAt⟩)
    (range : InInt64 n) (sum : InInt64 (n + delta)) :
    r.incrBy key delta now =
      (.ok (n + delta), ⟨r.keyspace.insert key ⟨.str (formatInt64 (n + delta)), expiresAt⟩⟩) := by
  simp [incrBy, live, string2ll_formatInt64 range, sum]

theorem incrBy_of_missing {r : RedisServer} {key : String} {delta now : Int}
    (missing : r.lookupLive key now = none) (range : InInt64 delta) :
    r.incrBy key delta now = (.ok delta, ⟨r.keyspace.insert key ⟨.str (formatInt64 delta), none⟩⟩) := by
  simp [incrBy, missing, range]

theorem expire_insert {r : RedisServer} {key : String} {entry : RedisEntry} {seconds now : Int}
    (fresh : isExpired entry now = false) (positive : 0 < seconds) :
    (⟨r.keyspace.insert key entry⟩ : RedisServer).expire key seconds now =
      (1, ⟨r.keyspace.insert key { entry with expiresAt := some (clockMs now + seconds * 1000) }⟩) := by
  simp [expire, lookupLive_insert_self, fresh,
    show ¬clockMs now + seconds * 1000 ≤ clockMs now by omega]

theorem sadd_nil (r : RedisServer) (key : String) (now : Int) :
    r.sadd key [] now = (.error saddArity, r) := by
  simp [sadd]

theorem sadd_of_missing {r : RedisServer} {key : String} {members : List Bytes} {now : Int}
    (missing : r.lookupLive key now = none) (nonempty : members ≠ []) :
    ∃ (setMap : SetMap) (added : Int), (setMap.members.length : Int) = added ∧
      r.sadd key members now = if added = 0 then (.ok 0, r)
        else (.ok added, ⟨r.keyspace.insert key ⟨.set setMap, none⟩⟩) := by
  have counted := foldl_addMember_length members SetMap.empty 0
  exact ⟨_, _, by simpa [SetMap.empty] using counted, by simp [sadd, missing, nonempty, SetMap.empty]⟩

theorem sadd_of_set {r : RedisServer} {key : String} {members : List Bytes} {now : Int}
    {setMap : SetMap} {expiresAt : Option Int}
    (live : r.lookupLive key now = some ⟨.set setMap, expiresAt⟩) (nonempty : members ≠ []) :
    ∃ (grown : SetMap) (added : Int), r.sadd key members now = if added = 0 then (.ok 0, r)
        else (.ok added, ⟨r.keyspace.insert key ⟨.set grown, expiresAt⟩⟩) :=
  ⟨_, _, by simp only [sadd, live, nonempty, if_false]; rfl⟩

theorem sadd_of_str {r : RedisServer} {key : String} {members : List Bytes} {now : Int}
    {bytes : Bytes} {expiresAt : Option Int}
    (live : r.lookupLive key now = some ⟨.str bytes, expiresAt⟩) :
    (r.sadd key members now).2 = r := by
  unfold sadd
  split <;> simp [live]

end RedisServer

end GoCleanArch
