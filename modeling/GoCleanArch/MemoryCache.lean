import GoCleanArch.CacheClient
import GoCleanArch.FilepathMatch
import GoCleanArch.SetCodec
import Mathlib.Data.List.AList
import Mathlib.Data.List.Sort
import Mathlib.Data.String.Basic

/-!
`MemoryCache` of pkg/cache/memory_cache.go. The `data` map is an association
list with distinct keys, so it cannot hold a key twice. Every public method
runs under `m.mu`, so each is one atomic step on the map, taken at the instant
`now` it reads from `time.Now()`. An entry whose `expiresAt` is the zero time
never expires (`none`). `createdAt`, the logger and the sweep goroutine's ticker
are written but never read by the methods modelled here; `cleanup` is the sweep's
body. The hit and miss counters of `stats`, which only `Stats` reads, are kept
beside the map by `MemoryClient` (ClientOp).
-/

namespace GoCleanArch

structure MemoryItem where
  value : Bytes
  expiresAt : Option Int
  deriving DecidableEq, Repr

abbrev ItemMap := AList (fun _ : String => MemoryItem)

structure MemoryCache where
  data : ItemMap
  config : Config

-- One element of `SetMultiple`'s `items`.
structure Item where
  key : String
  value : Bytes
  ttl : Int

namespace MemoryCache

def isExpired (item : MemoryItem) (now : Int) : Bool :=
  match item.expiresAt with
  | none => false
  | some expiresAt => after now expiresAt

-- The `!exists || m.isExpired(item)` test of the reading and writing methods.
def lookupLive (m : MemoryCache) (key : String) (now : Int) : Option MemoryItem :=
  match m.data.lookup key with
  | some item => if isExpired item now then none else some item
  | none => none

-- `var expiresAt time.Time; if ttl > 0 { expiresAt = time.Now().Add(ttl) }`
def expiryAfter (ttl now : Int) : Option Int :=
  if 0 < ttl then some (now + ttl) else none

-- `if ttl == 0 { ttl = m.config.DefaultTTL }`
def withDefault (m : MemoryCache) (ttl : Int) : Int :=
  if ttl = 0 then m.config.defaultTTL else ttl

def withData (m : MemoryCache) (data : ItemMap) : MemoryCache := { m with data := data }

def get (m : MemoryCache) (key : String) (now : Int) : Except CacheError Bytes :=
  match m.lookupLive key now with
  | none => .error .keyNotFound
  | some item => .ok item.value

def set (m : MemoryCache) (key : String) (value : Bytes) (ttl now : Int) : MemoryCache :=
  m.withData (m.data.insert key ⟨value, expiryAfter (m.withDefault ttl) now⟩)

def delete (m : MemoryCache) (key : String) : MemoryCache :=
  m.withData (m.data.erase key)

def existsKey (m : MemoryCache) (key : String) (now : Int) : Bool :=
  (m.lookupLive key now).isSome

def getMultiple (m : MemoryCache) (keys : List String) (now : Int) :
    AList (fun _ : String => Bytes) :=
  keys.foldl (fun result key =>
    match m.lookupLive key now with
    | some item => result.insert key item.value
    | none => result) ∅

def setMultiple (m : MemoryCache) (items : List Item) (now : Int) : MemoryCache :=
  items.foldl (fun m item => m.set item.key item.value item.ttl now) m

def deleteMultiple (m : MemoryCache) (keys : List String) : MemoryCache :=
  keys.foldl delete m

-- `filepath.Match(pattern, key)` with its error dropped, as `GetKeys` does.
def keyMatches (pattern key : String) : Bool :=
  match pathMatch pattern.toList key.toList with
  | .ok matched => matched
  | .error _ => false

-- Every stored key that matches, expired or not, in `sort.Strings` order. The
-- keys are distinct, so any sorting algorithm returns this list.
def getKeys (m : MemoryCache) (pattern : String) : List String :=
  (m.data.keys.filter (keyMatches pattern)).insertionSort (· ≤ ·)

def deletePattern (m : MemoryCache) (pattern : String) : MemoryCache :=
  m.deleteMultiple (m.getKeys pattern)

-- The value `Increment` starts from: 0 unless a live, non-empty entry parses as an int64.
def counterValue (m : MemoryCache) (key : String) (now : Int) : Int :=
  match m.lookupLive key now with
  | some item => if 0 < item.value.length then (parseInt64 item.value).getD 0 else 0
  | none => 0

def increment (m : MemoryCache) (key : String) (delta ttl now : Int) : Int × MemoryCache :=
  let newValue := wrap64 (m.counterValue key now + delta)
  (newValue, m.withData
    (m.data.insert key ⟨formatInt64 newValue, expiryAfter (m.withDefault ttl) now⟩))

-- `m.Increment(ctx, key, -delta, ttl)`: the negation wraps at `math.MinInt64`.
def decrement (m : MemoryCache) (key : String) (delta ttl now : Int) : Int × MemoryCache :=
  m.increment key (wrap64 (-delta)) ttl now

-- `fmt.Sprintf("%s::%s", key, field)`
def hashKey (key field : String) : String := key ++ "::" ++ field

def hGet (m : MemoryCache) (key field : String) (now : Int) : Except CacheError Bytes :=
  m.get (hashKey key field) now

def hSet (m : MemoryCache) (key field : String) (value : Bytes) (ttl now : Int) : MemoryCache :=
  m.set (hashKey key field) value ttl now

-- `strings.HasPrefix` and `strings.TrimPrefix`.
def hasPrefix (s pre : String) : Bool := pre.toList.isPrefixOf s.toList

def trimPrefix (s pre : String) : String :=
  if hasPrefix s pre then ⟨s.toList.drop pre.length⟩ else s

def hGetAll (m : MemoryCache) (key : String) (now : Int) : AList (fun _ : String => Bytes) :=
  (m.getKeys (key ++ "::*")).foldl (fun result fullKey =>
    if hasPrefix fullKey (key ++ "::") then
      match m.get fullKey now with
      | .ok value => result.insert (trimPrefix fullKey (key ++ "::")) value
      | .error _ => result
    else result) ∅

def hDelete (m : MemoryCache) (key : String) (fields : List String) : MemoryCache :=
  m.deleteMultiple (fields.map (hashKey key))

-- The member loop of `SAdd`: members already in the set are not counted.
def addMembers (setMap : SetMap) (members : List Bytes) : SetMap × Int :=
  members.foldl (fun acc member =>
    if member ∈ acc.1.members then acc else (acc.1.insert member, acc.2 + 1)) (setMap, 0)

-- The member loop of `SRem`.
def removeMembers (setMap : SetMap) (members : List Bytes) : SetMap × Int :=
  members.foldl (fun acc member =>
    if member ∈ acc.1.members then (acc.1.erase member, acc.2 + 1) else acc) (setMap, 0)

-- A new set takes `DefaultTTL`; an existing one keeps its entry and expiry.
def sAdd (m : MemoryCache) (key : String) (members : List Bytes) (now : Int) :
    Except CacheError Int × MemoryCache :=
  match m.lookupLive key now with
  | none =>
      let added := addMembers SetMap.empty members
      (.ok added.2, m.withData (m.data.insert key
        ⟨serializeSetMap added.1, expiryAfter m.config.defaultTTL now⟩))
  | some item =>
      match deserializeSetMap item.value with
      | .error _ => (.error .invalidSetData, m)
      | .ok setMap =>
          let added := addMembers setMap members
          if added.2 = 0 then (.ok 0, m)
          else (.ok added.2, m.withData (m.data.insert key
            { item with value := serializeSetMap added.1 }))

def sRem (m : MemoryCache) (key : String) (members : List Bytes) (now : Int) :
    Except CacheError Int × MemoryCache :=
  match m.lookupLive key now with
  | none => (.ok 0, m)
  | some item =>
      match deserializeSetMap item.value with
      | .error _ => (.error .invalidSetData, m)
      | .ok setMap =>
          let removed := removeMembers setMap members
          if removed.2 = 0 then (.ok 0, m)
          else if removed.1.members = [] then (.ok removed.2, m.withData (m.data.erase key))
          else (.ok removed.2, m.withData (m.data.insert key
            { item with value := serializeSetMap removed.1 }))

def sMembers (m : MemoryCache) (key : String) (now : Int) : Except CacheError (List Bytes) :=
  match m.lookupLive key now with
  | none => .ok []
  | some item =>
      match deserializeSetMap item.value with
      | .error _ => .error .invalidSetData
      | .ok setMap => .ok setMap.members

def sIsMember (m : MemoryCache) (key : String) (member : Bytes) (now : Int) :
    Except CacheError Bool :=
  match m.lookupLive key now with
  | none => .ok false
  | some item =>
      match deserializeSetMap item.value with
      | .error _ => .error .invalidSetData
      | .ok setMap => .ok (decide (member ∈ setMap.members))

def sCard (m : MemoryCache) (key : String) (now : Int) : Except CacheError Int :=
  match m.lookupLive key now with
  | none => .ok 0
  | some item =>
      match deserializeSetMap item.value with
      | .error _ => .error .invalidSetData
      | .ok setMap => .ok setMap.members.length

-- `Lock` ignores `DefaultTTL`: a non-positive ttl stores a lock that never expires.
def lock (m : MemoryCache) (key : String) (ttl now : Int) : Bool × MemoryCache :=
  match m.lookupLive (lockKey key) now with
  | some _ => (false, m)
  | none => (true, m.withData (m.data.insert (lockKey key) ⟨lockedValue, expiryAfter ttl now⟩))

def unlock (m : MemoryCache) (key : String) : MemoryCache := m.delete (lockKey key)

-- `GetTTL` and `SetTTL` test only that the key is present, not that it is live.
def getTTL (m : MemoryCache) (key : String) (now : Int) : Except CacheError Int :=
  match m.data.lookup key with
  | none => .error .keyNotFound
  | some item =>
      match item.expiresAt with
      | none => .ok (-1)
      | some expiresAt => if expiresAt - now < 0 then .ok 0 else .ok (expiresAt - now)

def setTTL (m : MemoryCache) (key : String) (ttl now : Int) : Except CacheError Unit × MemoryCache :=
  match m.data.lookup key with
  | none => (.error .keyNotFound, m)
  | some item =>
      (.ok (), m.withData (m.data.insert key { item with expiresAt := expiryAfter ttl now }))

def flushAll (m : MemoryCache) : MemoryCache := m.withData ∅

-- The sweep: collect the expired keys, then delete them.
def cleanup (m : MemoryCache) (now : Int) : MemoryCache :=
  let expired := m.data.keys.filter (fun key =>
    match m.data.lookup key with
    | some item => isExpired item now
    | none => false)
  m.withData (expired.foldl (fun data key => data.erase key) m.data)

/-! ### Frame and lookup lemmas -/

@[simp] theorem withData_data (m : MemoryCache) (data : ItemMap) : (m.withData data).data = data :=
  rfl

@[simp] theorem withData_config (m : MemoryCache) (data : ItemMap) :
    (m.withData data).config = m.config := rfl

theorem lookupLive_eq_none {m : MemoryCache} {key : String} {now : Int} :
    m.lookupLive key now = none ↔ ∀ item, m.data.lookup key = some item → isExpired item now := by
  unfold lookupLive
  cases m.data.lookup key with
  | none => simp
  | some item => by_cases expired : isExpired item now <;> simp [expired]

theorem lookupLive_of_lookup {m : MemoryCache} {key : String} {now : Int} {item : MemoryItem}
    (stored : m.data.lookup key = some item) :
    m.lookupLive key now = if isExpired item now then none else some item := by
  simp [lookupLive, stored]

theorem lookupLive_insert_self (m : MemoryCache) (key : String) (item : MemoryItem) (now : Int) :
    (m.withData (m.data.insert key item)).lookupLive key now =
      if isExpired item now then none else some item :=
  lookupLive_of_lookup (AList.lookup_insert _)

theorem isExpired_some (value : Bytes) (expiresAt now : Int) :
    isExpired ⟨value, some expiresAt⟩ now = decide (expiresAt < now) := rfl

theorem withDefault_of_pos (m : MemoryCache) {ttl : Int} (positive : 0 < ttl) :
    m.withDefault ttl = ttl := by
  simp [withDefault, show ttl ≠ 0 by omega]

theorem expiryAfter_of_pos {ttl : Int} (now : Int) (positive : 0 < ttl) :
    expiryAfter ttl now = some (now + ttl) := by
  simp [expiryAfter, positive]

theorem increment_lookup (m : MemoryCache) (key : String) (delta ttl now : Int) :
    (m.increment key delta ttl now).2.data.lookup key =
      some ⟨formatInt64 (wrap64 (m.counterValue key now + delta)),
        expiryAfter (m.withDefault ttl) now⟩ := by
  simp [increment]

theorem increment_lookup_ne (m : MemoryCache) {key other : String} (delta ttl now : Int)
    (different : other ≠ key) :
    (m.increment key delta ttl now).2.data.lookup other = m.data.lookup other := by
  simp [increment, different]

theorem increment_fst (m : MemoryCache) (key : String) (delta ttl now : Int) :
    (m.increment key delta ttl now).1 = wrap64 (m.counterValue key now + delta) := rfl

theorem counterValue_of_not_live {m : MemoryCache} {key : String} {now : Int}
    (absent : m.lookupLive key now = none) : m.counterValue key now = 0 := by
  simp [counterValue, absent]

-- A live entry holding an int64's decimal form counts from that int64.
theorem counterValue_of_live {m : MemoryCache} {key : String} {now v : Int}
    {expiresAt : Option Int} (stored : m.lookupLive key now = some ⟨formatInt64 v, expiresAt⟩)
    (range : InInt64 v) : m.counterValue key now = v := by
  obtain ⟨c, rest, digits, -⟩ := decimal_head_digit v.natAbs
  have nonempty : 0 < (formatInt64 v).length := by
    unfold formatInt64 formatInt
    split <;> simp [digits]
  simp [counterValue, stored, nonempty, parseInt64_formatInt64 range]

theorem lookupLive_eq_none_of_le {m : MemoryCache} {key : String} {now later : Int}
    (dead : m.lookupLive key now = none) (le : now ≤ later) : m.lookupLive key later = none := by
  rw [lookupLive_eq_none] at dead ⊢
  intro item stored
  have expired := dead item stored
  unfold isExpired at expired ⊢
  split at expired <;> simp_all only [after_eq_true, Bool.false_eq_true]
  omega

theorem lookup_of_lookupLive {m : MemoryCache} {key : String} {now : Int} {item : MemoryItem}
    (live : m.lookupLive key now = some item) : m.data.lookup key = some item := by
  unfold lookupLive at live
  split at live
  · split at live <;> simp_all
  · cases live

theorem lookupLive_of_le {m : MemoryCache} {key : String} {now later : Int} {item : MemoryItem}
    (live : m.lookupLive key later = some item) (le : now ≤ later) :
    m.lookupLive key now = some item := by
  cases earlier : m.lookupLive key now with
  | none =>
      rw [lookupLive_eq_none_of_le earlier le] at live
      cases live
  | some old =>
      have same := (lookup_of_lookupLive earlier).symm.trans (lookup_of_lookupLive live)
      rw [Option.some.inj same]

theorem mem_of_lookupLive {m : MemoryCache} {key : String} {now : Int} {item : MemoryItem}
    (live : m.lookupLive key now = some item) : key ∈ m.data :=
  AList.lookup_isSome.mp (by simp [lookup_of_lookupLive live])

theorem lookupLive_congr {m m' : MemoryCache} {key : String} (now : Int)
    (same : m.data.lookup key = m'.data.lookup key) : m.lookupLive key now = m'.lookupLive key now := by
  simp only [lookupLive, same]

theorem lookup_foldl_erase (keys : List String) (data : ItemMap) (key : String) :
    (keys.foldl (fun data k => data.erase k) data).lookup key =
      if key ∈ keys then none else data.lookup key := by
  induction keys generalizing data with
  | nil => simp
  | cons k keys ih =>
      by_cases erased : key = k
      · subst erased
        simp [ih]
      · simp [ih, AList.lookup_erase_ne erased, erased]

theorem deleteMultiple_eq (m : MemoryCache) (keys : List String) :
    m.deleteMultiple keys = m.withData (keys.foldl (fun data k => data.erase k) m.data) := by
  induction keys generalizing m with
  | nil => rfl
  | cons k keys ih => exact ih (m.delete k)

-- After the sweep at `now` a key holds exactly what a live read at `now` sees.
theorem cleanup_lookup (m : MemoryCache) (now : Int) (key : String) :
    (m.cleanup now).data.lookup key = m.lookupLive key now := by
  simp only [cleanup, withData_data, lookup_foldl_erase, List.mem_filter, AList.mem_keys]
  unfold lookupLive
  cases stored : m.data.lookup key with
  | none => simp
  | some item =>
      have present : key ∈ m.data.keys := AList.lookup_isSome.mp (by simp [stored])
      by_cases expired : isExpired item now <;> simp [present, expired]

@[simp] theorem sAdd_config (m : MemoryCache) (key : String) (members : List Bytes) (now : Int) :
    (m.sAdd key members now).2.config = m.config := by
  unfold sAdd
  split
  · rfl
  · split
    · rfl
    · dsimp only
      split <;> rfl

/-! ### Key listing -/

theorem mem_getKeys {m : MemoryCache} {pattern key : String} :
    key ∈ m.getKeys pattern ↔ keyMatches pattern key = true ∧ key ∈ m.data := by
  simp [getKeys, List.mem_insertionSort, AList.mem_keys, and_comm]

theorem getKeys_nodup (m : MemoryCache) (pattern : String) : (m.getKeys pattern).Nodup :=
  (List.perm_insertionSort _ _).nodup_iff.mpr (m.data.keys_nodup.filter _)

theorem getKeys_sorted (m : MemoryCache) (pattern : String) :
    (m.getKeys pattern).Sorted (· ≤ ·) :=
  List.sorted_insertionSort _ _

-- Sorted duplicate-free key lists with the same members are the same list.
theorem sorted_keys_eq {keys₁ keys₂ : List String} (sorted₁ : keys₁.Sorted (· ≤ ·))
    (sorted₂ : keys₂.Sorted (· ≤ ·)) (nodup₁ : keys₁.Nodup) (nodup₂ : keys₂.Nodup)
    (same : ∀ key, key ∈ keys₁ ↔ key ∈ keys₂) : keys₁ = keys₂ :=
  List.eq_of_perm_of_sorted ((List.perm_ext_iff_of_nodup nodup₁ nodup₂).mpr same) sorted₁ sorted₂

end MemoryCache

end GoCleanArch
