import GoCleanArch.ClientOp

/-!
What the sweep of `MemoryCache` can change. `SameLive now m₁ m₂` relates two
stores that hold the same entry at every key except keys neither holds live at
`now`; an entry expired at `now` stays expired later, so every call at an instant
from `now` on that reads through the `isExpired` test answers alike on both and
keeps them related. `cleanup` at `now`, and erasing one expired key, produce such
a store. `GetKeys`, `GetTTL` and `SetTTL` read the map without that test, and so
does `Stats`: its `Keys` is `len(m.data)`, and its `Misses` counts the expired keys
`HGetAll` looks up after `GetKeys` lists them. Its `Hits` counts only live keys, so
the hit counter stays the same on both sides.
-/

namespace GoCleanArch

namespace ClientOp

-- The calls that read an entry without the `isExpired` test.
def seesExpired : ClientOp → Bool
  | .getKeys _ | .getTTL _ | .setTTL _ _ => true
  | _ => false

end ClientOp

def ClientCall.seesExpired : ClientCall → Bool
  | .op call => call.seesExpired
  | .stats => true

theorem foldl_filter_of_skip {α β : Type} (f : β → α → β) (p : α → Bool)
    (skip : ∀ b a, p a = false → f b a = b) :
    ∀ (l : List α) (init : β), l.foldl f init = (l.filter p).foldl f init
  | [], _ => rfl
  | a :: l, init => by
      cases kept : p a
      · simp only [List.foldl_cons, skip init a kept, List.filter_cons, kept]
        exact foldl_filter_of_skip f p skip l init
      · simp only [List.foldl_cons, List.filter_cons, kept, if_true]
        exact foldl_filter_of_skip f p skip l _

namespace MemoryCache

def SameLive (now : Int) (m₁ m₂ : MemoryCache) : Prop :=
  m₁.config = m₂.config ∧
    ∀ key, m₁.data.lookup key = m₂.data.lookup key ∨
      (m₁.lookupLive key now = none ∧ m₂.lookupLive key now = none)

-- The keys `HGetAll` reads a value from: listed by `GetKeys` and live.
def liveKeys (m : MemoryCache) (pattern : String) (now : Int) : List String :=
  (m.getKeys pattern).filter (fun key => (m.lookupLive key now).isSome)

theorem SameLive.rfl (now : Int) (m : MemoryCache) : SameLive now m m :=
  ⟨Eq.refl _, fun _ => Or.inl (Eq.refl _)⟩

theorem cleanup_sameLive (m : MemoryCache) (now : Int) : SameLive now (m.cleanup now) m := by
  refine ⟨Eq.refl _, fun key => ?_⟩
  cases live : m.lookupLive key now with
  | none =>
      have gone : (m.cleanup now).data.lookup key = none := by rw [cleanup_lookup, live]
      exact Or.inr ⟨by simp [MemoryCache.lookupLive, gone], rfl⟩
  | some item =>
      exact Or.inl (by rw [cleanup_lookup, live]; exact (lookup_of_lookupLive live).symm)

section Simulation

variable {now t : Int} {m₁ m₂ : MemoryCache}

theorem SameLive.lookupLive (same : SameLive now m₁ m₂) (late : now ≤ t) (key : String) :
    m₁.lookupLive key t = m₂.lookupLive key t := by
  rcases same.2 key with stored | ⟨dead₁, dead₂⟩
  · exact lookupLive_congr t stored
  · rw [lookupLive_eq_none_of_le dead₁ late, lookupLive_eq_none_of_le dead₂ late]

theorem SameLive.insert (same : SameLive now m₁ m₂) (key : String) (item : MemoryItem) :
    SameLive now (m₁.withData (m₁.data.insert key item)) (m₂.withData (m₂.data.insert key item)) := by
  refine ⟨same.1, fun k => ?_⟩
  by_cases written : k = key
  · subst written
    simp
  · simp only [withData_data, AList.lookup_insert_ne written]
    rcases same.2 k with stored | ⟨dead₁, dead₂⟩
    · exact Or.inl stored
    · exact Or.inr ⟨(lookupLive_congr now (by simp [AList.lookup_insert_ne written])).trans dead₁,
        (lookupLive_congr now (by simp [AList.lookup_insert_ne written])).trans dead₂⟩

-- Erasing keys keeps the relation when both stores erase the same live keys.
theorem SameLive.erase_keys (same : SameLive now m₁ m₂) (keys₁ keys₂ : List String)
    (agree : ∀ key, m₁.data.lookup key = m₂.data.lookup key → (key ∈ keys₁ ↔ key ∈ keys₂)) :
    SameLive now (m₁.withData (keys₁.foldl (fun data k => data.erase k) m₁.data))
      (m₂.withData (keys₂.foldl (fun data k => data.erase k) m₂.data)) := by
  refine ⟨same.1, fun key => ?_⟩
  have dead : ∀ (m : MemoryCache) (keys : List String), m.lookupLive key now = none →
      (m.withData (keys.foldl (fun data k => data.erase k) m.data)).lookupLive key now = none :=
    fun m keys before => by
      rw [lookupLive_eq_none] at before ⊢
      intro item stored
      simp only [withData_data, lookup_foldl_erase] at stored
      split at stored
      · cases stored
      · exact before item stored
  rcases same.2 key with stored | ⟨dead₁, dead₂⟩
  · left
    simp only [withData_data, lookup_foldl_erase, agree key stored, stored]
  · exact Or.inr ⟨dead m₁ keys₁ dead₁, dead m₂ keys₂ dead₂⟩

theorem SameLive.erase (same : SameLive now m₁ m₂) (key : String) :
    SameLive now (m₁.withData (m₁.data.erase key)) (m₂.withData (m₂.data.erase key)) :=
  same.erase_keys [key] [key] (fun _ _ => Iff.rfl)

theorem SameLive.deleteMultiple (same : SameLive now m₁ m₂) (keys : List String) :
    SameLive now (m₁.deleteMultiple keys) (m₂.deleteMultiple keys) := by
  rw [deleteMultiple_eq, deleteMultiple_eq]
  exact same.erase_keys keys keys (fun _ _ => Iff.rfl)

theorem SameLive.deletePattern (same : SameLive now m₁ m₂) (pattern : String) :
    SameLive now (m₁.deletePattern pattern) (m₂.deletePattern pattern) := by
  unfold MemoryCache.deletePattern
  rw [deleteMultiple_eq, deleteMultiple_eq]
  refine same.erase_keys _ _ (fun key stored => ?_)
  simp only [mem_getKeys, ← AList.lookup_isSome, stored]

theorem SameLive.set (same : SameLive now m₁ m₂) (key : String) (value : Bytes) (ttl t : Int) :
    SameLive now (m₁.set key value ttl t) (m₂.set key value ttl t) := by
  unfold MemoryCache.set withDefault
  rw [same.1]
  exact same.insert _ _

theorem SameLive.setMultiple (same : SameLive now m₁ m₂) (items : List Item) (t : Int) :
    SameLive now (m₁.setMultiple items t) (m₂.setMultiple items t) := by
  induction items generalizing m₁ m₂ with
  | nil => exact same
  | cons item items ih => exact ih (same.set item.key item.value item.ttl t)

theorem SameLive.cleanup (same : SameLive now m₁ m₂) (late : now ≤ t) :
    SameLive now (m₁.cleanup t) (m₂.cleanup t) :=
  ⟨same.1, fun key => Or.inl (by rw [cleanup_lookup, cleanup_lookup, same.lookupLive late])⟩

theorem SameLive.get (same : SameLive now m₁ m₂) (late : now ≤ t) (key : String) :
    m₁.get key t = m₂.get key t := by
  simp only [MemoryCache.get, same.lookupLive late]

theorem SameLive.liveKeys (same : SameLive now m₁ m₂) (late : now ≤ t) (pattern : String) :
    m₁.liveKeys pattern t = m₂.liveKeys pattern t := by
  have member : ∀ (m : MemoryCache) key,
      key ∈ m.liveKeys pattern t ↔ keyMatches pattern key = true ∧ (m.lookupLive key t).isSome := by
    intro m key
    simp only [MemoryCache.liveKeys, List.mem_filter, mem_getKeys, and_assoc]
    constructor
    · exact fun ⟨matched, _, live⟩ => ⟨matched, live⟩
    · rintro ⟨matched, live⟩
      obtain ⟨item, found⟩ := Option.isSome_iff_exists.mp live
      exact ⟨matched, mem_of_lookupLive found, live⟩
  exact sorted_keys_eq ((getKeys_sorted _ _).filter _) ((getKeys_sorted _ _).filter _)
    ((getKeys_nodup _ _).filter _) ((getKeys_nodup _ _).filter _)
    (fun key => by rw [member, member, same.lookupLive late])

theorem hGetAll_liveKeys (m : MemoryCache) (key : String) (t : Int) :
    m.hGetAll key t = (m.liveKeys (key ++ "::*") t).foldl (fun result fullKey =>
      if hasPrefix fullKey (key ++ "::") then
        match m.get fullKey t with
        | .ok value => result.insert (trimPrefix fullKey (key ++ "::")) value
        | .error _ => result
      else result) ∅ := by
  refine foldl_filter_of_skip _ _ (fun result fullKey dead => ?_) _ _
  have gone : m.lookupLive fullKey t = none := by simpa using dead
  simp [MemoryCache.get, gone]

theorem SameLive.hGetAll (same : SameLive now m₁ m₂) (late : now ≤ t) (key : String) :
    m₁.hGetAll key t = m₂.hGetAll key t := by
  rw [hGetAll_liveKeys, hGetAll_liveKeys, same.liveKeys late]
  simp only [same.get late]

theorem SameLive.increment (same : SameLive now m₁ m₂) (late : now ≤ t) (key : String)
    (delta ttl : Int) :
    (m₁.increment key delta ttl t).1 = (m₂.increment key delta ttl t).1 ∧
      SameLive now (m₁.increment key delta ttl t).2 (m₂.increment key delta ttl t).2 := by
  have counted : m₁.counterValue key t = m₂.counterValue key t := by
    simp only [counterValue, same.lookupLive late]
  have defaulted : m₁.withDefault ttl = m₂.withDefault ttl := by simp only [withDefault, same.1]
  simp only [MemoryCache.increment, counted, defaulted, true_and]
  exact same.insert _ _

theorem SameLive.sAdd (same : SameLive now m₁ m₂) (late : now ≤ t) (key : String)
    (members : List Bytes) :
    (m₁.sAdd key members t).1 = (m₂.sAdd key members t).1 ∧
      SameLive now (m₁.sAdd key members t).2 (m₂.sAdd key members t).2 := by
  unfold MemoryCache.sAdd
  rw [same.lookupLive late, same.1]
  cases m₂.lookupLive key t with
  | none => exact ⟨Eq.refl _, same.insert _ _⟩
  | some item =>
      dsimp only
      cases deserializeSetMap item.value with
      | error => exact ⟨Eq.refl _, same⟩
      | ok setMap =>
          by_cases unchanged : (addMembers setMap members).2 = 0
          · simp only [unchanged, if_true, true_and]
            exact same
          · simp only [unchanged, if_false, true_and]
            exact same.insert _ _

theorem SameLive.sRem (same : SameLive now m₁ m₂) (late : now ≤ t) (key : String)
    (members : List Bytes) :
    (m₁.sRem key members t).1 = (m₂.sRem key members t).1 ∧
      SameLive now (m₁.sRem key members t).2 (m₂.sRem key members t).2 := by
  unfold MemoryCache.sRem
  rw [same.lookupLive late]
  cases m₂.lookupLive key t with
  | none => exact ⟨Eq.refl _, same⟩
  | some item =>
      dsimp only
      cases deserializeSetMap item.value with
      | error => exact ⟨Eq.refl _, same⟩
      | ok setMap =>
          by_cases unchanged : (removeMembers setMap members).2 = 0
          · simp only [unchanged, if_true, true_and]
            exact same
          · by_cases emptied : (removeMembers setMap members).1.members = []
            · simp only [unchanged, emptied, if_true, if_false, true_and]
              exact same.erase _
            · simp only [unchanged, emptied, if_false, true_and]
              exact same.insert _ _

theorem SameLive.lock (same : SameLive now m₁ m₂) (late : now ≤ t) (key : String) (ttl : Int) :
    (m₁.lock key ttl t).1 = (m₂.lock key ttl t).1 ∧
      SameLive now (m₁.lock key ttl t).2 (m₂.lock key ttl t).2 := by
  unfold MemoryCache.lock
  rw [same.lookupLive late]
  cases m₂.lookupLive (lockKey key) t with
  | none => exact ⟨Eq.refl _, same.insert _ _⟩
  | some _ => exact ⟨Eq.refl _, same⟩

-- The step lemma: a call that reads through the `isExpired` test answers alike on
-- related stores and leaves them related.
theorem SameLive.step (same : SameLive now m₁ m₂) (late : now ≤ t) (op : ClientOp)
    (blind : op.seesExpired = false) :
    (m₁.step op t).1 = (m₂.step op t).1 ∧ SameLive now (m₁.step op t).2 (m₂.step op t).2 := by
  have live := same.lookupLive late
  cases op with
  | get key => exact ⟨by simp only [MemoryCache.step, same.get late], same⟩
  | set key value ttl => exact ⟨Eq.refl _, same.set key value ttl t⟩
  | delete key => exact ⟨Eq.refl _, same.erase key⟩
  | existsKey key => exact ⟨by simp only [MemoryCache.step, MemoryCache.existsKey, live], same⟩
  | getMultiple keys => exact ⟨by simp only [MemoryCache.step, MemoryCache.getMultiple, live], same⟩
  | setMultiple items => exact ⟨Eq.refl _, same.setMultiple items t⟩
  | deleteMultiple keys => exact ⟨Eq.refl _, same.deleteMultiple keys⟩
  | deletePattern pattern => exact ⟨Eq.refl _, same.deletePattern pattern⟩
  | getKeys => cases blind
  | increment key delta ttl =>
      obtain ⟨reply, related⟩ := same.increment late key delta ttl
      exact ⟨by simp only [MemoryCache.step, reply], related⟩
  | decrement key delta ttl =>
      obtain ⟨reply, related⟩ := same.increment late key (wrap64 (-delta)) ttl
      exact ⟨by simp only [MemoryCache.step, MemoryCache.decrement, reply], related⟩
  | hGet key field => exact ⟨by simp only [MemoryCache.step, MemoryCache.hGet, same.get late], same⟩
  | hSet key field value ttl => exact ⟨Eq.refl _, same.set _ value ttl t⟩
  | hGetAll key => exact ⟨by simp only [MemoryCache.step, same.hGetAll late], same⟩
  | hDelete key fields => exact ⟨Eq.refl _, same.deleteMultiple _⟩
  | sAdd key members =>
      obtain ⟨reply, related⟩ := same.sAdd late key members
      exact ⟨by simp only [MemoryCache.step, reply], related⟩
  | sRem key members =>
      obtain ⟨reply, related⟩ := same.sRem late key members
      exact ⟨by simp only [MemoryCache.step, reply], related⟩
  | sMembers key => exact ⟨by simp only [MemoryCache.step, MemoryCache.sMembers, live], same⟩
  | sIsMember key member => exact ⟨by simp only [MemoryCache.step, MemoryCache.sIsMember, live], same⟩
  | sCard key => exact ⟨by simp only [MemoryCache.step, MemoryCache.sCard, live], same⟩
  | lock key ttl =>
      obtain ⟨reply, related⟩ := same.lock late key ttl
      exact ⟨by simp only [MemoryCache.step, reply], related⟩
  | unlock key => exact ⟨Eq.refl _, same.erase _⟩
  | getTTL => cases blind
  | setTTL => cases blind
  | flushAll => exact ⟨Eq.refl _, same.1, fun _ => Or.inl (Eq.refl _)⟩
  | sweep => exact ⟨Eq.refl _, same.cleanup late⟩

-- A call looks up the same live keys on related stores, so it adds the same hits.
theorem SameLive.lookups_live (same : SameLive now m₁ m₂) (late : now ≤ t) (op : ClientOp) :
    ((m₁.lookups op).filter fun key => (m₁.lookupLive key t).isSome) =
      (m₂.lookups op).filter fun key => (m₂.lookupLive key t).isSome := by
  simp only [same.lookupLive late]
  cases op with
  | hGetAll key =>
      have listed := same.liveKeys late (key ++ "::*")
      simp only [MemoryCache.liveKeys, same.lookupLive late] at listed
      have swap : ∀ l : List String, ((l.filter (hasPrefix · (key ++ "::"))).filter
          fun k => (m₂.lookupLive k t).isSome) =
          (l.filter fun k => (m₂.lookupLive k t).isSome).filter (hasPrefix · (key ++ "::")) :=
        fun l => by simp only [List.filter_filter, Bool.and_comm]
      simp only [lookups, swap, listed]
  | _ => rfl

end Simulation

theorem erase_dead_sameLive (m : MemoryCache) {now : Int} {key : String}
    (dead : m.lookupLive key now = none) : SameLive now (m.withData (m.data.erase key)) m := by
  refine ⟨Eq.refl _, fun k => ?_⟩
  by_cases erased : k = key
  · subst erased
    exact Or.inr ⟨by simp [MemoryCache.lookupLive], dead⟩
  · exact Or.inl (by simp [AList.lookup_erase_ne erased])

end MemoryCache

namespace MemoryClient

-- Two clients whose stores are related and whose hit counters agree.
def SameLive (now : Int) (c₁ c₂ : MemoryClient) : Prop :=
  c₁.cache.SameLive now c₂.cache ∧ c₁.hits = c₂.hits

section Simulation

variable {now t : Int} {c₁ c₂ : MemoryClient}

theorem SameLive.step (same : SameLive now c₁ c₂) (late : now ≤ t) (call : ClientCall)
    (blind : call.seesExpired = false) :
    (c₁.step call t).1 = (c₂.step call t).1 ∧ SameLive now (c₁.step call t).2 (c₂.step call t).2 := by
  cases call with
  | stats => cases blind
  | op op =>
      obtain ⟨reply, related⟩ := same.1.step late op blind
      refine ⟨reply, related, ?_⟩
      simp only [MemoryClient.step, foldl_record_hits, same.2, same.1.lookups_live late op]

-- The run lemma: related clients answer every such sequence of calls alike.
theorem SameLive.run (same : SameLive now c₁ c₂) (ops : List (ClientCall × Int))
    (calls : ∀ call ∈ ops, now ≤ call.2 ∧ call.1.seesExpired = false) :
    (c₁.run ops).1 = (c₂.run ops).1 ∧ SameLive now (c₁.run ops).2 (c₂.run ops).2 := by
  induction ops generalizing c₁ c₂ with
  | nil => exact ⟨rfl, same⟩
  | cons call rest ih =>
      obtain ⟨late, blind⟩ := calls call (List.mem_cons_self _ _)
      obtain ⟨reply, related⟩ := same.step late call.1 blind
      obtain ⟨replies, final⟩ :=
        ih related (fun later member => calls later (List.mem_cons_of_mem _ member))
      exact ⟨by simp only [run, reply, replies], final⟩

end Simulation

/-- Neither the sweep at `now` nor the erasure of a key expired at `now` can be
seen by a sequence of calls at instants from `now` on that calls none of
`GetKeys`, `GetTTL`, `SetTTL` and `Stats`: every reply is the same, and so is the
hit counter a later `Stats` reads. -/
theorem cleanup_unobservable (c : MemoryClient) (now : Int) (ops : List (ClientCall × Int))
    (calls : ∀ call ∈ ops, now ≤ call.2 ∧ call.1.seesExpired = false) :
    (({ c with cache := c.cache.cleanup now } : MemoryClient).run ops).1 = (c.run ops).1 ∧
    (({ c with cache := c.cache.cleanup now } : MemoryClient).run ops).2.hits = (c.run ops).2.hits ∧
    ∀ key, c.cache.lookupLive key now = none →
      (({ c with cache := c.cache.withData (c.cache.data.erase key) } : MemoryClient).run ops).1 =
        (c.run ops).1 ∧
      (({ c with cache := c.cache.withData (c.cache.data.erase key) } : MemoryClient).run ops).2.hits =
        (c.run ops).2.hits := by
  have swept := SameLive.run
    (show SameLive now { c with cache := c.cache.cleanup now } c from ⟨c.cache.cleanup_sameLive now, rfl⟩)
    ops calls
  refine ⟨swept.1, swept.2.2, fun key dead => ?_⟩
  have erased := SameLive.run (show SameLive now
    { c with cache := c.cache.withData (c.cache.data.erase key) } c from
    ⟨c.cache.erase_dead_sameLive dead, rfl⟩) ops calls
  exact ⟨erased.1, erased.2.2⟩

theorem cleanup_unobservable_at_ten :
    let c : MemoryClient := ⟨⟨(∅ : ItemMap).insert "k" ⟨[1], some 5⟩, ⟨0⟩⟩, 0, 0⟩
    let ops : List (ClientCall × Int) :=
      [(.op (.get "k"), 10), (.op (.hGetAll "k"), 10), (.op (.increment "k" 1 0), 20)]
    (({ c with cache := c.cache.cleanup 10 } : MemoryClient).run ops).1 = (c.run ops).1 ∧
      (({ c with cache := c.cache.cleanup 10 } : MemoryClient).run ops).2.hits = (c.run ops).2.hits :=
  have unobservable := cleanup_unobservable ⟨⟨(∅ : ItemMap).insert "k" ⟨[1], some 5⟩, ⟨0⟩⟩, 0, 0⟩ 10
    [(.op (.get "k"), 10), (.op (.hGetAll "k"), 10), (.op (.increment "k" 1 0), 20)] (by decide)
  ⟨unobservable.1, unobservable.2.1⟩

-- A key expired at 5 and still stored at 10: `GetKeys` lists it, `GetTTL` answers 0
-- instead of `ErrKeyNotFound`, `SetTTL` revives its stale value, and `Stats` counts it
-- among the keys. The field `h::f` expired at 5: `HGetAll` of `h` counts a miss for it
-- before the sweep and none after.
theorem expired_key_observable :
    (⟨(∅ : ItemMap).insert "k" ⟨[1], some 5⟩, ⟨0⟩⟩ : MemoryCache).getKeys "*" = ["k"] ∧
    ((⟨(∅ : ItemMap).insert "k" ⟨[1], some 5⟩, ⟨0⟩⟩ : MemoryCache).cleanup 10).getKeys "*" = [] ∧
    (⟨(∅ : ItemMap).insert "k" ⟨[1], some 5⟩, ⟨0⟩⟩ : MemoryCache).getTTL "k" 10 = .ok 0 ∧
    ((⟨(∅ : ItemMap).insert "k" ⟨[1], some 5⟩, ⟨0⟩⟩ : MemoryCache).cleanup 10).getTTL "k" 10 =
      .error .keyNotFound ∧
    ((⟨(∅ : ItemMap).insert "k" ⟨[1], some 5⟩, ⟨0⟩⟩ : MemoryCache).setTTL "k" minute 10).2.get
      "k" 20 = .ok [1] ∧
    (((⟨(∅ : ItemMap).insert "k" ⟨[1], some 5⟩, ⟨0⟩⟩ : MemoryCache).cleanup 10).setTTL "k"
      minute 10).2.get "k" 20 = .error .keyNotFound ∧
    ((⟨⟨(∅ : ItemMap).insert "k" ⟨[1], some 5⟩, ⟨0⟩⟩, 0, 0⟩ : MemoryClient).step .stats 10).1 =
      .stats ⟨0, 0, 1⟩ ∧
    ((⟨(⟨(∅ : ItemMap).insert "k" ⟨[1], some 5⟩, ⟨0⟩⟩ : MemoryCache).cleanup 10, 0, 0⟩ :
      MemoryClient).step .stats 10).1 = .stats ⟨0, 0, 0⟩ ∧
    ((⟨⟨(∅ : ItemMap).insert "h::f" ⟨[1], some 5⟩, ⟨0⟩⟩, 0, 0⟩ : MemoryClient).run
      [(.op (.hGetAll "h"), 10)]).2.misses = 1 ∧
    ((⟨(⟨(∅ : ItemMap).insert "h::f" ⟨[1], some 5⟩, ⟨0⟩⟩ : MemoryCache).cleanup 10, 0, 0⟩ :
      MemoryClient).run [(.op (.hGetAll "h"), 10)]).2.misses = 0 := by
  refine ⟨by decide, by decide, by decide, by decide, by decide, by decide, rfl, rfl, by decide,
    by decide⟩

end MemoryClient

end GoCleanArch
