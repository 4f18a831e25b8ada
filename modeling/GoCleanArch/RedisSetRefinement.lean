import GoCleanArch.RedisCache
import GoCleanArch.SetRefinement

/-!
The set calls of `RedisCache` on one key against the abstract set of
SetRefinement. The server keeps a set as its members, so no codec stands between
a call and the set; an SADD whose members are all new to the key is followed by
an EXPIRE, which moves the deadline and not the members. While the key holds a
non-empty set or nothing and does not expire, a sequence of set calls answers as
`SetCall.spec` does and leaves the key absent exactly when the set is empty
(`redis_set_calls_refine`), and the two backends answer every
such sequence alike, up to the order in which SMEMBERS lists the members
(`set_backends_agree`). go-redis sends SADD and SREM without members as they
are, and Redis refuses them for arity where `MemoryCache` answers 0
(`empty_set_call_diverges`).
-/

namespace GoCleanArch

/-! ### The stored set -/

namespace RedisServer

-- `key` holds a non-empty set with the members of `S`, or nothing and `S` is empty:
-- Redis keeps no empty set.
def Stores (r : RedisServer) (key : String) (S : Finset Bytes) : Prop :=
  match r.keyspace.lookup key with
  | none => S = ∅
  | some ⟨.set setMap, _⟩ => setMap.members ≠ [] ∧ setMap.members.toFinset = S
  | some ⟨.str _, _⟩ => False

def keyLive (r : RedisServer) (key : String) (now : Int) : Bool :=
  match r.keyspace.lookup key with
  | none => true
  | some entry => !isExpired entry now

theorem Stores.absent_iff {r : RedisServer} {key : String} {S : Finset Bytes}
    (stores : r.Stores key S) : r.keyspace.lookup key = none ↔ S = ∅ := by
  unfold Stores at stores
  split at stores
  · next absent => exact ⟨fun _ => stores, fun _ => absent⟩
  · next present =>
      obtain ⟨nonempty, rfl⟩ := stores
      simp only [present, reduceCtorEq, false_iff, List.toFinset_eq_empty_iff]
      exact nonempty
  · contradiction

theorem Stores.cases {r : RedisServer} {key : String} {S : Finset Bytes} {now : Int}
    (stores : r.Stores key S) (live : r.keyLive key now = true) :
    (r.lookupLive key now = none ∧ S = ∅) ∨
      ∃ setMap expiresAt, r.lookupLive key now = some ⟨.set setMap, expiresAt⟩ ∧
        setMap.members.toFinset = S := by
  unfold keyLive at live
  unfold Stores at stores
  cases found : r.keyspace.lookup key with
  | none => exact .inl ⟨by simp [lookupLive, found], by simpa [found] using stores⟩
  | some entry =>
      rcases entry with ⟨bytes | setMap, expiresAt⟩
      · simp [found] at stores
      · simp only [found, Bool.not_eq_true'] at stores live
        exact .inr ⟨setMap, expiresAt, by simp [lookupLive, found, live], stores.2⟩

theorem stores_insert (r : RedisServer) (key : String) {setMap : SetMap} (nonempty : setMap.members ≠ [])
    (expiresAt : Option Int) :
    (⟨r.keyspace.insert key ⟨.set setMap, expiresAt⟩⟩ : RedisServer).Stores key
      setMap.members.toFinset := by
  simpa only [Stores, AList.lookup_insert, and_true] using nonempty

theorem stores_erase (r : RedisServer) (key : String) :
    (⟨r.keyspace.erase key⟩ : RedisServer).Stores key ∅ := by
  simp only [Stores, AList.lookup_erase]

theorem Stores.expire {r : RedisServer} {key : String} {S : Finset Bytes}
    (stores : r.Stores key S) {seconds : Int} (positive : 0 < seconds) (now : Int) :
    (r.expire key seconds now).2.Stores key S := by
  unfold RedisServer.expire
  split
  · exact stores
  · rename_i entry live
    have stored := lookup_of_lookupLive live
    rw [if_neg (by omega)]
    unfold Stores at stores ⊢
    rcases entry with ⟨bytes | setMap, expiresAt⟩
    · simp [stored] at stores
    · simpa [stored] using stores

/-! ### One command -/

theorem sadd_write {r : RedisServer} {key : String} {S : Finset Bytes} {members : List Bytes}
    (stores : r.Stores key S) {grown : SetMap} {added : Int}
    (union : grown.members.toFinset = S ∪ members.toFinset)
    (counted : added = (members.toFinset \ S).card) (expiresAt : Option Int) :
    let result : Except String Int × RedisServer := if added = 0 then (.ok 0, r)
      else (.ok added, ⟨r.keyspace.insert key ⟨.set grown, expiresAt⟩⟩)
    result.1 = .ok (members.toFinset \ S).card ∧ result.2.Stores key (S ∪ members.toFinset) := by
  intro result
  by_cases none : added = 0
  · have empty : members.toFinset \ S = ∅ := Finset.card_eq_zero.mp (by omega)
    simp only [result, if_pos none, empty, Finset.card_empty, Nat.cast_zero,
      Finset.union_eq_left.mpr (Finset.sdiff_eq_empty_iff_subset.mp empty)]
    exact ⟨by simp, stores⟩
  · have grown_nonempty : grown.members ≠ [] := by
      rintro empty
      have subset : members.toFinset ⊆ S := fun x member => by
        have := Finset.mem_union_right S member
        rw [← union, empty] at this
        cases this
      exact none (by rw [counted, Finset.sdiff_eq_empty_iff_subset.mpr subset]; rfl)
    simp only [result, if_neg none, counted, true_and]
    exact union ▸ stores_insert r key grown_nonempty expiresAt

theorem sadd_refines {r : RedisServer} {key : String} {S : Finset Bytes} {now : Int}
    {members : List Bytes} (stores : r.Stores key S) (live : r.keyLive key now = true)
    (nonempty : members ≠ []) :
    (r.sadd key members now).1 = .ok (members.toFinset \ S).card ∧
      (r.sadd key members now).2.Stores key (S ∪ members.toFinset) := by
  rcases stores.cases live with ⟨absent, rfl⟩ | ⟨setMap, expiresAt, present, rfl⟩
  · obtain ⟨union, counted⟩ := foldl_addMembers members SetMap.empty 0
    simp only [sadd, if_neg nonempty, absent]
    exact sadd_write stores (by simpa [SetMap.empty] using union)
      (by simpa [SetMap.empty] using counted) none
  · obtain ⟨union, counted⟩ := foldl_addMembers members setMap 0
    simp only [sadd, if_neg nonempty, present]
    exact sadd_write stores union (by simpa using counted) expiresAt

theorem srem_write {r : RedisServer} {key : String} {S : Finset Bytes} {members : List Bytes}
    (stores : r.Stores key S) {shrunk : SetMap} {removed : Int}
    (difference : shrunk.members.toFinset = S \ members.toFinset)
    (counted : removed = (members.toFinset ∩ S).card) (expiresAt : Option Int) :
    let result : Except String Int × RedisServer := if removed = 0 then (.ok 0, r)
      else if shrunk.members = [] then (.ok removed, ⟨r.keyspace.erase key⟩)
      else (.ok removed, ⟨r.keyspace.insert key ⟨.set shrunk, expiresAt⟩⟩)
    result.1 = .ok (members.toFinset ∩ S).card ∧ result.2.Stores key (S \ members.toFinset) := by
  intro result
  by_cases none : removed = 0
  · have disjoint : members.toFinset ∩ S = ∅ := Finset.card_eq_zero.mp (by omega)
    have apart : Disjoint S members.toFinset :=
      Finset.disjoint_iff_inter_eq_empty.mpr (by rw [Finset.inter_comm]; exact disjoint)
    simp only [result, if_pos none, disjoint, Finset.card_empty, Nat.cast_zero,
      Finset.sdiff_eq_self_of_disjoint apart]
    exact ⟨by simp, stores⟩
  · simp only [result, if_neg none]
    split
    · rename_i emptied
      rw [← difference, emptied]
      exact ⟨by rw [counted], stores_erase r key⟩
    · exact ⟨by rw [counted], difference ▸ stores_insert r key ‹_› expiresAt⟩

theorem srem_refines {r : RedisServer} {key : String} {S : Finset Bytes} {now : Int}
    {members : List Bytes} (stores : r.Stores key S) (live : r.keyLive key now = true)
    (nonempty : members ≠ []) :
    (r.srem key members now).1 = .ok (members.toFinset ∩ S).card ∧
      (r.srem key members now).2.Stores key (S \ members.toFinset) := by
  rcases stores.cases live with ⟨absent, rfl⟩ | ⟨setMap, expiresAt, present, rfl⟩
  · exact ⟨by simp [srem, nonempty, absent], by simpa [srem, nonempty, absent] using stores⟩
  · obtain ⟨difference, counted⟩ := foldl_removeMembers members setMap 0
    simp only [srem, if_neg nonempty, present]
    exact srem_write stores difference (by simpa using counted) expiresAt

theorem smembers_refines {r : RedisServer} {key : String} {S : Finset Bytes} {now : Int}
    (stores : r.Stores key S) (live : r.keyLive key now = true) :
    ∃ listed, r.smembers key now = .ok listed ∧ listed.Nodup ∧ listed.toFinset = S := by
  rcases stores.cases live with ⟨absent, rfl⟩ | ⟨setMap, expiresAt, present, rfl⟩
  · exact ⟨[], by simp [smembers, absent], List.nodup_nil, rfl⟩
  · exact ⟨setMap.members, by simp [smembers, present], setMap.nodup, rfl⟩

theorem sismember_refines {r : RedisServer} {key : String} {S : Finset Bytes} {now : Int}
    (member : Bytes) (stores : r.Stores key S) (live : r.keyLive key now = true) :
    r.sismember key member now = .ok (decide (member ∈ S)) := by
  rcases stores.cases live with ⟨absent, rfl⟩ | ⟨setMap, expiresAt, present, rfl⟩
  · simp [sismember, absent]
  · simp [sismember, present]

theorem scard_refines {r : RedisServer} {key : String} {S : Finset Bytes} {now : Int}
    (stores : r.Stores key S) (live : r.keyLive key now = true) :
    r.scard key now = .ok S.card := by
  rcases stores.cases live with ⟨absent, rfl⟩ | ⟨setMap, expiresAt, present, rfl⟩
  · simp [scard, absent]
  · simp [scard, present, List.toFinset_card_of_nodup setMap.nodup]

end RedisServer

/-! ### One call -/

namespace SetCall

-- Redis refuses SADD and SREM without a member: their arity is at least three.
def meetsArity : SetCall → Bool
  | .sAdd members => !members.isEmpty
  | .sRem members => !members.isEmpty
  | _ => true

-- Two answers that agree with one abstract set are equal, or list its members
-- in two orders.
theorem Answers.agree {S : Finset Bytes} {call : SetCall} {reply reply' : Reply}
    (answers : call.Answers S reply) (answers' : call.Answers S reply') :
    reply = reply' ∨ ∃ listed listed', reply = .members (.ok listed) ∧
      reply' = .members (.ok listed') ∧ listed.Perm listed' := by
  cases call with
  | sMembers =>
      obtain ⟨listed, rfl, distinct, same⟩ := answers
      obtain ⟨listed', rfl, distinct', same'⟩ := answers'
      exact .inr ⟨listed, listed', rfl, rfl,
        List.perm_of_nodup_nodup_toFinset_eq distinct distinct' (same.trans same'.symm)⟩
  | sAdd | sRem | sIsMember | sCard => exact .inl (answers.trans answers'.symm)

end SetCall

namespace RedisCache

-- One set call on `key`, with the reply of its Go result types.
def setStep (r : RedisCache) (key : String) (call : SetCall) (now : Int) : Reply × RedisCache :=
  match call with
  | .sAdd members =>
      let result := r.sAdd key members now
      (.count result.1, result.2)
  | .sRem members =>
      let result := r.sRem key members now
      (.count result.1, result.2)
  | .sMembers => (.members (r.sMembers key now), r)
  | .sIsMember member => (.member (r.sIsMember key member now), r)
  | .sCard => (.count (r.sCard key now), r)

def setRun (r : RedisCache) (key : String) : List (SetCall × Int) → List Reply × RedisCache
  | [] => ([], r)
  | (call, now) :: rest =>
      let first := r.setStep key call now
      let later := setRun first.2 key rest
      (first.1 :: later.1, later.2)

-- The key is live at each call's instant, in the states the calls themselves leave.
def liveThroughout (r : RedisCache) (key : String) : List (SetCall × Int) → Bool
  | [] => true
  | (call, now) :: rest =>
      r.server.keyLive key now && liveThroughout (r.setStep key call now).2 key rest

theorem sAdd_refines {r : RedisCache} {key : String} {S : Finset Bytes} {now : Int}
    {members : List Bytes} (stores : r.server.Stores key S) (live : r.server.keyLive key now = true)
    (nonempty : members ≠ []) :
    (r.sAdd key members now).1 = .ok (members.toFinset \ S).card ∧
      (r.sAdd key members now).2.server.Stores key (S ∪ members.toFinset) := by
  obtain ⟨reply, next⟩ := RedisServer.sadd_refines stores live nonempty
  rcases written : r.server.sadd key members now with ⟨_ | added, server⟩ <;>
    simp only [written, Except.ok.injEq] at reply next
  · cases reply
  subst reply
  simp only [sAdd, written, withServer_server]
  split
  · rename_i positive
    split
    · split
      · exact ⟨rfl, next.expire (formatSec_pos positive.1) now⟩
      · exact ⟨rfl, next⟩
    · exact ⟨rfl, next⟩
  · exact ⟨rfl, next⟩

theorem sRem_refines {r : RedisCache} {key : String} {S : Finset Bytes} {now : Int}
    {members : List Bytes} (stores : r.server.Stores key S) (live : r.server.keyLive key now = true)
    (nonempty : members ≠ []) :
    (r.sRem key members now).1 = .ok (members.toFinset ∩ S).card ∧
      (r.sRem key members now).2.server.Stores key (S \ members.toFinset) := by
  obtain ⟨reply, next⟩ := RedisServer.srem_refines stores live nonempty
  rcases written : r.server.srem key members now with ⟨_ | removed, server⟩ <;>
    simp only [written, Except.ok.injEq] at reply next
  · cases reply
  subst reply
  simp only [sRem, written, withServer_server, true_and]
  exact next

-- One set call that meets Redis's arity, at a live key, answers as the abstract
-- set and stores the next one.
theorem setStep_refines {r : RedisCache} {key : String} {S : Finset Bytes} {now : Int}
    (call : SetCall) (stores : r.server.Stores key S) (live : r.server.keyLive key now = true)
    (arity : call.meetsArity = true) :
    call.Answers S (r.setStep key call now).1 ∧
      (r.setStep key call now).2.server.Stores key (call.spec S) := by
  cases call with
  | sAdd members =>
      obtain ⟨reply, next⟩ := sAdd_refines stores live (by simpa [SetCall.meetsArity] using arity)
      exact ⟨by simp only [SetCall.Answers, setStep, reply], next⟩
  | sRem members =>
      obtain ⟨reply, next⟩ := sRem_refines stores live (by simpa [SetCall.meetsArity] using arity)
      exact ⟨by simp only [SetCall.Answers, setStep, reply], next⟩
  | sMembers =>
      obtain ⟨listed, reply, distinct, same⟩ := RedisServer.smembers_refines stores live
      exact ⟨⟨listed, by simp only [setStep, sMembers, reply], distinct, same⟩, stores⟩
  | sIsMember member =>
      exact ⟨by simp only [SetCall.Answers, setStep, sIsMember,
        RedisServer.sismember_refines member stores live], stores⟩
  | sCard =>
      exact ⟨by simp only [SetCall.Answers, setStep, sCard, RedisServer.scard_refines stores live],
        stores⟩

end RedisCache

/-! ### Runs -/

theorem RedisCache.setRun_refines (r : RedisCache) (key : String) (S : Finset Bytes)
    (calls : List (SetCall × Int)) (stores : r.server.Stores key S)
    (arity : ∀ call ∈ calls, call.1.meetsArity = true)
    (live : r.liveThroughout key calls = true) :
    SetCall.AnswersRun S (calls.map (·.1)) (r.setRun key calls).1 ∧
      (r.setRun key calls).2.server.Stores key ((calls.map (·.1)).foldl SetCall.spec S) := by
  induction calls generalizing r S with
  | nil => exact ⟨trivial, stores⟩
  | cons call rest ih =>
      obtain ⟨c, now⟩ := call
      simp only [RedisCache.liveThroughout, Bool.and_eq_true] at live
      obtain ⟨first, next⟩ := RedisCache.setStep_refines c stores live.1
        (arity _ (List.mem_cons_self _ _))
      obtain ⟨answers, stored⟩ := ih _ _ next
        (fun call member => arity call (List.mem_cons_of_mem _ member)) live.2
      exact ⟨⟨first, answers⟩, stored⟩

-- Set calls on one key that meet Redis's arity, with no other call writing the key
-- and the key live throughout, answer as one abstract set does, starting from the
-- set the key holds; and the key is gone exactly when that set is empty, so an SREM
-- of the last member deletes it.
theorem redis_set_calls_refine (r : RedisCache) (key : String) (S : Finset Bytes)
    (calls : List (SetCall × Int)) (stores : r.server.Stores key S)
    (arity : ∀ call ∈ calls, call.1.meetsArity = true)
    (live : r.liveThroughout key calls = true) :
    SetCall.AnswersRun S (calls.map (·.1)) (r.setRun key calls).1 ∧
      (r.setRun key calls).2.server.Stores key ((calls.map (·.1)).foldl SetCall.spec S) ∧
      ((r.setRun key calls).2.server.keyspace.lookup key = none ↔
        (calls.map (·.1)).foldl SetCall.spec S = ∅) :=
  have refines := r.setRun_refines key S calls stores arity live
  ⟨refines.1, refines.2, refines.2.absent_iff⟩

theorem redis_set_calls_refine_add_then_remove :
    let calls : List (SetCall × Int) :=
      [(.sAdd [[1], [1], [2]], 0), (.sIsMember [1], 1), (.sRem [[1], [2]], 2), (.sCard, 3)]
    let r : RedisCache := ⟨⟨∅⟩, ⟨1000000000⟩⟩
    (∀ call ∈ calls, call.1.meetsArity = true) ∧ r.liveThroughout "k" calls = true ∧
      SetCall.AnswersRun ∅ (calls.map (·.1)) (r.setRun "k" calls).1 ∧
      (r.setRun "k" calls).2.server.Stores "k" ((calls.map (·.1)).foldl SetCall.spec ∅) ∧
      ((r.setRun "k" calls).2.server.keyspace.lookup "k" = none ↔
        (calls.map (·.1)).foldl SetCall.spec ∅ = ∅) :=
  ⟨by decide, by decide, redis_set_calls_refine ⟨⟨∅⟩, ⟨1000000000⟩⟩ "k" ∅ _ rfl (by decide) (by decide)⟩

-- From one set held by both backends, set calls on the key that meet Redis's
-- arity and pass members the codec can frame, with the key live on each backend,
-- get replies that agree call by call: equal, or SMEMBERS listing the same members
-- in another order.
theorem set_backends_agree (m : MemoryCache) (r : RedisCache) (key : String) (S : Finset Bytes)
    (calls : List (SetCall × Int)) (memoryStores : m.Stores key S) (redisStores : r.server.Stores key S)
    (short : ∀ call ∈ calls, ∀ x ∈ call.1.members, x.length < 4294967296)
    (arity : ∀ call ∈ calls, call.1.meetsArity = true)
    (memoryLive : m.liveThroughout key (calls.map fun call => (call.1.op key, call.2)) = true)
    (redisLive : r.liveThroughout key calls = true) :
    List.Forall₂ (fun reply reply' => reply = reply' ∨ ∃ listed listed',
        reply = .members (.ok listed) ∧ reply' = .members (.ok listed') ∧ listed.Perm listed')
      (m.run (calls.map fun call => (call.1.op key, call.2))).1 (r.setRun key calls).1 := by
  induction calls generalizing m r S with
  | nil => exact .nil
  | cons call rest ih =>
      obtain ⟨c, now⟩ := call
      simp only [List.map_cons, MemoryCache.liveThroughout, RedisCache.liveThroughout,
        Bool.and_eq_true] at memoryLive redisLive
      obtain ⟨memoryFirst, memoryNext⟩ := MemoryCache.step_refines c memoryStores memoryLive.1
        (short _ (List.mem_cons_self _ _))
      obtain ⟨redisFirst, redisNext⟩ := RedisCache.setStep_refines c redisStores redisLive.1
        (arity _ (List.mem_cons_self _ _))
      exact .cons (memoryFirst.agree redisFirst) (ih _ _ _ memoryNext redisNext
        (fun call member => short call (List.mem_cons_of_mem _ member))
        (fun call member => arity call (List.mem_cons_of_mem _ member)) memoryLive.2 redisLive.2)

theorem set_backends_agree_from_empty :
    let calls : List (SetCall × Int) :=
      [(.sAdd [[1], [2]], 0), (.sMembers, 1), (.sIsMember [2], 2), (.sRem [[2], [3]], 3)]
    let m : MemoryCache := ⟨∅, ⟨1000000000⟩⟩
    let r : RedisCache := ⟨⟨∅⟩, ⟨1000000000⟩⟩
    m.Stores "k" ∅ ∧ (∀ call ∈ calls, ∀ x ∈ call.1.members, x.length < 4294967296) ∧
      (∀ call ∈ calls, call.1.meetsArity = true) ∧
      m.liveThroughout "k" (calls.map fun call => (call.1.op "k", call.2)) = true ∧
      r.liveThroughout "k" calls = true ∧
      List.Forall₂ (fun reply reply' => reply = reply' ∨ ∃ listed listed',
          reply = .members (.ok listed) ∧ reply' = .members (.ok listed') ∧ listed.Perm listed')
        (m.run (calls.map fun call => (call.1.op "k", call.2))).1 (r.setRun "k" calls).1 :=
  ⟨⟨by simp, rfl⟩, by decide, by decide, by decide, by decide,
    set_backends_agree ⟨∅, ⟨1000000000⟩⟩ ⟨⟨∅⟩, ⟨1000000000⟩⟩ "k" ∅ _ ⟨by simp, rfl⟩ rfl
      (by decide) (by decide) (by decide) (by decide)⟩

/-! ### Calls without members -/

-- SAdd and SRem without members: Redis refuses both for arity and keeps its state,
-- while `MemoryCache` answers 0 to both and its SAdd writes an empty set at an
-- absent key, which `Exists` then reports.
theorem empty_set_call_diverges (r : RedisCache) (m : MemoryCache) (key : String) (now : Int)
    (absent : m.lookupLive key now = none) :
    r.sAdd key [] now = (.error (.operation "sadd" key RedisServer.saddArity), r) ∧
      r.sRem key [] now = (.error (.operation "srem" key RedisServer.sremArity), r) ∧
      (m.sAdd key [] now).1 = .ok 0 ∧ (m.sAdd key [] now).2.existsKey key now = true ∧
      (m.sRem key [] now).1 = .ok 0 := by
  refine ⟨by simp [RedisCache.sAdd, RedisServer.sadd_nil], by simp [RedisCache.sRem, RedisServer.srem],
    by simp [MemoryCache.sAdd, absent, MemoryCache.addMembers], ?_, by simp [MemoryCache.sRem, absent]⟩
  have written : (m.sAdd key [] now).2 = m.withData (m.data.insert key
      ⟨serializeSetMap SetMap.empty, MemoryCache.expiryAfter m.config.defaultTTL now⟩) := by
    simp [MemoryCache.sAdd, absent, MemoryCache.addMembers]
  rw [written]
  unfold MemoryCache.expiryAfter
  split <;> simp [MemoryCache.existsKey, MemoryCache.lookupLive, MemoryCache.isExpired, after]
  omega

end GoCleanArch
