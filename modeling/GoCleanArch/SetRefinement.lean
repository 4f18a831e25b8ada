import GoCleanArch.ClientOp
import Mathlib.Data.Finset.Card

/-!
The set calls of `MemoryCache` on one key against a finite set of byte strings.
`SAdd` and `SRem` count the members they add or remove through the loops
`addMembers` and `removeMembers`, and both write the set back through the
length-prefixed codec, which is exact for members under 2^32 bytes
(`deserializeSetMap_serializeSetMap`). While the key does not expire, a sequence
of set calls answers as the abstract set `SetCall.spec` does (`set_calls_refine`).
-/

namespace GoCleanArch

-- The set calls, on the key the refinement is about.
inductive SetCall where
  | sAdd (members : List Bytes)
  | sRem (members : List Bytes)
  | sMembers
  | sIsMember (member : Bytes)
  | sCard

namespace SetCall

def op (key : String) : SetCall → ClientOp
  | .sAdd members => .sAdd key members
  | .sRem members => .sRem key members
  | .sMembers => .sMembers key
  | .sIsMember member => .sIsMember key member
  | .sCard => .sCard key

def members : SetCall → List Bytes
  | .sAdd members => members
  | .sRem members => members
  | .sIsMember member => [member]
  | _ => []

-- The abstract set after a call.
def spec (S : Finset Bytes) : SetCall → Finset Bytes
  | .sAdd members => S ∪ members.toFinset
  | .sRem members => S \ members.toFinset
  | _ => S

-- The answer the abstract set gives; `SMembers` may list the members in any order.
def Answers (S : Finset Bytes) : SetCall → Reply → Prop
  | .sAdd members, reply => reply = .count (.ok (members.toFinset \ S).card)
  | .sRem members, reply => reply = .count (.ok (members.toFinset ∩ S).card)
  | .sMembers, reply => ∃ listed, reply = .members (.ok listed) ∧ listed.Nodup ∧ listed.toFinset = S
  | .sIsMember member, reply => reply = .member (.ok (decide (member ∈ S)))
  | .sCard, reply => reply = .count (.ok S.card)

end SetCall

/-! ### The member loops -/

theorem card_erase_add_one_eq_card_insert (B : Finset Bytes) (x : Bytes) :
    (B.erase x).card + 1 = (insert x B).card := by
  by_cases present : x ∈ B
  · rw [Finset.card_erase_add_one present, Finset.insert_eq_of_mem present]
  · rw [Finset.erase_eq_of_not_mem present, Finset.card_insert_of_not_mem present]

theorem insert_toFinset (setMap : SetMap) (x : Bytes) :
    (setMap.insert x).members.toFinset = insert x setMap.members.toFinset := by
  ext y
  simp [SetMap.mem_insert, or_comm]

theorem erase_toFinset (setMap : SetMap) (x : Bytes) :
    (setMap.erase x).members.toFinset = setMap.members.toFinset.erase x := by
  ext y
  simp [SetMap.mem_erase, and_comm]

-- `SAdd`'s loop from any count: the union, and the members not yet in the set.
theorem foldl_addMembers (members : List Bytes) (setMap : SetMap) (count : Int) :
    let result := members.foldl (fun acc member =>
      if member ∈ acc.1.members then acc else (acc.1.insert member, acc.2 + 1)) (setMap, count)
    result.1.members.toFinset = setMap.members.toFinset ∪ members.toFinset ∧
      result.2 = count + (members.toFinset \ setMap.members.toFinset).card := by
  induction members generalizing setMap count with
  | nil => simp
  | cons x rest ih =>
      simp only [List.foldl_cons, List.toFinset_cons]
      by_cases present : x ∈ setMap.members
      · simp only [present, if_true]
        obtain ⟨members, counted⟩ := ih setMap count
        have inside : x ∈ setMap.members.toFinset := List.mem_toFinset.mpr present
        refine ⟨by rw [members, Finset.union_insert, Finset.insert_eq_of_mem
          (Finset.mem_union_left _ inside)], by rw [counted, Finset.insert_sdiff_of_mem _ inside]⟩
      · simp only [present, if_false]
        obtain ⟨members, counted⟩ := ih (setMap.insert x) (count + 1)
        have outside : x ∉ setMap.members.toFinset := by simpa using present
        refine ⟨by rw [members, insert_toFinset, Finset.insert_union, Finset.union_insert], ?_⟩
        rw [counted, insert_toFinset, Finset.insert_sdiff_of_not_mem _ outside, Finset.sdiff_insert,
          ← card_erase_add_one_eq_card_insert]
        push_cast
        omega

-- `SRem`'s loop from any count: the difference, and the members that were in the set.
theorem foldl_removeMembers (members : List Bytes) (setMap : SetMap) (count : Int) :
    let result := members.foldl (fun acc member =>
      if member ∈ acc.1.members then (acc.1.erase member, acc.2 + 1) else acc) (setMap, count)
    result.1.members.toFinset = setMap.members.toFinset \ members.toFinset ∧
      result.2 = count + (members.toFinset ∩ setMap.members.toFinset).card := by
  induction members generalizing setMap count with
  | nil => simp
  | cons x rest ih =>
      simp only [List.foldl_cons, List.toFinset_cons]
      by_cases present : x ∈ setMap.members
      · simp only [present, if_true]
        obtain ⟨members, counted⟩ := ih (setMap.erase x) (count + 1)
        have inside : x ∈ setMap.members.toFinset := List.mem_toFinset.mpr present
        refine ⟨by rw [members, erase_toFinset, Finset.erase_sdiff_comm, Finset.sdiff_insert], ?_⟩
        rw [counted, erase_toFinset, Finset.inter_erase, Finset.insert_inter_of_mem inside,
          ← card_erase_add_one_eq_card_insert]
        push_cast
        omega
      · simp only [present, if_false]
        obtain ⟨members, counted⟩ := ih setMap count
        have outside : x ∉ setMap.members.toFinset := by simpa using present
        exact ⟨by rw [members, Finset.sdiff_insert_of_not_mem outside],
          by rw [counted, Finset.insert_inter_of_not_mem outside]⟩

theorem addMembers_spec (setMap : SetMap) (members : List Bytes) :
    (MemoryCache.addMembers setMap members).1.members.toFinset = setMap.members.toFinset ∪ members.toFinset ∧
      (MemoryCache.addMembers setMap members).2 = (members.toFinset \ setMap.members.toFinset).card := by
  simpa using foldl_addMembers members setMap 0

theorem removeMembers_spec (setMap : SetMap) (members : List Bytes) :
    (MemoryCache.removeMembers setMap members).1.members.toFinset =
        setMap.members.toFinset \ members.toFinset ∧
      (MemoryCache.removeMembers setMap members).2 = (members.toFinset ∩ setMap.members.toFinset).card := by
  simpa using foldl_removeMembers members setMap 0

/-! ### The stored set -/

namespace MemoryCache

-- `key` holds the encoding of `S`, or is absent and `S` is empty; every member of
-- `S` fits the codec's four-byte length.
def Stores (m : MemoryCache) (key : String) (S : Finset Bytes) : Prop :=
  (∀ x ∈ S, x.length < 4294967296) ∧
    match m.data.lookup key with
    | none => S = ∅
    | some item => ∃ setMap, deserializeSetMap item.value = .ok setMap ∧ setMap.members.toFinset = S

def keyLive (m : MemoryCache) (key : String) (now : Int) : Bool :=
  match m.data.lookup key with
  | none => true
  | some item => !isExpired item now

theorem Stores.cases {m : MemoryCache} {key : String} {S : Finset Bytes} {now : Int}
    (stores : m.Stores key S) (live : m.keyLive key now = true) :
    (m.lookupLive key now = none ∧ m.data.lookup key = none ∧ S = ∅) ∨
      ∃ item setMap, m.lookupLive key now = some item ∧ m.data.lookup key = some item ∧
        deserializeSetMap item.value = .ok setMap ∧ setMap.members.toFinset = S := by
  obtain ⟨-, stored⟩ := stores
  unfold keyLive at live
  cases found : m.data.lookup key with
  | none => exact .inl ⟨by simp [lookupLive, found], rfl, by simpa [found] using stored⟩
  | some item =>
      simp only [found, Bool.not_eq_true'] at stored live
      obtain ⟨setMap, decoded, members⟩ := stored
      exact .inr ⟨item, setMap, by simp [lookupLive, found, live], rfl, decoded, members⟩

theorem stores_insert (m : MemoryCache) (key : String) (item : MemoryItem) (setMap : SetMap)
    (short : ∀ x ∈ setMap.members, x.length < 4294967296)
    (encoded : item.value = serializeSetMap setMap) :
    (m.withData (m.data.insert key item)).Stores key setMap.members.toFinset :=
  ⟨fun x member => short x (List.mem_toFinset.mp member), by
    simp only [Stores, withData_data, AList.lookup_insert]
    exact ⟨setMap, by rw [encoded]; exact deserializeSetMap_serializeSetMap setMap short, rfl⟩⟩

theorem stores_short {m : MemoryCache} {key : String} {S : Finset Bytes}
    (stores : m.Stores key S) {setMap : SetMap} (members : setMap.members.toFinset = S) :
    ∀ x ∈ setMap.members, x.length < 4294967296 :=
  fun x member => stores.1 x (members ▸ List.mem_toFinset.mpr member)

theorem union_short {S : Finset Bytes} {members : List Bytes}
    (old : ∀ x ∈ S, x.length < 4294967296) (new : ∀ x ∈ members, x.length < 4294967296)
    {setMap : SetMap} (added : setMap.members.toFinset = S ∪ members.toFinset) :
    ∀ x ∈ setMap.members, x.length < 4294967296 := by
  intro x member
  have : x ∈ S ∪ members.toFinset := added ▸ List.mem_toFinset.mpr member
  rcases Finset.mem_union.mp this with inS | inNew
  · exact old x inS
  · exact new x (List.mem_toFinset.mp inNew)

theorem sAdd_refines {m : MemoryCache} {key : String} {S : Finset Bytes} {now : Int}
    (members : List Bytes) (stores : m.Stores key S) (live : m.keyLive key now = true)
    (short : ∀ x ∈ members, x.length < 4294967296) :
    (m.sAdd key members now).1 = .ok (members.toFinset \ S).card ∧
      (m.sAdd key members now).2.Stores key (S ∪ members.toFinset) := by
  rcases stores.cases live with ⟨absent, -, rfl⟩ | ⟨item, setMap, present, -, decoded, rfl⟩
  · obtain ⟨added, counted⟩ := addMembers_spec SetMap.empty members
    have fresh : (addMembers SetMap.empty members).1.members.toFinset = members.toFinset := by
      simpa [SetMap.empty] using added
    simp only [sAdd, absent, Finset.sdiff_empty, Finset.empty_union]
    refine ⟨by rw [counted]; simp [SetMap.empty], ?_⟩
    rw [← fresh]
    exact stores_insert m key _ _ (fun x member =>
      short x (List.mem_toFinset.mp (fresh ▸ List.mem_toFinset.mpr member))) rfl
  · obtain ⟨added, counted⟩ := addMembers_spec setMap members
    simp only [sAdd, present, decoded]
    split
    · rename_i none
      have empty : members.toFinset \ setMap.members.toFinset = ∅ :=
        Finset.card_eq_zero.mp (by omega)
      rw [Finset.union_eq_left.mpr (Finset.sdiff_eq_empty_iff_subset.mp empty), empty]
      exact ⟨rfl, stores⟩
    · refine ⟨by rw [counted], ?_⟩
      rw [← added]
      exact stores_insert m key _ _ (union_short stores.1 short added) rfl

theorem sRem_refines {m : MemoryCache} {key : String} {S : Finset Bytes} {now : Int}
    (members : List Bytes) (stores : m.Stores key S) (live : m.keyLive key now = true) :
    (m.sRem key members now).1 = .ok (members.toFinset ∩ S).card ∧
      (m.sRem key members now).2.Stores key (S \ members.toFinset) := by
  rcases stores.cases live with ⟨absent, -, rfl⟩ | ⟨item, setMap, present, -, decoded, rfl⟩
  · simp only [sRem, absent, Finset.inter_empty, Finset.card_empty, Finset.empty_sdiff]
    exact ⟨rfl, stores⟩
  · obtain ⟨removed, counted⟩ := removeMembers_spec setMap members
    have kept : ∀ x ∈ (removeMembers setMap members).1.members, x.length < 4294967296 :=
      fun x member => stores.1 x (Finset.mem_sdiff.mp (removed ▸ List.mem_toFinset.mpr member)).1
    simp only [sRem, present, decoded]
    split
    · rename_i none
      have disjoint : members.toFinset ∩ setMap.members.toFinset = ∅ :=
        Finset.card_eq_zero.mp (by omega)
      rw [Finset.sdiff_eq_self_of_disjoint
        (Finset.disjoint_iff_inter_eq_empty.mpr (by rw [Finset.inter_comm]; exact disjoint)),
        disjoint]
      exact ⟨rfl, stores⟩
    · refine ⟨by split <;> rw [counted], ?_⟩
      rw [← removed]
      split
      · rename_i emptied
        rw [emptied]
        exact ⟨by simp, by simp [Stores, AList.lookup_erase]⟩
      · exact stores_insert m key _ _ kept rfl

theorem sMembers_refines {m : MemoryCache} {key : String} {S : Finset Bytes} {now : Int}
    (stores : m.Stores key S) (live : m.keyLive key now = true) :
    ∃ listed, m.sMembers key now = .ok listed ∧ listed.Nodup ∧ listed.toFinset = S := by
  rcases stores.cases live with ⟨absent, -, rfl⟩ | ⟨item, setMap, present, -, decoded, rfl⟩
  · exact ⟨[], by simp [sMembers, absent], List.nodup_nil, rfl⟩
  · exact ⟨setMap.members, by simp [sMembers, present, decoded], setMap.nodup, rfl⟩

theorem sIsMember_refines {m : MemoryCache} {key : String} {S : Finset Bytes} {now : Int}
    (member : Bytes) (stores : m.Stores key S) (live : m.keyLive key now = true) :
    m.sIsMember key member now = .ok (decide (member ∈ S)) := by
  rcases stores.cases live with ⟨absent, -, rfl⟩ | ⟨item, setMap, present, -, decoded, rfl⟩
  · simp [sIsMember, absent]
  · simp [sIsMember, present, decoded]

theorem sCard_refines {m : MemoryCache} {key : String} {S : Finset Bytes} {now : Int}
    (stores : m.Stores key S) (live : m.keyLive key now = true) :
    m.sCard key now = .ok S.card := by
  rcases stores.cases live with ⟨absent, -, rfl⟩ | ⟨item, setMap, present, -, decoded, rfl⟩
  · simp [sCard, absent]
  · simp [sCard, present, decoded, List.toFinset_card_of_nodup setMap.nodup]

-- One set call at a live key answers as the abstract set and stores the next one.
theorem step_refines {m : MemoryCache} {key : String} {S : Finset Bytes} {now : Int}
    (call : SetCall) (stores : m.Stores key S) (live : m.keyLive key now = true)
    (short : ∀ x ∈ call.members, x.length < 4294967296) :
    call.Answers S (m.step (call.op key) now).1 ∧
      (m.step (call.op key) now).2.Stores key (call.spec S) := by
  cases call with
  | sAdd members =>
      obtain ⟨reply, next⟩ := sAdd_refines members stores live short
      exact ⟨by simp only [SetCall.Answers, SetCall.op, MemoryCache.step, reply], next⟩
  | sRem members =>
      obtain ⟨reply, next⟩ := sRem_refines members stores live
      exact ⟨by simp only [SetCall.Answers, SetCall.op, MemoryCache.step, reply], next⟩
  | sMembers =>
      obtain ⟨listed, reply, distinct, same⟩ := sMembers_refines stores live
      exact ⟨⟨listed, by simp only [SetCall.op, MemoryCache.step, reply], distinct, same⟩, stores⟩
  | sIsMember member =>
      exact ⟨by simp only [SetCall.Answers, SetCall.op, MemoryCache.step,
        sIsMember_refines member stores live], stores⟩
  | sCard =>
      exact ⟨by simp only [SetCall.Answers, SetCall.op, MemoryCache.step,
        sCard_refines stores live], stores⟩

end MemoryCache

/-! ### Runs -/

def SetCall.AnswersRun : Finset Bytes → List SetCall → List Reply → Prop
  | S, call :: calls, reply :: replies =>
      call.Answers S reply ∧ AnswersRun (call.spec S) calls replies
  | _, [], [] => True
  | _, _, _ => False

-- The key is live at each call's instant, in the states the calls themselves leave.
def MemoryCache.liveThroughout (m : MemoryCache) (key : String) : List (ClientOp × Int) → Bool
  | [] => true
  | (op, now) :: rest => m.keyLive key now && liveThroughout (m.step op now).2 key rest

-- Set calls on one key, with no other call writing it and the key live throughout,
-- answer as one abstract set does, starting from the set the key stores.
theorem set_calls_refine (m : MemoryCache) (key : String) (S : Finset Bytes)
    (calls : List (SetCall × Int)) (stores : m.Stores key S)
    (short : ∀ call ∈ calls, ∀ x ∈ call.1.members, x.length < 4294967296)
    (live : m.liveThroughout key (calls.map fun call => (call.1.op key, call.2)) = true) :
    SetCall.AnswersRun S (calls.map (·.1))
        (m.run (calls.map fun call => (call.1.op key, call.2))).1 ∧
      (m.run (calls.map fun call => (call.1.op key, call.2))).2.Stores key
        ((calls.map (·.1)).foldl SetCall.spec S) := by
  induction calls generalizing m S with
  | nil => exact ⟨trivial, stores⟩
  | cons call rest ih =>
      obtain ⟨c, now⟩ := call
      simp only [List.map_cons, MemoryCache.liveThroughout, Bool.and_eq_true] at live
      obtain ⟨first, next⟩ := MemoryCache.step_refines c stores live.1
        (short _ (List.mem_cons_self _ _))
      obtain ⟨answers, stored⟩ := ih _ _ next
        (fun call member => short call (List.mem_cons_of_mem _ member)) live.2
      exact ⟨⟨first, answers⟩, stored⟩

theorem set_calls_refine_add_then_remove :
    let calls : List (SetCall × Int) :=
      [(.sAdd [[1], [1], [2]], 0), (.sIsMember [1], 1), (.sRem [[1], [3]], 2)]
    SetCall.AnswersRun ∅ (calls.map (·.1))
        ((⟨∅, ⟨0⟩⟩ : MemoryCache).run (calls.map fun call => (call.1.op "k", call.2))).1 ∧
      ((⟨∅, ⟨0⟩⟩ : MemoryCache).run (calls.map fun call => (call.1.op "k", call.2))).2.Stores "k"
        ((calls.map (·.1)).foldl SetCall.spec ∅) :=
  set_calls_refine ⟨∅, ⟨0⟩⟩ "k" ∅ _ ⟨by simp, rfl⟩ (by decide) (by decide)

end GoCleanArch
