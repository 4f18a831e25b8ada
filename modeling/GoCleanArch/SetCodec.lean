import GoCleanArch.Strconv
import Mathlib.Data.List.Nodup

/-!
The set encoding of pkg/cache (part_022). A Go `map[string]struct{}` used as a
set is a duplicate-free list of byte strings; the list order is the map's
iteration order, which Go leaves unspecified, so a statement about every
iteration order is a statement about every such list. `serializeSetMap`
writes each member behind its length as four big-endian bytes (`byte(x)` keeps
the low eight bits); `deserializeSetMap` is its loop over the offset `i`, here
the unread suffix of the data. `deserializeLoopAt` is the same loop as the source
writes it, over `i` with Go's indexing and slicing, where `none` is the panic of an
index or slice past the end; it computes `deserializeLoop` on the suffix at `i`.
-/

namespace GoCleanArch

@[ext] structure SetMap where
  members : List Bytes
  nodup : members.Nodup

namespace SetMap

def empty : SetMap := ⟨[], List.nodup_nil⟩

def insert (setMap : SetMap) (m : Bytes) : SetMap :=
  if present : m ∈ setMap.members then setMap
  else ⟨setMap.members ++ [m], setMap.nodup.append (List.nodup_singleton m)
    (List.disjoint_singleton.mpr present)⟩

def erase (setMap : SetMap) (m : Bytes) : SetMap :=
  ⟨setMap.members.erase m, setMap.nodup.erase m⟩

theorem mem_insert (setMap : SetMap) (m x : Bytes) :
    x ∈ (setMap.insert m).members ↔ x ∈ setMap.members ∨ x = m := by
  unfold insert
  split
  · constructor
    · exact Or.inl
    · rintro (member | rfl) <;> assumption
  · simp

theorem mem_erase (setMap : SetMap) (m x : Bytes) :
    x ∈ (setMap.erase m).members ↔ x ∈ setMap.members ∧ x ≠ m := by
  simpa [erase, and_comm] using setMap.nodup.mem_erase_iff (a := x) (l := setMap.members)

theorem insert_of_not_mem (setMap : SetMap) {m : Bytes} (absent : m ∉ setMap.members) :
    (setMap.insert m).members = setMap.members ++ [m] := by
  simp [insert, absent]

end SetMap

def lengthBytes (n : Nat) : Bytes :=
  [(n / 16777216).toUInt8, (n / 65536).toUInt8, (n / 256).toUInt8, n.toUInt8]

def serializeSetMap (setMap : SetMap) : Bytes :=
  setMap.members.flatMap (fun member => lengthBytes member.length ++ member)

-- `int(data[i])<<24 | int(data[i+1])<<16 | int(data[i+2])<<8 | int(data[i+3])`
def memberLength (b0 b1 b2 b3 : UInt8) : Nat :=
  b0.toNat * 16777216 + b1.toNat * 65536 + b2.toNat * 256 + b3.toNat

-- An error is `fmt.Errorf("invalid set data format")`.
def deserializeLoop : Bytes → SetMap → Except Unit SetMap
  | [], setMap => .ok setMap
  | b0 :: b1 :: b2 :: b3 :: data, setMap =>
      if data.length < memberLength b0 b1 b2 b3 then .error ()
      else deserializeLoop (data.drop (memberLength b0 b1 b2 b3))
        (setMap.insert (data.take (memberLength b0 b1 b2 b3)))
  | _, _ => .error ()
  termination_by data => data.length

def deserializeSetMap (data : Bytes) : Except Unit SetMap := deserializeLoop data SetMap.empty

theorem toNat_toUInt8 (n : Nat) : n.toUInt8.toNat = n % 256 := by
  simp [Nat.toUInt8, UInt8.toNat, UInt8.ofNat]

theorem memberLength_lengthBytes {n : Nat} (small : n < 4294967296) :
    memberLength (n / 16777216).toUInt8 (n / 65536).toUInt8 (n / 256).toUInt8 n.toUInt8 = n := by
  simp only [memberLength, toNat_toUInt8]
  omega

-- Members written with a four-byte length read back in order, whatever was read before.
theorem deserializeLoop_serialize (members : List Bytes)
    (short : ∀ m ∈ members, m.length < 4294967296) (rest : Bytes) (setMap : SetMap) :
    deserializeLoop (members.flatMap (fun m => lengthBytes m.length ++ m) ++ rest) setMap =
      deserializeLoop rest (members.foldl SetMap.insert setMap) := by
  induction members generalizing setMap with
  | nil => rfl
  | cons m members ih =>
      have header := memberLength_lengthBytes (short m (by simp))
      simp only [List.flatMap_cons, lengthBytes, List.cons_append, List.nil_append,
        List.append_assoc, List.foldl_cons]
      rw [deserializeLoop, header, if_neg (by simp), List.drop_left, List.take_left]
      exact ih (fun x member => short x (by simp [member])) _

theorem foldl_insert_nodup (setMap : SetMap) (members : List Bytes)
    (fresh : (setMap.members ++ members).Nodup) :
    (members.foldl SetMap.insert setMap).members = setMap.members ++ members := by
  induction members generalizing setMap with
  | nil => simp
  | cons m members ih =>
      have absent : m ∉ setMap.members := by
        intro present
        exact (List.nodup_append.mp fresh).2.2 present (by simp)
      rw [List.foldl_cons, ih, SetMap.insert_of_not_mem _ absent] <;>
        simp_all [SetMap.insert_of_not_mem _ absent]

-- The encoding is exact: decoding returns the same members in the same order.
theorem deserializeSetMap_serializeSetMap (setMap : SetMap)
    (short : ∀ m ∈ setMap.members, m.length < 4294967296) :
    deserializeSetMap (serializeSetMap setMap) = .ok setMap := by
  have decoded := deserializeLoop_serialize setMap.members short [] SetMap.empty
  rw [List.append_nil] at decoded
  have rebuilt := foldl_insert_nodup SetMap.empty setMap.members
    (by simpa [SetMap.empty] using setMap.nodup)
  rw [deserializeSetMap, serializeSetMap, decoded, deserializeLoop]
  exact congrArg Except.ok (SetMap.ext (by simpa [SetMap.empty] using rebuilt))

/-! ### The loop over the offset -/

-- `data[lo:hi]`, which panics unless `lo ≤ hi ≤ len(data)`; the capacity past the
-- length is left out, since the loop never slices past the length.
def sliceBytes (data : Bytes) (lo hi : Nat) : Option Bytes :=
  if lo ≤ hi ∧ hi ≤ data.length then some ((data.drop lo).take (hi - lo)) else none

def deserializeLoopAt (data : Bytes) (i : Nat) (setMap : SetMap) : Option (Except Unit SetMap) :=
  if i < data.length then
    if data.length < i + 4 then some (.error ())
    else
      match data[i]?, data[i + 1]?, data[i + 2]?, data[i + 3]? with
      | some b0, some b1, some b2, some b3 =>
          if data.length < i + 4 + memberLength b0 b1 b2 b3 then some (.error ())
          else
            match sliceBytes data (i + 4) (i + 4 + memberLength b0 b1 b2 b3) with
            | some member =>
                deserializeLoopAt data (i + 4 + memberLength b0 b1 b2 b3) (setMap.insert member)
            | none => none
      | _, _, _, _ => none
  else some (.ok setMap)
  termination_by data.length - i

def deserializeSetMapAt (data : Bytes) : Option (Except Unit SetMap) :=
  deserializeLoopAt data 0 SetMap.empty

theorem drop_eq_cons_of_read {data : Bytes} {i : Nat} {b : UInt8} (read : data[i]? = some b) :
    data.drop i = b :: data.drop (i + 1) := by
  obtain ⟨bound, rfl⟩ := List.getElem?_eq_some_iff.mp read
  exact List.drop_eq_getElem_cons bound

-- The four length bytes the loop reads at `i`, and what follows them.
theorem drop_eq_header {data : Bytes} {i : Nat} {b0 b1 b2 b3 : UInt8} (read0 : data[i]? = some b0)
    (read1 : data[i + 1]? = some b1) (read2 : data[i + 2]? = some b2)
    (read3 : data[i + 3]? = some b3) : data.drop i = b0 :: b1 :: b2 :: b3 :: data.drop (i + 4) := by
  rw [drop_eq_cons_of_read read0, drop_eq_cons_of_read read1,
    drop_eq_cons_of_read read2, drop_eq_cons_of_read read3]

theorem deserializeLoop_short {rest : Bytes} (nonempty : 0 < rest.length) (short : rest.length < 4)
    (setMap : SetMap) : deserializeLoop rest setMap = .error () := by
  match rest, nonempty, short with
  | [_], _, _ | [_, _], _, _ | [_, _, _], _, _ => rw [deserializeLoop.eq_def]

-- The two bounds checks keep every read inside the data: the loop never panics, and it
-- reads what the suffix loop reads.
theorem deserializeLoopAt_eq (data : Bytes) (i : Nat) (setMap : SetMap) :
    deserializeLoopAt data i setMap = some (deserializeLoop (data.drop i) setMap) := by
  induction i, setMap using deserializeLoopAt.induct data with
  | case1 i setMap more short =>
      rw [deserializeLoopAt, if_pos more, if_pos short,
        deserializeLoop_short (by simp; omega) (by simp; omega)]
  | case2 i setMap more long b0 b1 b2 b3 read3 read2 read1 read0 overrun =>
      rw [deserializeLoopAt, if_pos more, if_neg long, read0, read1, read2, read3]
      simp only
      rw [if_pos overrun, drop_eq_header read0 read1 read2 read3, deserializeLoop,
        if_pos (by rw [List.length_drop]; omega)]
  | case3 i setMap more long b0 b1 b2 b3 read3 read2 read1 read0 fits member sliced ih =>
      rw [deserializeLoopAt, if_pos more, if_neg long, read0, read1, read2, read3]
      simp only
      rw [if_neg fits, sliced]
      simp only
      rw [sliceBytes, if_pos ⟨by omega, by omega⟩, Nat.add_sub_cancel_left] at sliced
      rw [ih, drop_eq_header read0 read1 read2 read3, deserializeLoop,
        if_neg (by rw [List.length_drop]; omega), List.drop_drop, Nat.add_comm, Option.some.inj sliced]
  | case4 i setMap more long b0 b1 b2 b3 read3 read2 read1 read0 fits sliced =>
      rw [sliceBytes, if_pos ⟨by omega, by omega⟩] at sliced
      cases sliced
  | case5 i setMap more long unread =>
      exact (unread _ _ _ _ (List.getElem?_eq_getElem (by omega)) (List.getElem?_eq_getElem (by omega))
        (List.getElem?_eq_getElem (by omega)) (List.getElem?_eq_getElem (by omega))).elim
  | case6 i setMap done =>
      rw [deserializeLoopAt, if_neg done, List.drop_eq_nil_of_le (by omega), deserializeLoop]

-- Every set of members shorter than 2^32 bytes, in every iteration order, reads back as
-- itself; and every byte string decodes to an error or a set without a panic.
theorem set_codec_round_trip (setMap : SetMap)
    (short : ∀ m ∈ setMap.members, m.length < 4294967296) :
    deserializeSetMapAt (serializeSetMap setMap) = some (.ok setMap) ∧
      ∀ data, deserializeSetMapAt data = some (deserializeSetMap data) := by
  have total : ∀ data, deserializeSetMapAt data = some (deserializeSetMap data) := fun data => by
    rw [deserializeSetMapAt, deserializeLoopAt_eq, List.drop_zero, deserializeSetMap]
  exact ⟨by rw [total, deserializeSetMap_serializeSetMap setMap short], total⟩

theorem set_codec_round_trip_two_members :
    (∀ m ∈ [[97], [98, 99]], List.length m < 4294967296) ∧
      deserializeSetMapAt (serializeSetMap ⟨[[97], [98, 99]], by decide⟩) =
        some (.ok ⟨[[97], [98, 99]], by decide⟩) ∧
      ∀ data, deserializeSetMapAt data = some (deserializeSetMap data) :=
  ⟨by decide, set_codec_round_trip ⟨[[97], [98, 99]], by decide⟩ (by decide)⟩

end GoCleanArch
