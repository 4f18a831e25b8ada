import GoCleanArch.Strconv
import Mathlib.Data.List.Lex
import Mathlib.Data.List.Sort
import Mathlib.Data.List.AList

/-!
`GenerateCacheKey` of pkg/cache (part_022). A Go string is its bytes, and
`sort.Strings` orders them bytewise with a proper prefix first, which is the
lexicographic order on the byte values. A `map[string]string` is an association
list with distinct keys, listed in the map's iteration order. The key is the first
16 hex digits of the SHA-256 sum of what was written to the hash; the sum is the
parameter `sha256`, so each statement holds for every hash function.
-/

namespace GoCleanArch

abbrev Filters := AList (fun _ : Bytes => Bytes)

def bytesLE (a b : Bytes) : Prop := a.map UInt8.toNat ≤ b.map UInt8.toNat

instance : DecidableRel bytesLE := fun a b =>
  inferInstanceAs (Decidable (a.map UInt8.toNat ≤ b.map UInt8.toNat))

instance : IsTotal Bytes bytesLE := ⟨fun _ _ => le_total _ _⟩

instance : IsTrans Bytes bytesLE := ⟨fun _ _ _ => le_trans⟩

instance : IsAntisymm Bytes bytesLE :=
  ⟨fun _ _ ab ba => List.map_injective_iff.mpr (fun _ _ => UInt8.toNat.inj) (le_antisymm ab ba)⟩

-- What is written to the hash: the query, then each filter's key and value in
-- ascending key order, with nothing between them.
def cacheKeyStream (query : Bytes) (filters : Filters) : Bytes :=
  query ++ (filters.keys.insertionSort bytesLE).flatMap fun k => k ++ (filters.lookup k).getD []

def hexDigit (n : Nat) : Char := if n < 10 then Char.ofNat (48 + n) else Char.ofNat (87 + n)

def hexEncode (data : Bytes) : List Char :=
  data.flatMap fun b => [hexDigit (b.toNat / 16), hexDigit (b.toNat % 16)]

-- `fmt.Sprintf("search:%s", hash)` of the first 16 hex digits; a SHA-256 sum has 32
-- bytes, so the slice is in range.
def generateCacheKey (sha256 : Bytes → Bytes) (query : Bytes) (filters : Filters) : String :=
  "search:" ++ String.mk ((hexEncode (sha256 (cacheKeyStream query filters))).take 16)

theorem generateCacheKey_of_stream (sha256 : Bytes → Bytes) {query query' : Bytes}
    {filters filters' : Filters} (same : cacheKeyStream query filters = cacheKeyStream query' filters') :
    generateCacheKey sha256 query filters = generateCacheKey sha256 query' filters' := by
  rw [generateCacheKey, same, generateCacheKey]

theorem sorted_keys_of_lookup {filters filters' : Filters}
    (same : ∀ k, filters.lookup k = filters'.lookup k) :
    filters.keys.insertionSort bytesLE = filters'.keys.insertionSort bytesLE := by
  have members : ∀ k, k ∈ filters.keys ↔ k ∈ filters'.keys := fun k => by
    rw [← AList.mem_keys, ← AList.mem_keys, ← AList.lookup_isSome, ← AList.lookup_isSome, same]
  refine List.eq_of_perm_of_sorted ?_ (List.sorted_insertionSort _ _) (List.sorted_insertionSort _ _)
  refine (List.perm_insertionSort _ _).trans (List.Perm.trans ?_ (List.perm_insertionSort _ _).symm)
  exact (List.perm_ext_iff_of_nodup filters.keys_nodup filters'.keys_nodup).mpr members

-- The stream, and so the key, does not depend on the map's iteration order.
theorem cache_key_order_independent (sha256 : Bytes → Bytes) (query : Bytes)
    (filters filters' : Filters) (same : ∀ k, filters.lookup k = filters'.lookup k) :
    cacheKeyStream query filters = cacheKeyStream query filters' ∧
      generateCacheKey sha256 query filters = generateCacheKey sha256 query filters' := by
  have stream : cacheKeyStream query filters = cacheKeyStream query filters' := by
    simp only [cacheKeyStream, sorted_keys_of_lookup same, same]
  exact ⟨stream, generateCacheKey_of_stream sha256 stream⟩

-- The filters {a: "x", b: "y"} written in both orders.
theorem cache_key_order_independent_two_filters :
    (∀ k, (((∅ : Filters).insert [97] [120]).insert [98] [121]).lookup k =
      (((∅ : Filters).insert [98] [121]).insert [97] [120]).lookup k) ∧
    cacheKeyStream [113] (((∅ : Filters).insert [97] [120]).insert [98] [121]) =
        cacheKeyStream [113] (((∅ : Filters).insert [98] [121]).insert [97] [120]) ∧
      generateCacheKey id [113] (((∅ : Filters).insert [97] [120]).insert [98] [121]) =
        generateCacheKey id [113] (((∅ : Filters).insert [98] [121]).insert [97] [120]) := by
  have same : ∀ k, (((∅ : Filters).insert [97] [120]).insert [98] [121]).lookup k =
      (((∅ : Filters).insert [98] [121]).insert [97] [120]).lookup k := fun _ =>
    AList.perm_lookup (AList.insert_insert_of_ne _ (by decide))
  exact ⟨same, cache_key_order_independent id [113] _ _ same⟩

-- Nothing separates the parts: ("q", {a: "", b: "bb"}) and ("q", {a: "b", b: "b"}), and
-- ("pizza", {}) and ("pizz", {a: ""}), write the same bytes and get the same key from
-- every hash function.
theorem cache_key_collides :
    (((∅ : Filters).insert [97] []).insert [98] [98, 98]).lookup [97] ≠
        (((∅ : Filters).insert [97] [98]).insert [98] [98]).lookup [97] ∧
      ∀ sha256 : Bytes → Bytes,
        generateCacheKey sha256 [113] (((∅ : Filters).insert [97] []).insert [98] [98, 98]) =
          generateCacheKey sha256 [113] (((∅ : Filters).insert [97] [98]).insert [98] [98]) ∧
        generateCacheKey sha256 [112, 105, 122, 122, 97] ∅ =
          generateCacheKey sha256 [112, 105, 122, 122] ((∅ : Filters).insert [97] []) :=
  ⟨by decide, fun sha256 => ⟨generateCacheKey_of_stream sha256 (by decide),
    generateCacheKey_of_stream sha256 (by decide)⟩⟩

end GoCleanArch
