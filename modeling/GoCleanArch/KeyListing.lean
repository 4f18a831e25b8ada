import GoCleanArch.MemoryCache
import GoCleanArch.RedisCache

/-!
`GetKeys` on the two backends. `MemoryCache` lists every stored key that
`filepath.Match` accepts, sorted; Redis's KEYS lists the live keys whose bytes
`stringmatchlen` accepts. Both matchers are the glob of `Glob` on what they read
alike (`keyMatches_redis`): an ASCII pattern without classes or escapes and with
at most 1000 stars, against an ASCII key that is not empty and holds no `/`.
-/

namespace GoCleanArch

def plainPattern (pattern : String) : Bool :=
  pattern.toList.all (fun c => decide (c.toNat < 128) && c != '[' && c != '\\') &&
    decide (pattern.toList.count '*' ≤ 1000)

def plainName (key : String) : Bool :=
  !key.toList.isEmpty && key.toList.all fun c => decide (c.toNat < 128) && c != '/'

open RedisServer in
/-- On a pattern and a key both backends read alike, `filepath.Match` accepts the
key exactly where KEYS does. -/
theorem keyMatches_redis {pattern key : String} (patternPlain : plainPattern pattern = true)
    (keyPlain : plainName key = true) :
    MemoryCache.keyMatches pattern key = (pattern == "*" || stringmatchlen (keyBytes pattern) (keyBytes key)) := by
  simp only [plainPattern, plainName, Bool.and_eq_true, List.all_eq_true, decide_eq_true_eq, bne_iff_ne,
    ne_eq, Bool.not_eq_true', List.isEmpty_eq_false] at patternPlain keyPlain
  obtain ⟨chars, stars⟩ := patternPlain
  obtain ⟨nonempty, keyChars⟩ := keyPlain
  have inj : ∀ {c d : Char}, c.toNat < 128 → d.toNat < 128 → c.toUInt8 = d.toUInt8 → c = d :=
    fun asciiC asciiD same => toUInt8_inj asciiC asciiD same
  have memory : MemoryCache.keyMatches pattern key =
      globMatch '*' '?' (fun _ => false) pattern.toList key.toList := by
    rw [MemoryCache.keyMatches, pathMatch_plain _ _ fun c member => ⟨(chars c member).1.2, (chars c member).2⟩]
    exact globMatch_sep_free _ fun x member => by simp [isSeparator, (keyChars x member).2]
  have encoded : globMatch 42 63 (fun _ => false) (pattern.toList.map Char.toUInt8) (key.toList.map Char.toUInt8) =
      globMatch '*' '?' (fun _ => false) pattern.toList key.toList :=
    @globMatch_map Char _ '*' '?' UInt8 _ Char.toUInt8 (fun _ => false) (fun c => c.toNat < 128) inj
      (by decide) (by decide) pattern.toList key.toList (fun c member => (chars c member).1.1)
      fun c member => (keyChars c member).1
  have plainBytes : ∀ b ∈ pattern.toList.map Char.toUInt8, b ≠ 91 ∧ b ≠ 92 := by
    simp only [List.mem_map]
    rintro b ⟨c, member, rfl⟩
    have ascii := (chars c member).1.1
    exact ⟨fun same => (chars c member).1.2 (inj ascii (by decide) same),
      fun same => (chars c member).2 (inj ascii (by decide) same)⟩
  have starCount : (pattern.toList.map Char.toUInt8).count 42 = pattern.toList.count '*' := by
    simp only [List.count, List.countP_map]
    exact List.countP_congr fun c member => by
      simpa using ⟨fun same => inj (chars c member).1.1 (show ('*' : Char).toNat < 128 by decide) same,
        fun same => same ▸ rfl⟩
  have redis := stringmatchlen_plain plainBytes (starCount ▸ stars)
    (show key.toList.map Char.toUInt8 ≠ [] by simpa using nonempty)
  rw [keyBytes_ascii fun c member => (chars c member).1.1, keyBytes_ascii fun c member => (keyChars c member).1,
    redis, encoded, memory]
  cases lone : pattern == "*"
  · rfl
  · obtain rfl : pattern = "*" := by simpa using lone
    show globMatch '*' '?' (fun _ => false) ['*'] key.toList = true
    rw [globMatch_stars (by simp) (by simp)]
    simp

end GoCleanArch
