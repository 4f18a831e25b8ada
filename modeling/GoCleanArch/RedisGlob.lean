import GoCleanArch.Strconv
import GoCleanArch.Glob

/-!
Redis's glob matcher, `stringmatchlen` of util.c (Redis 7.2), as KEYS calls it:
case-sensitive, over the bytes of the pattern and of the key. `globLoop` is the
`while` loop of `stringmatchlen_impl`, one call at a nesting depth, with a fuel
that the pattern's length bounds. Its second component is `skipLongerMatches`:
the flag is only ever set, and every call returns as soon as a deeper one sets
it, so the model returns it instead of passing it in. `char` is signed, as on
x86-64; only the ranges of a class read that. On a pattern without classes or
escapes and with at most 1000 stars, the matcher is the glob with no separator,
on every nonempty string (`stringmatchlen_plain`).
-/

namespace GoCleanArch

namespace RedisServer

def signedChar (b : UInt8) : Int := if b.toNat < 128 then b.toNat else b.toNat - 256

def classLoop (c : UInt8) : Bytes → Bool → Bool × Bytes
  | 92 :: x :: p, matched => classLoop c p (matched || x == c)
  | 93 :: p, matched => (matched, p)
  | [], matched => (matched, [])
  | lo :: 45 :: hi :: p, matched =>
      let low := min (signedChar lo) (signedChar hi)
      let high := max (signedChar lo) (signedChar hi)
      classLoop c p (matched || (decide (low ≤ signedChar c) && decide (signedChar c ≤ high)))
  | x :: p, matched => classLoop c p (matched || x == c)

def matchOne (c : UInt8) : Bytes → Option Bytes
  | 63 :: p => some p
  | 91 :: p =>
      let negated := p.head? == some 94
      let result := classLoop c (if negated then p.tail else p) false
      if result.1 != negated then some result.2 else none
  | 92 :: x :: p => if x = c then some p else none
  | x :: p => if x = c then some p else none
  | [] => none

-- The `*` case: the rest of the pattern tried at the string and at each shorter
-- nonempty suffix, until one matches or a deeper star sets `skipLongerMatches`;
-- running out of suffixes sets it.
def starLoop (tryAt : Bytes → Bool × Bool) : Bytes → Bool × Bool
  | [] => (false, true)
  | x :: s =>
      let result := tryAt (x :: s)
      if result.1 then result else if result.2 then (false, true) else starLoop tryAt s

-- `stringmatchlen_impl` at depth `nesting`: whether the pattern matches the string,
-- and whether `skipLongerMatches` was set. The loop goes on as a call at the same
-- depth, which passes the depth test again.
def globLoop : Nat → Nat → Bytes → Bytes → Bool × Bool
  | 0, _, _, _ => (false, false)
  | fuel + 1, nesting, pattern, string =>
      if 1000 < nesting then (false, false)
      else match pattern, string with
        | [], string => (string.isEmpty, false)
        | _ :: _, [] => (false, false)
        | 42 :: p, x :: s =>
            let rest := p.dropWhile (· == 42)
            if rest = [] then (true, false)
            else starLoop (globLoop fuel (nesting + 1) rest) (x :: s)
        | c :: p, x :: s =>
            match matchOne x (c :: p) with
            | none => (false, false)
            | some p =>
                if s = [] then ((p.dropWhile (· == 42)).isEmpty, false)
                else globLoop fuel nesting p s

def stringmatchlen (pattern string : Bytes) : Bool :=
  (globLoop (pattern.length + 1) 0 pattern string).1

def keyBytes (key : String) : Bytes := key.toUTF8.data.toList

/-! ### Patterns without classes or escapes -/

theorem matchOne_plain {c : UInt8} (notClass : c ≠ 91) (notEscape : c ≠ 92) (x : UInt8) (p : Bytes) :
    matchOne x (c :: p) = if c = 63 ∨ c = x then some p else none := by
  by_cases any : c = 63
  · subst any; rfl
  · rw [matchOne.eq_4 _ _ _ any notClass (fun _ _ same _ => notEscape same)]
    simp [any]

theorem starLoop_spec {tryAt : Bytes → Bool × Bool} {rest : Bytes → Bool} (empty : rest [] = false) :
    ∀ s, (∀ t, t <:+ s → t ≠ [] →
        (tryAt t).1 = rest t ∧ ((tryAt t).2 = true → ∀ u, u <:+ t → rest u = false)) →
      (starLoop tryAt s).1 = starRun (fun _ => false) rest s ∧
        ((starLoop tryAt s).2 = true → ∀ u, u <:+ s → starRun (fun _ => false) rest u = false)
  | [], _ => ⟨by simpa [starLoop] using empty.symm, fun _ u suffix => by
      rw [List.suffix_nil.mp suffix]; simpa using empty⟩
  | x :: s, tries => by
    obtain ⟨first, skip⟩ := tries (x :: s) (List.suffix_refl _) (List.cons_ne_nil _ _)
    have later := starLoop_spec empty s fun t suffix => tries t (suffix.trans (List.suffix_cons _ _))
    have none : (∀ u, u <:+ x :: s → rest u = false) → ∀ u, u <:+ x :: s →
        starRun (fun _ => false) rest u = false :=
      fun none u suffix => starRun_eq_false fun t inner => none t (inner.trans suffix)
    simp only [starLoop]
    split_ifs with found flagged
    · exact ⟨by simp [← first, found],
        fun flag => by simpa [← first, found] using skip flag _ (List.suffix_refl _)⟩
    · have missed := skip flagged
      exact ⟨(none missed (x :: s) (List.suffix_refl _)).symm, fun _ => none missed⟩
    · have missed : rest (x :: s) = false := by simpa [first] using found
      refine ⟨by simp [missed, later.1], fun flag u suffix => ?_⟩
      rcases List.suffix_cons_iff.mp suffix with rfl | inner
      · simp [missed, later.2 flag s (List.suffix_refl _)]
      · exact later.2 flag u inner

/-- On a pattern without classes or escapes, a call whose depth leaves room for the
pattern's stars matches a nonempty string exactly where the glob with no separator
does, and sets `skipLongerMatches` only where the pattern matches no suffix of the
string. -/
theorem globLoop_plain : ∀ (fuel nesting : Nat) (pattern string : Bytes), pattern.length < fuel →
    (∀ b ∈ pattern, b ≠ 91 ∧ b ≠ 92) → nesting + pattern.count 42 ≤ 1000 → string ≠ [] →
      (globLoop fuel nesting pattern string).1 = globMatch 42 63 (fun _ => false) pattern string ∧
        ((globLoop fuel nesting pattern string).2 = true →
          ∀ t, t <:+ string → globMatch 42 63 (fun _ => false) pattern t = false)
  | 0, _, _, _, short, _, _, _ => absurd short (Nat.not_lt_zero _)
  | fuel + 1, nesting, pattern, string, short, plain, shallow, nonempty => by
    obtain ⟨x, s, rfl⟩ := List.exists_cons_of_ne_nil nonempty
    have notDeep : ¬ 1000 < nesting := by omega
    cases pattern with
    | nil => simp [globLoop, notDeep]
    | cons c p =>
      have tailPlain : ∀ b ∈ p, b ≠ 91 ∧ b ≠ 92 := fun b member => plain b (List.mem_cons_of_mem _ member)
      by_cases star : c = 42
      · subst star
        have collapse : globMatch 42 63 (fun _ => false) (42 :: p.dropWhile (· == 42)) =
            globMatch 42 63 (fun _ => false) (42 :: p) := globMatch_star_dropWhile p
        have unfolded : globLoop (fuel + 1) nesting (42 :: p) (x :: s) =
            if p.dropWhile (· == 42) = [] then (true, false)
            else starLoop (globLoop fuel (nesting + 1) (p.dropWhile (· == 42))) (x :: s) := by
          simp [globLoop, notDeep]
        rw [unfolded, ← collapse]
        split_ifs with last
        · rw [last, globMatch_stars (by simp) (List.cons_ne_nil _ _)]
          simp
        · obtain ⟨d, r, split⟩ := List.exists_cons_of_ne_nil last
          have headNot : d ≠ 42 := by simpa [split] using List.head_dropWhile_not (· == 42) p last
          have suffix : p.dropWhile (· == 42) <:+ p := List.dropWhile_suffix _
          have restShort : (p.dropWhile (· == 42)).length < fuel := by
            have := suffix.length_le
            simp only [List.length_cons] at short
            omega
          have restPlain : ∀ b ∈ p.dropWhile (· == 42), b ≠ 91 ∧ b ≠ 92 :=
            fun b member => tailPlain b (suffix.subset member)
          have restShallow : nesting + 1 + (p.dropWhile (· == 42)).count 42 ≤ 1000 := by
            have := suffix.sublist.count_le 42
            simp only [List.count_cons_self] at shallow
            omega
          have empty : globMatch 42 63 (fun _ => false) (p.dropWhile (· == 42)) [] = false := by
            rw [split]
            exact globMatch_cons_nil _ _ _ headNot r
          rw [globMatch_star]
          exact starLoop_spec empty (x :: s) fun t _ found =>
            globLoop_plain fuel (nesting + 1) _ t restShort restPlain restShallow found
      · obtain ⟨notClass, notEscape⟩ := plain c (List.mem_cons_self _ _)
        have unfolded : globLoop (fuel + 1) nesting (c :: p) (x :: s) =
            match matchOne x (c :: p) with
            | none => (false, false)
            | some p => if s = [] then ((p.dropWhile (· == 42)).isEmpty, false) else globLoop fuel nesting p s := by
          simp [globLoop, notDeep, star]
        have matched := globMatch_cons_cons 42 63 (fun _ => false) star p x s
        rw [unfolded, matchOne_plain notClass notEscape, matched]
        by_cases hit : c = 63 ∨ c = x
        · have head : (if c = 63 then (!false) else x == c) = true := by
            rcases hit with rfl | rfl <;> simp
          rw [if_pos hit, head, Bool.true_and]
          by_cases ends : s = []
          · subst ends
            refine ⟨?_, fun flag => by simp at flag⟩
            simp only [if_true, globMatch_nil_right]
            rw [Bool.eq_iff_iff, List.isEmpty_iff, List.dropWhile_eq_nil_iff, List.all_eq_true]
          · have later := globLoop_plain fuel nesting p s (by simp at short; omega) tailPlain
              (by simp [List.count_cons] at shallow; omega) ends
            simp only [ends, if_false]
            exact ⟨later.1, fun flag => globMatch_suffix_false star x (later.2 flag)⟩
        · have head : (if c = 63 then (!false) else x == c) = false := by
            simp only [not_or] at hit
            simp [hit.1, Ne.symm hit.2]
          rw [if_neg hit, head, Bool.false_and]
          exact ⟨rfl, nofun⟩

theorem stringmatchlen_plain {pattern string : Bytes} (plain : ∀ b ∈ pattern, b ≠ 91 ∧ b ≠ 92)
    (stars : pattern.count 42 ≤ 1000) (nonempty : string ≠ []) :
    stringmatchlen pattern string = globMatch 42 63 (fun _ => false) pattern string :=
  (globLoop_plain _ 0 pattern string (Nat.lt_succ_self _) plain (by omega) nonempty).1

-- The empty string matches the empty pattern alone: the loop never starts, so not
-- even `**` matches it.
theorem stringmatchlen_nil (pattern : Bytes) : stringmatchlen pattern [] = pattern.isEmpty := by
  cases pattern <;> simp [stringmatchlen, globLoop]

/-! ### ASCII -/

theorem toNat_toUInt8 {c : Char} (ascii : c.toNat < 128) : c.toUInt8.toNat = c.toNat :=
  UInt8.toNat_ofNat_of_lt (Nat.lt_trans ascii (by decide))

theorem toUInt8_inj {c d : Char} (asciiC : c.toNat < 128) (asciiD : d.toNat < 128)
    (same : c.toUInt8 = d.toUInt8) : c = d := by
  have codes := congrArg UInt8.toNat same
  rw [toNat_toUInt8 asciiC, toNat_toUInt8 asciiD] at codes
  rw [← Char.ofNat_toNat c, codes, Char.ofNat_toNat]

theorem keyBytes_ascii {key : String} (ascii : ∀ c ∈ key.toList, c.toNat < 128) :
    keyBytes key = key.toList.map Char.toUInt8 := by
  show key.toList.flatMap String.utf8EncodeChar = _
  generalize key.toList = chars at ascii ⊢
  induction chars with
  | nil => rfl
  | cons c rest ih =>
    have oneByte : c.val ≤ 127 := show c.toNat ≤ 127 by
      have := ascii c (List.mem_cons_self _ _)
      omega
    rw [List.flatMap_cons, List.map_cons, ih fun d member => ascii d (List.mem_cons_of_mem _ member)]
    simp [String.utf8EncodeChar, oneByte, Char.toUInt8]

end RedisServer

end GoCleanArch
