import GoCleanArch.GoRuntime
import GoCleanArch.Glob

/-!
Go's `path/filepath.Match` on a Unix build (separator `/`, backslash escapes),
which `MemoryCache.GetKeys` applies to every stored key. Strings are sequences
of runes; on the ASCII keys the cache builds this is the byte loop of the Go
source. `matchChunk` and `classLoop` are the body of Go's `matchChunk`; the
patterns of `classLoop` unfold `getEsc` for the low and the high end of a range,
and it returns to the chunk loop at the closing `]`. An error is
`ErrBadPattern`.
-/

namespace GoCleanArch

def scanStars : List Char → Bool × List Char
  | '*' :: p => (true, (scanStars p).2)
  | p => (false, p)

-- scanChunk's `Scan` loop: the chunk ends at the first `*` outside a class.
def scanBody (inrange : Bool) : List Char → List Char × List Char
  | [] => ([], [])
  | ['\\'] => (['\\'], [])
  | '\\' :: c :: p => let r := scanBody inrange p; ('\\' :: c :: r.1, r.2)
  | '[' :: p => let r := scanBody true p; ('[' :: r.1, r.2)
  | ']' :: p => let r := scanBody false p; (']' :: r.1, r.2)
  | '*' :: p =>
      if inrange then let r := scanBody inrange p; ('*' :: r.1, r.2) else ([], '*' :: p)
  | c :: p => let r := scanBody inrange p; (c :: r.1, r.2)

def scanChunk (pattern : List Char) : Bool × List Char × List Char :=
  let stars := scanStars pattern
  (stars.1, scanBody false stars.2)

mutual

-- `matchChunk(chunk, s)`: `none` is `ok = false`, `some rest` the unmatched suffix.
def matchChunk : List Char → Bool → List Char → Except Unit (Option (List Char))
  | [], failed, s => .ok (if failed then none else some s)
  | c :: chunk, failed, s =>
      let failed := failed || s.isEmpty
      match c with
      | '[' =>
          let r := if failed then '\x00' else s.headD '\x00'
          let s := if failed then s else s.tail
          match chunk with
          | '^' :: chunk => classLoop r true false false failed s chunk
          | chunk => classLoop r false false false failed s chunk
      | '?' =>
          if failed then matchChunk chunk failed s
          else matchChunk chunk (decide (s.headD '\x00' = '/')) s.tail
      | '\\' =>
          match chunk with
          | [] => .error ()
          | e :: chunk => if failed then matchChunk chunk failed s
              else matchChunk chunk (decide (s.headD '\x00' ≠ e)) s.tail
      | c =>
          if failed then matchChunk chunk failed s
          else matchChunk chunk (decide (s.headD '\x00' ≠ c)) s.tail
  termination_by structural chunk => chunk

-- The ranges of a class, each read with `getEsc` as `lo` or `lo-hi`, up to the
-- closing `]`; `nrange` records that one range has been read.
def classLoop (r : Char) (negated matched nrange failed : Bool) (s : List Char) :
    List Char → Except Unit (Option (List Char))
  | ']' :: chunk =>
      if nrange then matchChunk chunk (failed || matched == negated) s else .error ()
  | [] => .error ()
  | '-' :: _ => .error ()
  | ['\\'] => .error ()
  | '\\' :: lo :: '-' :: '\\' :: hi :: chunk =>
      classLoop r negated (matched || (decide (lo ≤ r) && decide (r ≤ hi))) true failed s chunk
  | '\\' :: lo :: '-' :: hi :: chunk =>
      if hi = '-' ∨ hi = ']' ∨ hi = '\\' then .error ()
      else classLoop r negated (matched || (decide (lo ≤ r) && decide (r ≤ hi))) true failed s chunk
  | ['\\', _, '-'] => .error ()
  | '\\' :: lo :: chunk =>
      classLoop r negated (matched || (decide (lo ≤ r) && decide (r ≤ lo))) true failed s chunk
  | lo :: '-' :: '\\' :: hi :: chunk =>
      classLoop r negated (matched || (decide (lo ≤ r) && decide (r ≤ hi))) true failed s chunk
  | lo :: '-' :: hi :: chunk =>
      if hi = '-' ∨ hi = ']' ∨ hi = '\\' then .error ()
      else classLoop r negated (matched || (decide (lo ≤ r) && decide (r ≤ hi))) true failed s chunk
  | [_, '-'] => .error ()
  | lo :: chunk =>
      classLoop r negated (matched || (decide (lo ≤ r) && decide (r ≤ lo))) true failed s chunk
  termination_by structural chunk => chunk

end

-- The `for i` loop after a starred chunk: skip one more rune, never a `/`.
def starScan (chunk rest : List Char) : List Char → Except Unit (Option (List Char))
  | [] => .ok none
  | c :: name =>
      if c = '/' then .ok none
      else match matchChunk chunk false name with
        | .ok (some t) => if rest = [] ∧ t ≠ [] then starScan chunk rest name else .ok (some t)
        | .ok none => starScan chunk rest name
        | .error _ => .error ()

theorem scanStars_length (p : List Char) : (scanStars p).2.length ≤ p.length := by
  induction p using scanStars.induct with
  | case1 p ih => simp only [scanStars, List.length_cons]; omega
  | case2 p other => unfold scanStars; split <;> simp_all

theorem scanBody_length (inrange : Bool) (p : List Char) :
    (scanBody inrange p).2.length ≤ p.length := by
  induction inrange, p using scanBody.induct <;> simp_all [scanBody] <;> omega

theorem scanBody_rest_lt (inrange : Bool) {c : Char} (p : List Char) (notStar : c ≠ '*') :
    (scanBody inrange (c :: p)).2.length < (c :: p).length := by
  unfold scanBody
  split <;> simp_all <;> first
    | exact Nat.lt_succ_of_le (scanBody_length _ _)
    | exact Nat.lt_succ_of_le (Nat.le_succ_of_le (scanBody_length _ _))

theorem scanChunk_rest_lt (p : List Char) (nonempty : p ≠ []) :
    (scanChunk p).2.2.length < p.length := by
  match p, nonempty with
  | c :: p, _ =>
      by_cases star : c = '*'
      · subst star
        have := scanStars_length p
        have := scanBody_length false (scanStars p).2
        simp only [scanChunk, scanStars, List.length_cons]
        omega
      · have unstarred : scanStars (c :: p) = (false, c :: p) := by
          unfold scanStars; split <;> simp_all
        simpa [scanChunk, unstarred] using scanBody_rest_lt false p star

-- Before reporting a mismatch, the rest of the pattern must still be well formed.
-- Each round consumes a chunk, so rounds beyond the pattern's length are never
-- taken (`checkRest_fuel`).
def checkRest : Nat → List Char → Except Unit Bool
  | 0, _ => .ok false
  | fuel + 1, pattern =>
      if pattern = [] then .ok false
      else match matchChunk (scanChunk pattern).2.1 false [] with
        | .error _ => .error ()
        | .ok _ => checkRest fuel (scanChunk pattern).2.2

-- The `Pattern:` loop of `filepath.Match`, one chunk a round.
def matchLoop : Nat → List Char → List Char → Except Unit Bool
  | 0, _, name => .ok name.isEmpty
  | fuel + 1, pattern, name =>
      if pattern = [] then .ok name.isEmpty
      else
        let (star, chunk, rest) := scanChunk pattern
        if star && chunk.isEmpty then .ok (!name.contains '/')
        else
          let mismatch : Except Unit Bool :=
            if star then
              match starScan chunk rest name with
              | .error _ => .error ()
              | .ok (some t) => matchLoop fuel rest t
              | .ok none => checkRest fuel rest
            else checkRest fuel rest
          match matchChunk chunk false name with
          | .error _ => .error ()
          | .ok none => mismatch
          | .ok (some t) => if t = [] ∨ rest ≠ [] then matchLoop fuel rest t else mismatch

-- `filepath.Match(pattern, name)`.
def pathMatch (pattern name : List Char) : Except Unit Bool :=
  matchLoop (pattern.length + 1) pattern name

theorem checkRest_fuel {fuel₁ fuel₂ : Nat} {pattern : List Char} (enough₁ : pattern.length < fuel₁)
    (enough₂ : pattern.length < fuel₂) : checkRest fuel₁ pattern = checkRest fuel₂ pattern := by
  induction fuel₁ generalizing fuel₂ pattern with
  | zero => omega
  | succ fuel ih =>
      obtain ⟨fuel', rfl⟩ : ∃ fuel', fuel₂ = fuel' + 1 := ⟨fuel₂ - 1, by omega⟩
      by_cases empty : pattern = []
      · simp [checkRest, empty]
      · have shorter := scanChunk_rest_lt pattern empty
        simp only [checkRest, empty, if_false,
          @ih fuel' (scanChunk pattern).2.2 (by omega) (by omega)]

theorem matchLoop_fuel {fuel₁ fuel₂ : Nat} {pattern name : List Char}
    (enough₁ : pattern.length < fuel₁) (enough₂ : pattern.length < fuel₂) :
    matchLoop fuel₁ pattern name = matchLoop fuel₂ pattern name := by
  induction fuel₁ generalizing fuel₂ pattern name with
  | zero => omega
  | succ fuel ih =>
      obtain ⟨fuel', rfl⟩ : ∃ fuel', fuel₂ = fuel' + 1 := ⟨fuel₂ - 1, by omega⟩
      by_cases empty : pattern = []
      · simp [matchLoop, empty]
      · have shorter := scanChunk_rest_lt pattern empty
        rcases split : scanChunk pattern with ⟨star, chunk, rest⟩
        rw [split] at shorter
        have loop := fun name => @ih fuel' rest name (by simp only at shorter; omega)
          (by simp only at shorter; omega)
        simp only [matchLoop, empty, if_false, split, loop,
          checkRest_fuel (show rest.length < fuel by simp only at shorter; omega)
            (show rest.length < fuel' by simp only at shorter; omega)]

/-! ### Patterns without classes or escapes -/

-- `Separator` on a Unix build.
def isSeparator (c : Char) : Bool := c == '/'

-- One step of `matchChunk` past a `?` or past a character it compares as itself, read
-- off the definition: the equation lemmas it shares with `classLoop` take seconds to build.
theorem matchChunk_any (chunk : List Char) (failed : Bool) (s : List Char) :
    matchChunk ('?' :: chunk) failed s =
      if (failed || s.isEmpty) = true then matchChunk chunk (failed || s.isEmpty) s
      else matchChunk chunk (decide (s.headD '\x00' = '/')) s.tail := rfl

set_option smartUnfolding false in
theorem matchChunk_literal {c : Char} (notClass : c ≠ '[') (notAny : c ≠ '?') (notEscape : c ≠ '\\')
    (chunk : List Char) (failed : Bool) (s : List Char) :
    matchChunk (c :: chunk) failed s =
      if (failed || s.isEmpty) = true then matchChunk chunk (failed || s.isEmpty) s
      else matchChunk chunk (decide (s.headD '\x00' ≠ c)) s.tail := by
  show (match c with
    | '[' => _ | '?' => _ | '\\' => _
    | c => if (failed || s.isEmpty) = true then matchChunk chunk (failed || s.isEmpty) s
      else matchChunk chunk (decide (s.headD '\x00' ≠ c)) s.tail) = _
  split <;> simp_all

theorem matchChunk_plain (chunk : List Char) (plain : ∀ c ∈ chunk, c ≠ '[' ∧ c ≠ '\\')
    (failed : Bool) (s : List Char) :
    matchChunk chunk failed s =
      .ok (if !failed && globFits '?' isSeparator chunk s then some (s.drop chunk.length) else none) := by
  induction chunk generalizing failed s with
  | nil => cases failed <;> rfl
  | cons c chunk ih =>
    obtain ⟨notClass, notEscape⟩ := plain c (List.mem_cons_self _ _)
    have rest := ih (fun x member => plain x (List.mem_cons_of_mem _ member))
    by_cases any : c = '?'
    · subst any
      rw [matchChunk_any]
      cases s with
      | nil => simp [rest, globFits]
      | cons x s => cases failed <;> simp [rest, globFits, isSeparator]
    · rw [matchChunk_literal notClass any notEscape]
      cases s with
      | nil => simp [rest, globFits]
      | cons x s =>
        cases failed
        · by_cases same : x = c
          · subst same; simp [rest, globFits, any]
          · simp [rest, globFits, any, same]
        · simp [rest, globFits]

theorem scanStars_split (p : List Char) :
    ∃ stars, p = stars ++ (scanStars p).2 ∧ (∀ c ∈ stars, c = '*') ∧
      ((scanStars p).1 = true ↔ stars ≠ []) ∧ (scanStars p).2.head? ≠ some '*' := by
  induction p with
  | nil => exact ⟨[], rfl, nofun, by simp [scanStars], by simp [scanStars]⟩
  | cons c p ih =>
    by_cases star : c = '*'
    · subst star
      obtain ⟨stars, split, allStars, -, head⟩ := ih
      refine ⟨'*' :: stars, ?_, List.forall_mem_cons.mpr ⟨rfl, allStars⟩, by simp [scanStars],
        by simpa [scanStars] using head⟩
      simp only [scanStars, List.cons_append]
      exact congrArg _ split
    · have unstarred : scanStars (c :: p) = (false, c :: p) := by
        unfold scanStars
        split <;> simp_all
      exact ⟨[], by simp [unstarred], nofun, by simp [unstarred], by simp [unstarred, star]⟩

theorem scanBody_split (p : List Char) (plain : ∀ c ∈ p, c ≠ '[' ∧ c ≠ '\\') :
    p = (scanBody false p).1 ++ (scanBody false p).2 ∧ (∀ c ∈ (scanBody false p).1, c ≠ '*') ∧
      ((scanBody false p).2 = [] ∨ (scanBody false p).2.head? = some '*') := by
  induction p with
  | nil => exact ⟨rfl, nofun, .inl rfl⟩
  | cons c p ih =>
    obtain ⟨notClass, notEscape⟩ := plain c (List.mem_cons_self _ _)
    obtain ⟨split, noStar, start⟩ := ih (fun x member => plain x (List.mem_cons_of_mem _ member))
    by_cases star : c = '*'
    · subst star
      exact ⟨rfl, nofun, .inr rfl⟩
    have body : scanBody false (c :: p) = (c :: (scanBody false p).1, (scanBody false p).2) := by
      by_cases close : c = ']'
      · subst close; rfl
      · exact scanBody.eq_7 _ _ _ (fun h _ => notEscape h) (fun _ _ h _ => notEscape h) notClass close star
    rw [body]
    exact ⟨congrArg _ split, List.forall_mem_cons.mpr ⟨star, noStar⟩, start⟩

theorem scanChunk_split (p : List Char) (plain : ∀ c ∈ p, c ≠ '[' ∧ c ≠ '\\') :
    ∃ stars, p = stars ++ (scanChunk p).2.1 ++ (scanChunk p).2.2 ∧ (∀ c ∈ stars, c = '*') ∧
      ((scanChunk p).1 = true ↔ stars ≠ []) ∧ (∀ c ∈ (scanChunk p).2.1, c ≠ '*') ∧
      ((scanChunk p).2.2 = [] ∨ (scanChunk p).2.2.head? = some '*') ∧
      ((scanChunk p).2.1 = [] → (scanChunk p).2.2 = []) := by
  obtain ⟨stars, split, allStars, starFlag, head⟩ := scanStars_split p
  have bodyPlain : ∀ c ∈ (scanStars p).2, c ≠ '[' ∧ c ≠ '\\' :=
    fun c member => plain c (split ▸ List.mem_append_right _ member)
  obtain ⟨body, noStar, start⟩ := scanBody_split _ bodyPlain
  refine ⟨stars, ?_, allStars, starFlag, noStar, start, fun empty => ?_⟩
  · simp only [scanChunk, List.append_assoc]
    rwa [← body]
  · simp only [scanChunk] at empty ⊢
    rw [empty, List.nil_append] at body
    rcases start with done | starts
    · exact done
    · exact absurd (body ▸ starts) head

theorem scanChunk_plain {p : List Char} (plain : ∀ c ∈ p, c ≠ '[' ∧ c ≠ '\\') :
    (∀ c ∈ (scanChunk p).2.1, c ≠ '[' ∧ c ≠ '\\') ∧ (∀ c ∈ (scanChunk p).2.2, c ≠ '[' ∧ c ≠ '\\') := by
  obtain ⟨stars, split, -⟩ := scanChunk_split p plain
  exact ⟨fun c member => plain c (split ▸ List.mem_append_left _ (List.mem_append_right _ member)),
    fun c member => plain c (split ▸ List.mem_append_right _ member)⟩

theorem checkRest_plain : ∀ (fuel : Nat) {pattern : List Char}, (∀ c ∈ pattern, c ≠ '[' ∧ c ≠ '\\') →
    checkRest fuel pattern = .ok false
  | 0, _, _ => rfl
  | fuel + 1, pattern, plain => by
    by_cases empty : pattern = []
    · simp [checkRest, empty]
    · obtain ⟨chunkPlain, restPlain⟩ := scanChunk_plain plain
      simp [checkRest, empty, matchChunk_plain _ chunkPlain, checkRest_plain fuel restPlain]

/-! ### The chunk after stars -/

-- Where `Match` takes the chunk after stars: the first place before any `/` where
-- it fits, and where it ends the name when no pattern follows.
def firstFit (chunk rest name : List Char) : Option (List Char) :=
  if globFits '?' isSeparator chunk name = true ∧ (name.drop chunk.length = [] ∨ rest ≠ []) then
    some (name.drop chunk.length)
  else match name with
    | [] => none
    | x :: name => if x = '/' then none else firstFit chunk rest name

theorem starScan_firstFit {chunk : List Char} (plain : ∀ c ∈ chunk, c ≠ '[' ∧ c ≠ '\\')
    (rest : List Char) : ∀ name, starScan chunk rest name =
      .ok (match name with
        | [] => none
        | x :: name => if x = '/' then none else firstFit chunk rest name)
  | [] => rfl
  | x :: name => by
    by_cases slash : x = '/'
    · simp [starScan, slash]
    · simp only [starScan, if_neg slash, matchChunk_plain chunk plain, Bool.not_false, Bool.true_and,
        starScan_firstFit plain rest name]
      rw [firstFit.eq_def]
      by_cases fitted : globFits '?' isSeparator chunk name = true
      · by_cases ends : name.drop chunk.length = [] ∨ rest ≠ []
        · simp only [fitted, if_true, true_and, if_pos ends]
          split_ifs with late
          · exact absurd ends (by simp [late.1, late.2])
          · rfl
        · simp only [fitted, if_true, true_and, if_neg ends]
          rw [if_pos ⟨by_contra fun more => ends (.inr more), fun done => ends (.inl done)⟩]
      · simp [fitted]

theorem globFits_shift_free : ∀ (chunk lead v : List Char), lead ≠ [] →
    (∀ x ∈ lead, isSeparator x = false) → globFits '?' isSeparator chunk (lead ++ v) = true →
    globFits '?' isSeparator chunk v = true → ∀ x ∈ v.take chunk.length, isSeparator x = false
  | [], _, _, _, _, _, _ => by simp
  | _ :: _, [], _, nonempty, _, _, _ => absurd rfl nonempty
  | _ :: _, _ :: _, [], _, _, _, fitsLater => by simp [globFits] at fitsLater
  | c :: chunk, l :: lead, y :: v, _, free, fitsEarly, fitsLater => by
    simp only [List.cons_append, globFits, Bool.and_eq_true] at fitsEarly fitsLater
    have head : isSeparator y = false := by
      by_cases any : c = '?'
      · simpa [any] using fitsLater.1
      · have later : y = c := by simpa [any] using fitsLater.1
        have early : l = c := by simpa [any] using fitsEarly.1
        rw [later, ← early]
        exact free l (List.mem_cons_self _ _)
    have tail := globFits_shift_free chunk (lead ++ [y]) v (by simp)
      (List.forall_mem_append.mpr ⟨(List.forall_mem_cons.mp free).2, List.forall_mem_singleton.mpr head⟩)
      (by simpa using fitsEarly.2) fitsLater.2
    rw [List.length_cons, List.take_succ_cons]
    exact List.forall_mem_cons.mpr ⟨head, tail⟩

section StarChunk

variable {chunk rest : List Char} (start : rest = [] ∨ rest.head? = some '*')

include start

theorem skipped_no_match {name : List Char}
    (passed : ¬(globFits '?' isSeparator chunk name = true ∧ (name.drop chunk.length = [] ∨ rest ≠ []))) :
    (globFits '?' isSeparator chunk name && globMatch '*' '?' isSeparator rest (name.drop chunk.length)) =
      false := by
  cases fitted : globFits '?' isSeparator chunk name
  · rfl
  · cases rest with
    | cons c r => exact absurd ⟨fitted, .inr (List.cons_ne_nil _ _)⟩ passed
    | nil =>
      cases dropped : name.drop chunk.length with
      | nil => exact absurd ⟨fitted, .inl dropped⟩ passed
      | cons y t => rfl

-- Where the chunk fits at once, a later place gives no match that this one misses:
-- the star after it absorbs the difference, which holds no `/`.
theorem globMatch_rest_of_later {name : List Char}
    (fitted : globFits '?' isSeparator chunk name = true) (ends : name.drop chunk.length = [] ∨ rest ≠ [])
    (later : starRun isSeparator (fun n => globFits '?' isSeparator chunk n &&
      globMatch '*' '?' isSeparator rest (n.drop chunk.length)) name = true) :
    globMatch '*' '?' isSeparator rest (name.drop chunk.length) = true := by
  obtain ⟨lead, v, rfl, free, found⟩ := exists_of_starRun later
  simp only [Bool.and_eq_true] at found
  by_cases noLead : lead = []
  · subst noLead; exact found.2
  rcases start with noRest | starts
  · subst noRest
    rcases ends with done | more
    · rw [done]; rfl
    · exact absurd rfl more
  obtain ⟨r, rfl⟩ := List.head?_eq_some_iff.mp starts
  have long := length_le_of_globFits found.1
  have gapFree := globFits_shift_free chunk lead v noLead free fitted found.1
  have split : (lead ++ v).drop chunk.length =
      (lead ++ v.take chunk.length).drop chunk.length ++ v.drop chunk.length := by
    conv_lhs => rw [← List.take_append_drop chunk.length v, ← List.append_assoc]
    rw [List.drop_append_of_le_length (by simp; omega)]
  rw [split, globMatch_star]
  exact starRun_append
    (fun x member => (List.mem_append.mp (List.mem_of_mem_drop member)).elim (free x) (gapFree x))
    (by rw [← globMatch_star]; exact found.2)

theorem firstFit_glob (name : List Char) :
    (match firstFit chunk rest name with
      | some t => globMatch '*' '?' isSeparator rest t
      | none => false) =
      starRun isSeparator (fun n => globFits '?' isSeparator chunk n &&
        globMatch '*' '?' isSeparator rest (n.drop chunk.length)) name := by
  induction name with
  | nil =>
    rw [firstFit.eq_def]
    split_ifs with first
    · simp [first.1]
    · simpa using (skipped_no_match start first).symm
  | cons x name ih =>
    rw [firstFit.eq_def]
    split_ifs with first
    · exact Bool.eq_iff_iff.mpr ⟨fun matched => starRun_of_rest (by simpa [first.1] using matched),
        globMatch_rest_of_later start first.1 first.2⟩
    · have skipped := skipped_no_match start first
      by_cases slash : x = '/'
      · subst slash; simp [skipped, isSeparator]
      · simp [skipped, slash, isSeparator, ih]

end StarChunk

/-! ### Rounds of the loop -/

theorem matchLoop_star_end {fuel : Nat} {pattern name rest : List Char} (nonempty : pattern ≠ [])
    (scanned : scanChunk pattern = (true, [], rest)) :
    matchLoop (fuel + 1) pattern name = .ok (!name.contains '/') := by
  simp [matchLoop, nonempty, scanned]


theorem matchLoop_plain_round {fuel : Nat} {pattern chunk rest name : List Char} (nonempty : pattern ≠ [])
    (scanned : scanChunk pattern = (false, chunk, rest)) (chunkPlain : ∀ c ∈ chunk, c ≠ '[' ∧ c ≠ '\\')
    (restPlain : ∀ c ∈ rest, c ≠ '[' ∧ c ≠ '\\') :
    matchLoop (fuel + 1) pattern name =
      if globFits '?' isSeparator chunk name = true ∧ (name.drop chunk.length = [] ∨ rest ≠ []) then
        matchLoop fuel rest (name.drop chunk.length)
      else .ok false := by
  by_cases fitted : globFits '?' isSeparator chunk name = true <;>
    simp [matchLoop, nonempty, scanned, matchChunk_plain chunk chunkPlain, checkRest_plain fuel restPlain, fitted]

theorem matchLoop_star_round {fuel : Nat} {pattern chunk rest name : List Char} (nonempty : pattern ≠ [])
    (scanned : scanChunk pattern = (true, chunk, rest)) (chunkNonempty : chunk ≠ [])
    (chunkPlain : ∀ c ∈ chunk, c ≠ '[' ∧ c ≠ '\\') (restPlain : ∀ c ∈ rest, c ≠ '[' ∧ c ≠ '\\') :
    matchLoop (fuel + 1) pattern name =
      match firstFit chunk rest name with
      | some t => matchLoop fuel rest t
      | none => .ok false := by
  have firstTry : matchLoop (fuel + 1) pattern name =
      if globFits '?' isSeparator chunk name = true ∧ (name.drop chunk.length = [] ∨ rest ≠ []) then
        matchLoop fuel rest (name.drop chunk.length)
      else match starScan chunk rest name with
        | .error _ => .error ()
        | .ok (some t) => matchLoop fuel rest t
        | .ok none => checkRest fuel rest := by
    by_cases fitted : globFits '?' isSeparator chunk name = true <;>
      simp [matchLoop, nonempty, scanned, chunkNonempty, matchChunk_plain chunk chunkPlain, fitted]
  rw [firstTry, firstFit.eq_def, starScan_firstFit chunkPlain]
  split_ifs
  · rfl
  · cases name with
    | nil => exact checkRest_plain fuel restPlain
    | cons x name =>
      by_cases slash : x = '/'
      · simpa [slash] using checkRest_plain fuel restPlain
      · simp only [slash, if_false]
        cases firstFit chunk rest name
        · exact checkRest_plain fuel restPlain
        · rfl

/-- `filepath.Match` on a pattern without classes or escapes is the glob whose
stars and `?` stop at `/`: it never fails, and it matches exactly the names that
`globMatch` matches. -/
theorem matchLoop_plain : ∀ (fuel : Nat) (pattern name : List Char), pattern.length < fuel →
    (∀ c ∈ pattern, c ≠ '[' ∧ c ≠ '\\') →
      matchLoop fuel pattern name = .ok (globMatch '*' '?' isSeparator pattern name)
  | 0, _, _, short, _ => absurd short (Nat.not_lt_zero _)
  | fuel + 1, pattern, name, short, plain => by
    by_cases empty : pattern = []
    · subst empty; simp [matchLoop]
    obtain ⟨stars, split, allStars, starFlag, noStar, restStart, emptyRest⟩ := scanChunk_split pattern plain
    obtain ⟨chunkPlain, restPlain⟩ := scanChunk_plain plain
    rcases scanned : scanChunk pattern with ⟨star, chunk, rest⟩
    rw [scanned] at split starFlag noStar restStart emptyRest chunkPlain restPlain
    simp only at split starFlag noStar restStart emptyRest chunkPlain restPlain
    by_cases emptyChunk : chunk = []
    · -- the pattern is stars alone
      subst emptyChunk
      rw [emptyRest rfl, List.append_nil, List.append_nil] at split
      have starsNonempty : stars ≠ [] := by rintro rfl; exact empty split
      obtain rfl : star = true := starFlag.mpr starsNonempty
      rw [matchLoop_star_end empty scanned, split, globMatch_stars allStars starsNonempty]
      have noSlash : (!name.contains '/') = name.all fun x => !isSeparator x := by
        rw [List.contains_eq_any_beq, List.not_any_eq_all_not]
        simp only [isSeparator, Bool.beq_comm]
      rw [noSlash]
    have shorter : rest.length < fuel := by
      have lengths := congrArg List.length split
      have := List.length_pos.mpr emptyChunk
      simp only [List.length_append] at lengths
      omega
    have later := fun t => matchLoop_plain fuel rest t shorter restPlain
    have chunkStarFree : '*' ∉ chunk := fun member => noStar _ member rfl
    cases star
    · -- no stars: the chunk must fit at the start
      obtain rfl : stars = [] := by simpa using starFlag
      rw [matchLoop_plain_round empty scanned chunkPlain restPlain, split, List.nil_append,
        globMatch_append chunkStarFree]
      split_ifs with first
      · rw [later, first.1, Bool.true_and]
      · rw [skipped_no_match restStart first]
    · -- after stars, the first place where the chunk fits
      have chunkThen : globMatch '*' '?' isSeparator (chunk ++ rest) = fun n =>
          globFits '?' isSeparator chunk n && globMatch '*' '?' isSeparator rest (n.drop chunk.length) :=
        funext fun n => globMatch_append chunkStarFree rest n
      rw [matchLoop_star_round empty scanned emptyChunk chunkPlain restPlain, split, List.append_assoc,
        globMatch_stars_append allStars (starFlag.mp rfl), globMatch_star, chunkThen,
        ← firstFit_glob restStart]
      cases firstFit chunk rest name <;> simp [later]

theorem pathMatch_plain (pattern name : List Char) (plain : ∀ c ∈ pattern, c ≠ '[' ∧ c ≠ '\\') :
    pathMatch pattern name = .ok (globMatch '*' '?' isSeparator pattern name) :=
  matchLoop_plain _ pattern name (Nat.lt_succ_self _) plain

end GoCleanArch
