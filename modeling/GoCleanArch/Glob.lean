import Mathlib.Data.List.Basic

/-!
The glob patterns that both cache backends list keys with, read without classes
or escapes: a star takes any run of symbols that are not separators, `any` takes
one symbol that is not a separator, and every other symbol matches itself.
`filepath.Match` separates at `/`; Redis's KEYS has no separator. `globMatch` is
the reference that `pathMatch` and `stringmatchlen` are both read against.
-/

namespace GoCleanArch

section StarRun

variable {α : Type} (sep : α → Bool)

-- A star in front of `rest`: the empty run, or one more symbol that is not a separator.
def starRun (rest : List α → Bool) : List α → Bool
  | [] => rest []
  | x :: s => rest (x :: s) || (!sep x && starRun rest s)

@[simp] theorem starRun_nil (rest : List α → Bool) : starRun sep rest [] = rest [] := rfl

@[simp] theorem starRun_cons (rest : List α → Bool) (x : α) (s : List α) :
    starRun sep rest (x :: s) = (rest (x :: s) || (!sep x && starRun sep rest s)) := rfl

/-! ### Stars -/

variable {sep}

theorem starRun_of_rest {rest : List α → Bool} {s : List α} (found : rest s = true) :
    starRun sep rest s = true := by
  cases s <;> simp [found]

-- A star absorbs a run without separators in front of what it matched.
theorem starRun_append {rest : List α → Bool} {u v : List α} (free : ∀ x ∈ u, sep x = false)
    (found : starRun sep rest v = true) : starRun sep rest (u ++ v) = true := by
  induction u with
  | nil => exact found
  | cons x u ih =>
    simp [free x (List.mem_cons_self _ _), ih fun y member => free y (List.mem_cons_of_mem _ member)]

theorem exists_of_starRun {rest : List α → Bool} {s : List α} (found : starRun sep rest s = true) :
    ∃ u v, s = u ++ v ∧ (∀ x ∈ u, sep x = false) ∧ rest v = true := by
  induction s with
  | nil => exact ⟨[], [], rfl, nofun, found⟩
  | cons x s ih =>
    simp only [starRun_cons, Bool.or_eq_true, Bool.and_eq_true, Bool.not_eq_true'] at found
    rcases found with here | ⟨free, later⟩
    · exact ⟨[], x :: s, rfl, nofun, here⟩
    · obtain ⟨u, v, rfl, freeRun, matched⟩ := ih later
      exact ⟨x :: u, v, rfl, List.forall_mem_cons.mpr ⟨free, freeRun⟩, matched⟩

theorem starRun_eq_false {rest : List α → Bool} {s : List α} (none : ∀ t, t <:+ s → rest t = false) :
    starRun sep rest s = false := by
  induction s with
  | nil => exact none [] (List.suffix_refl _)
  | cons x s ih =>
    simp [none _ (List.suffix_refl _), ih fun t suffix => none t (suffix.trans (List.suffix_cons _ _))]

theorem starRun_starRun (rest : List α → Bool) (s : List α) :
    starRun sep (starRun sep rest) s = starRun sep rest s := by
  induction s with
  | nil => rfl
  | cons x s ih => cases rest (x :: s) <;> cases sep x <;> simp [ih]

-- A star in front of a pattern that takes only runs without separators, the empty
-- one among them, takes exactly those runs.
theorem starRun_free {rest : List α → Bool} (empty : rest [] = true)
    (bounded : ∀ t, rest t = true → t.all (fun x => !sep x) = true) (s : List α) :
    starRun sep rest s = s.all (fun x => !sep x) := by
  induction s with
  | nil => simpa using empty
  | cons x s ih =>
    cases found : rest (x :: s)
    · simp [found, ih]
    · simpa [found] using bounded _ found

end StarRun

section Glob

variable {α : Type} [DecidableEq α] (star any : α) (sep : α → Bool)

-- A run of the pattern without stars against the start of `s`.
def globFits : List α → List α → Bool
  | [], _ => true
  | _ :: _, [] => false
  | c :: chunk, x :: s => (if c = any then !sep x else x == c) && globFits chunk s

def globMatch : List α → List α → Bool
  | [], s => s.isEmpty
  | c :: p, s =>
      if c = star then starRun sep (globMatch p) s
      else match s with
        | [] => false
        | x :: s => (if c = any then !sep x else x == c) && globMatch p s

@[simp] theorem globMatch_nil (s : List α) : globMatch star any sep [] s = s.isEmpty := rfl

theorem globMatch_star (p : List α) :
    globMatch star any sep (star :: p) = starRun sep (globMatch star any sep p) :=
  funext fun _ => by simp [globMatch]

theorem globMatch_cons_nil {c : α} (notStar : c ≠ star) (p : List α) :
    globMatch star any sep (c :: p) [] = false := by
  simp [globMatch, notStar]

theorem globMatch_cons_cons {c : α} (notStar : c ≠ star) (p : List α) (x : α) (s : List α) :
    globMatch star any sep (c :: p) (x :: s) =
      ((if c = any then !sep x else x == c) && globMatch star any sep p s) := by
  simp [globMatch, notStar]

variable {star any sep}

theorem globMatch_star_star (p : List α) :
    globMatch star any sep (star :: star :: p) = globMatch star any sep (star :: p) := by
  funext s
  rw [globMatch_star, globMatch_star, starRun_starRun]

theorem globMatch_stars_append {stars : List α} (allStar : ∀ c ∈ stars, c = star) (nonempty : stars ≠ [])
    (p : List α) : globMatch star any sep (stars ++ p) = globMatch star any sep (star :: p) := by
  induction stars with
  | nil => exact absurd rfl nonempty
  | cons c stars ih =>
    obtain rfl := allStar c (List.mem_cons_self _ _)
    by_cases last : stars = []
    · subst last; rfl
    · rw [List.cons_append, globMatch_star, ih (fun c member => allStar c (List.mem_cons_of_mem _ member)) last,
        ← globMatch_star, globMatch_star_star]

theorem globMatch_star_dropWhile (p : List α) :
    globMatch star any sep (star :: p.dropWhile (· == star)) = globMatch star any sep (star :: p) := by
  induction p with
  | nil => rfl
  | cons c p ih =>
    by_cases same : c = star
    · subst same
      rw [globMatch_star_star, ← ih]
      simp
    · simp [same]

theorem globMatch_stars {p : List α} (allStar : ∀ c ∈ p, c = star) (nonempty : p ≠ []) (s : List α) :
    globMatch star any sep p s = s.all (fun x => !sep x) := by
  induction p generalizing s with
  | nil => exact absurd rfl nonempty
  | cons c p ih =>
    obtain rfl := allStar c (List.mem_cons_self _ _)
    rw [globMatch_star]
    by_cases last : p = []
    · subst last
      exact starRun_free rfl (fun t empty => by simp_all) s
    · have inner := ih (fun c member => allStar c (List.mem_cons_of_mem _ member)) last
      exact starRun_free (by rw [inner]; rfl) (fun t found => by rwa [inner] at found) s

theorem globMatch_nil_right (p : List α) : globMatch star any sep p [] = p.all (· == star) := by
  induction p with
  | nil => rfl
  | cons c p ih =>
    by_cases same : c = star
    · subst same
      simp [globMatch_star, ih]
    · simp [globMatch_cons_nil _ _ _ same, same]

-- A pattern that does not start with a star, whose rest matches no suffix of `s`,
-- matches no suffix of `x :: s`.
theorem globMatch_suffix_false {c : α} (notStar : c ≠ star) {p s : List α} (x : α)
    (none : ∀ t, t <:+ s → globMatch star any sep p t = false) :
    ∀ t, t <:+ x :: s → globMatch star any sep (c :: p) t = false := by
  intro t suffix
  rcases List.suffix_cons_iff.mp suffix with rfl | inner
  · simp [globMatch_cons_cons _ _ _ notStar, none s (List.suffix_refl _)]
  · cases t with
    | nil => exact globMatch_cons_nil _ _ _ notStar p
    | cons y t =>
      simp [globMatch_cons_cons _ _ _ notStar, none t ((List.suffix_cons y t).trans inner)]

/-! ### Runs without stars -/

theorem length_le_of_globFits {chunk s : List α} (fitted : globFits any sep chunk s = true) :
    chunk.length ≤ s.length := by
  induction chunk generalizing s with
  | nil => exact Nat.zero_le _
  | cons c chunk ih =>
    cases s with
    | nil => simp [globFits] at fitted
    | cons x s =>
      simp only [globFits, Bool.and_eq_true] at fitted
      simpa using ih fitted.2

theorem globMatch_append {chunk : List α} (noStar : star ∉ chunk) (p s : List α) :
    globMatch star any sep (chunk ++ p) s =
      (globFits any sep chunk s && globMatch star any sep p (s.drop chunk.length)) := by
  induction chunk generalizing s with
  | nil => simp [globFits]
  | cons c chunk ih =>
    have notStar : c ≠ star := fun same => noStar (same ▸ List.mem_cons_self _ _)
    have rest := ih fun member => noStar (List.mem_cons_of_mem _ member)
    cases s with
    | nil => simp [globMatch_cons_nil _ _ _ notStar, globFits]
    | cons x s => simp [globMatch_cons_cons _ _ _ notStar, globFits, rest, Bool.and_assoc]

theorem globMatch_sep_free (p : List α) {s : List α} (free : ∀ x ∈ s, sep x = false) :
    globMatch star any sep p s = globMatch star any (fun _ => false) p s := by
  induction p generalizing s with
  | nil => rfl
  | cons c p ih =>
    by_cases same : c = star
    · subst same
      simp only [globMatch_star]
      induction s with
      | nil => exact ih free
      | cons x s inner =>
        have tail : ∀ y ∈ s, sep y = false := fun y member => free y (List.mem_cons_of_mem _ member)
        simp [ih free, inner tail, free x (List.mem_cons_self _ _)]
    · cases s with
      | nil => simp [globMatch_cons_nil _ _ _ same]
      | cons x s =>
        simp [globMatch_cons_cons _ _ _ same, free x (List.mem_cons_self _ _),
          ih fun y member => free y (List.mem_cons_of_mem _ member)]

section Encoding

variable {β : Type} [DecidableEq β] (f : α → β) (sepβ : β → Bool) {good : α → Prop}
  (inj : ∀ {x y}, good x → good y → f x = f y → x = y)

include inj

-- Symbols that an encoding keeps apart match alike once encoded.
theorem globMatch_map (goodStar : good star) (goodAny : good any) (p : List α) {s : List α}
    (goodPattern : ∀ x ∈ p, good x) (goodName : ∀ x ∈ s, good x) :
    globMatch (f star) (f any) sepβ (p.map f) (s.map f) = globMatch star any (sepβ ∘ f) p s := by
  induction p generalizing s with
  | nil => cases s <;> rfl
  | cons c p ih =>
    have goodHead := goodPattern c (List.mem_cons_self _ _)
    have tail : ∀ {s : List α}, (∀ x ∈ s, good x) →
        globMatch (f star) (f any) sepβ (p.map f) (s.map f) = globMatch star any (sepβ ∘ f) p s :=
      fun goodName => ih (fun x member => goodPattern x (List.mem_cons_of_mem _ member)) goodName
    by_cases same : c = star
    · subst same
      simp only [List.map_cons, globMatch_star]
      induction s with
      | nil => exact tail goodName
      | cons x s inner =>
        have goodTail : ∀ y ∈ s, good y := fun y member => goodName y (List.mem_cons_of_mem _ member)
        simp only [List.map_cons, starRun_cons, Function.comp, inner goodTail]
        rw [← List.map_cons, tail goodName]
    · have encoded : f c ≠ f star := fun equal => same (inj goodHead goodStar equal)
      cases s with
      | nil => simp [globMatch_cons_nil _ _ _ encoded, globMatch_cons_nil _ _ _ same]
      | cons x s =>
        have goodX := goodName x (List.mem_cons_self _ _)
        have anyIff : f c = f any ↔ c = any := ⟨inj goodHead goodAny, congrArg f⟩
        have literal : (f x == f c) = (x == c) :=
          Bool.eq_iff_iff.mpr (by simpa only [beq_iff_eq] using ⟨inj goodX goodHead, congrArg f⟩)
        simp only [List.map_cons, globMatch_cons_cons _ _ _ encoded, globMatch_cons_cons _ _ _ same,
          anyIff, literal, Function.comp, tail fun y member => goodName y (List.mem_cons_of_mem _ member)]

end Encoding

end Glob

end GoCleanArch
