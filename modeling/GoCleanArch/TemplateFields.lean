import GoCleanArch.EmailTemplates
import Mathlib.Data.List.Basic
import Mathlib.Data.List.Nodup

/-!
`GetRequiredFields` of the template renderer (modules/email/usecase/template_renderer.go):
the names `extractTemplateFields` finds with Go's `FindAllStringSubmatch` of the
pattern `\{\{\s*\.(\w+)\s*\}\}`, subject first and then content, each name once.
In RE2 `\s` is tab, newline, form feed, carriage return or space and `\w` an ASCII
letter, digit or underscore; `\s*` and `\w+` are followed by characters they
cannot match, so each takes all it can, and the scan tries every position from
the left, going on after each match.

The scanner reads back every placeholder `{{ .name }}` written between literal
text without braces (`extract_fields_round_trip`), and reports nothing else: each
name it returns stands in the text as such a placeholder (`extract_fields_sound`),
so a field used only through a function or a pipeline, as in `{{upper .name}}`,
is not required. `GetRequiredFields` keeps the first occurrence of each name
(`required_fields_first_occurrences`).
-/

namespace GoCleanArch

-- RE2's `\s` and `\w`.
def isSpace (c : Char) : Bool := c == '\t' || c == '\n' || c == '\x0c' || c == '\r' || c == ' '

def isWord (c : Char) : Bool := c.isAlphanum || c == '_'

-- The pattern at the head of the text: the submatch and the text after the match.
def matchPlaceholder : List Char → Option (String × List Char)
  | '\x7b' :: '\x7b' :: rest =>
      match rest.dropWhile isSpace with
      | '.' :: afterDot =>
          match afterDot.takeWhile isWord, (afterDot.dropWhile isWord).dropWhile isSpace with
          | _ :: _, '\x7d' :: '\x7d' :: after => some (String.mk (afterDot.takeWhile isWord), after)
          | _, _ => none
      | _ => none
  | _ => none

theorem matchPlaceholder_shorter {text after : List Char} {name : String}
    (matched : matchPlaceholder text = some (name, after)) : after.length < text.length := by
  unfold matchPlaceholder at matched
  split at matched
  next rest =>
    split at matched
    next afterDot dropped =>
      split at matched
      next _ _ _ stripped =>
        cases matched
        have short : ((afterDot.dropWhile isWord).dropWhile isSpace).length ≤ afterDot.length :=
          ((List.dropWhile_suffix _).trans (List.dropWhile_suffix _)).length_le
        have shorter : afterDot.length < rest.length := by
          have := (List.dropWhile_suffix isSpace (l := rest)).length_le
          rw [dropped] at this
          simpa using this
        rw [stripped] at short
        simp only [List.length_cons] at short ⊢
        omega
      all_goals cases matched
    all_goals cases matched
  all_goals cases matched

-- `extractTemplateFields`: every match of the pattern, left to right.
def extractTemplateFields : List Char → List String
  | [] => []
  | c :: rest =>
      match matched : matchPlaceholder (c :: rest) with
      | some (name, after) =>
          have := matchPlaceholder_shorter matched
          name :: extractTemplateFields after
      | none => extractTemplateFields rest
termination_by text => text.length

-- `GetRequiredFields`: `fieldSet` holds exactly the names already in `fields`.
def addField (fields : List String) (field : String) : List String :=
  if field ∈ fields then fields else fields ++ [field]

def getRequiredFields (tmpl : EmailTemplate) : List String :=
  (extractTemplateFields tmpl.content.data).foldl addField
    ((extractTemplateFields tmpl.subject.data).foldl addField [])

/-! ### The scanner, one position at a time -/

@[simp] theorem extractTemplateFields_nil : extractTemplateFields [] = [] := by
  rw [extractTemplateFields]

theorem extractTemplateFields_of_match {c : Char} {rest after : List Char} {name : String}
    (matched : matchPlaceholder (c :: rest) = some (name, after)) :
    extractTemplateFields (c :: rest) = name :: extractTemplateFields after := by
  rw [extractTemplateFields]
  split <;> simp_all

theorem extractTemplateFields_of_miss {c : Char} {rest : List Char}
    (missed : matchPlaceholder (c :: rest) = none) :
    extractTemplateFields (c :: rest) = extractTemplateFields rest := by
  rw [extractTemplateFields]
  split <;> simp_all

theorem matchPlaceholder_of_ne {c : Char} (rest : List Char) (other : c ≠ '\x7b') :
    matchPlaceholder (c :: rest) = none := by
  unfold matchPlaceholder
  split <;> simp_all

/-! ### Writing and reading back -/

-- `{{ .name }}` with the spaces the pattern allows around the name.
structure Placeholder where
  before : List Char
  name : String
  after : List Char
  spaces : ∀ c ∈ before ++ after, isSpace c = true
  nonempty : name.data ≠ []
  word : ∀ c ∈ name.data, isWord c = true

def Placeholder.text (p : Placeholder) : List Char :=
  '\x7b' :: '\x7b' :: p.before ++ '.' :: p.name.data ++ p.after ++ ['\x7d', '\x7d']

-- Literal template text, which the round trip takes without braces.
structure Literal where
  chars : List Char
  noBrace : '\x7b' ∉ chars

-- A template text: literal text and a placeholder in turn, then literal text.
def writeTemplate (pieces : List (Literal × Placeholder)) (tail : Literal) : List Char :=
  (pieces.map fun piece => piece.1.chars ++ piece.2.text).flatten ++ tail.chars

theorem isWord_of_isSpace {c : Char} (space : isSpace c = true) : isWord c = false := by
  simp only [isSpace, Bool.or_eq_true, beq_iff_eq] at space
  rcases space with (((same | same) | same) | same) | same <;> subst same <;> rfl

theorem after_word (p : Placeholder) (rest : List Char) :
    (p.after ++ '\x7d' :: '\x7d' :: rest).takeWhile isWord = [] ∧
      (p.after ++ '\x7d' :: '\x7d' :: rest).dropWhile isWord = p.after ++ '\x7d' :: '\x7d' :: rest := by
  have spaces : ∀ c ∈ p.after, isSpace c = true := fun c member =>
    p.spaces c (List.mem_append_right _ member)
  cases shape : p.after with
  | nil => exact ⟨rfl, rfl⟩
  | cons c _ =>
      have first : isWord c = false := isWord_of_isSpace (spaces c (by simp [shape]))
      simp [first]

theorem matchPlaceholder_text (p : Placeholder) (rest : List Char) :
    matchPlaceholder (p.text ++ rest) = some (p.name, rest) := by
  have before : ∀ c ∈ p.before, isSpace c = true := fun c member =>
    p.spaces c (List.mem_append_left _ member)
  have after : ∀ c ∈ p.after, isSpace c = true := fun c member =>
    p.spaces c (List.mem_append_right _ member)
  obtain ⟨stops, kept⟩ := after_word p rest
  obtain ⟨first, others, named⟩ := List.exists_cons_of_ne_nil p.nonempty
  have name : (p.name.data ++ (p.after ++ '\x7d' :: '\x7d' :: rest)).takeWhile isWord = p.name.data := by
    rw [List.takeWhile_append_of_pos p.word, stops, List.append_nil]
  have body : ((p.name.data ++ (p.after ++ '\x7d' :: '\x7d' :: rest)).dropWhile isWord).dropWhile isSpace =
      '\x7d' :: '\x7d' :: rest := by
    rw [List.dropWhile_append_of_pos p.word, kept, List.dropWhile_append_of_pos after]
    rfl
  have dot : (p.before ++ '.' :: (p.name.data ++ (p.after ++ '\x7d' :: '\x7d' :: rest))).dropWhile isSpace =
      '.' :: (p.name.data ++ (p.after ++ '\x7d' :: '\x7d' :: rest)) := by
    rw [List.dropWhile_append_of_pos before]
    rfl
  simp only [Placeholder.text, List.cons_append, List.append_assoc, List.singleton_append, List.nil_append,
    matchPlaceholder, dot, name, body]
  rw [named]
  simp only [Option.some.injEq, Prod.mk.injEq, and_true]
  rw [← named]

theorem extractTemplateFields_placeholder (p : Placeholder) (rest : List Char) :
    extractTemplateFields (p.text ++ rest) = p.name :: extractTemplateFields rest :=
  extractTemplateFields_of_match (matchPlaceholder_text p rest)

theorem extractTemplateFields_append_of_noBrace {chars : List Char} (noBrace : '\x7b' ∉ chars)
    (rest : List Char) : extractTemplateFields (chars ++ rest) = extractTemplateFields rest := by
  induction chars with
  | nil => rfl
  | cons c chars ih =>
      have other : c ≠ '\x7b' := fun same => noBrace (same ▸ List.mem_cons_self _ _)
      rw [List.cons_append, extractTemplateFields_of_miss (matchPlaceholder_of_ne _ other)]
      exact ih fun member => noBrace (List.mem_cons_of_mem _ member)

theorem extract_fields_round_trip (pieces : List (Literal × Placeholder)) (tail : Literal) :
    extractTemplateFields (writeTemplate pieces tail) = pieces.map (·.2.name) := by
  induction pieces with
  | nil => simpa [writeTemplate] using extractTemplateFields_append_of_noBrace tail.noBrace []
  | cons piece rest ih =>
      simp only [writeTemplate, List.map_cons, List.flatten_cons, List.append_assoc] at ih ⊢
      rw [extractTemplateFields_append_of_noBrace piece.1.noBrace, extractTemplateFields_placeholder, ih]

/-! ### What a match reads -/

-- A match reads a placeholder: the text starts with one, and goes on after it.
theorem matchPlaceholder_sound {text after : List Char} {name : String}
    (matched : matchPlaceholder text = some (name, after)) :
    ∃ p : Placeholder, p.name = name ∧ text = p.text ++ after := by
  unfold matchPlaceholder at matched
  split at matched
  next rest =>
    split at matched
    next afterDot dropped =>
      split at matched
      next first others taken stripped =>
        cases matched
        let p : Placeholder :=
          { before := rest.takeWhile isSpace
            name := ⟨afterDot.takeWhile isWord⟩
            after := (afterDot.dropWhile isWord).takeWhile isSpace
            spaces := fun c member => by
              rcases List.mem_append.mp member with inBefore | inAfter
              · exact List.mem_takeWhile_imp inBefore
              · exact List.mem_takeWhile_imp inAfter
            nonempty := by simp [taken]
            word := fun c member => List.mem_takeWhile_imp member }
        refine ⟨p, rfl, ?_⟩
        have split_rest := List.takeWhile_append_dropWhile isSpace rest
        have split_dot := List.takeWhile_append_dropWhile isWord afterDot
        have split_after := List.takeWhile_append_dropWhile isSpace (afterDot.dropWhile isWord)
        rw [dropped] at split_rest
        rw [stripped] at split_after
        simp only [Placeholder.text, List.cons_append, List.append_assoc, List.singleton_append,
          List.nil_append, List.cons.injEq, true_and, p]
        rw [split_after, split_dot, split_rest]
      all_goals cases matched
    all_goals cases matched
  all_goals cases matched

-- Every name the scan returns is read from a placeholder of the text.
theorem extract_fields_sound {text : List Char} {name : String}
    (found : name ∈ extractTemplateFields text) :
    ∃ (before : List Char) (p : Placeholder) (after : List Char),
      p.name = name ∧ text = before ++ p.text ++ after := by
  induction text using extractTemplateFields.induct with
  | case1 => simp at found
  | case2 c rest name' after matched _ ih =>
      rw [extractTemplateFields_of_match matched] at found
      obtain ⟨p, named, split⟩ := matchPlaceholder_sound matched
      rcases List.mem_cons.mp found with same | later
      · exact ⟨[], p, after, named.trans same.symm, by simpa using split⟩
      · obtain ⟨before, q, after', named', split'⟩ := ih later
        exact ⟨p.text ++ before, q, after', named', by rw [split, split']; simp⟩
  | case3 c rest missed ih =>
      rw [extractTemplateFields_of_miss missed] at found
      obtain ⟨before, q, after, named, split⟩ := ih found
      exact ⟨c :: before, q, after, named, by rw [split]; simp⟩

theorem extract_fields_sound_greeting :
    "name" ∈ extractTemplateFields "Hi \x7b\x7b .name \x7d\x7d!".data ∧
      ∃ (before : List Char) (p : Placeholder) (after : List Char),
        p.name = "name" ∧ "Hi \x7b\x7b .name \x7d\x7d!".data = before ++ p.text ++ after := by
  let p : Placeholder := ⟨[' '], "name", [' '], by decide, by decide, by decide⟩
  have text : "Hi \x7b\x7b .name \x7d\x7d!".data = "Hi ".data ++ (p.text ++ "!".data) := rfl
  have found : "name" ∈ extractTemplateFields "Hi \x7b\x7b .name \x7d\x7d!".data := by
    rw [text, extractTemplateFields_append_of_noBrace (by decide), extractTemplateFields_placeholder]
    exact List.mem_cons_self _ _
  exact ⟨found, extract_fields_sound found⟩

/-! ### Each name once -/

theorem foldl_addField (names : List String) (acc : List String) :
    names.foldl addField acc = List.eraseDups.loop names acc.reverse := by
  induction names generalizing acc with
  | nil => simp [List.eraseDups.loop]
  | cons name rest ih =>
      rw [List.foldl_cons, ih, List.eraseDups.loop]
      by_cases present : name ∈ acc <;> simp [addField, present, List.elem_eq_mem]

theorem mem_foldl_addField (names : List String) (acc : List String) (name : String) :
    name ∈ names.foldl addField acc ↔ name ∈ acc ∨ name ∈ names := by
  induction names generalizing acc with
  | nil => simp
  | cons first rest ih =>
      rw [List.foldl_cons, ih]
      by_cases present : first ∈ acc
      · by_cases same : name = first
        · subst same; simp [addField, present]
        · simp [addField, present, same]
      · simp [addField, present, or_assoc]

theorem foldl_addField_nodup (names : List String) {acc : List String} (nodup : acc.Nodup) :
    (names.foldl addField acc).Nodup := by
  induction names generalizing acc with
  | nil => exact nodup
  | cons name rest ih =>
      apply ih
      unfold addField
      split
      · exact nodup
      · next absent =>
          exact List.nodup_append.mpr ⟨nodup, List.nodup_singleton _, List.disjoint_singleton.mpr absent⟩

theorem required_fields_first_occurrences (tmpl : EmailTemplate) :
    getRequiredFields tmpl =
        (extractTemplateFields tmpl.subject.data ++ extractTemplateFields tmpl.content.data).eraseDups ∧
      (getRequiredFields tmpl).Nodup ∧
      ∀ name, name ∈ getRequiredFields tmpl ↔
        name ∈ extractTemplateFields tmpl.subject.data ∨ name ∈ extractTemplateFields tmpl.content.data := by
  have whole : getRequiredFields tmpl =
      (extractTemplateFields tmpl.subject.data ++ extractTemplateFields tmpl.content.data).foldl addField [] := by
    rw [getRequiredFields, List.foldl_append]
  refine ⟨by rw [whole, foldl_addField]; rfl, whole ▸ foldl_addField_nodup _ List.nodup_nil, fun name => ?_⟩
  rw [whole, mem_foldl_addField]
  simp

end GoCleanArch
