import GoCleanArch.AuthDomain
import Mathlib.Data.List.Infix

/-!
The `WHERE` clauses the user repository's `applyFilter` adds to a gorm query.
The repository exists twice. The copy in unnamed/part_006 searches through
`database.ApplySearch` (unnamed/part_003), over the columns of a whitelist. The
copy in unnamed/part_012 builds its own `ILIKE` search over the requested field
names.

A clause is what `Where(condition, args...)` receives: SQL text with `?`
placeholders and the values gorm binds to them, in order. A filter comes from
the request (`form` and `json` tags), so its strings are the client's. A Go map's
iteration order is not fixed: `getAllSearchableFields` walks the map's entries in
the order of the list it is given.
-/

namespace GoCleanArch

inductive SqlArg where
  | text (value : String)
  | texts (values : List String)
  | int (value : Int)
  deriving DecidableEq, Repr

-- A `Where` call; `ApplySearch`'s `searchQuery` is one too.
structure Clause where
  condition : String
  args : List SqlArg
  deriving DecidableEq, Repr

def joinStrings (sep : String) : List String → String
  | [] => ""
  | [last] => last
  | elem :: rest => elem ++ sep ++ joinStrings sep rest

/-! ### `ApplySearch` -/

-- A `map[string]string` from request field names to columns, in one iteration order.
abbrev SearchableFields := List (String × String)

def getAllSearchableFields (searchableFields : SearchableFields) : List String :=
  searchableFields.map (·.2)

def filterValidFields (requestedFields : List String) (searchableFields : SearchableFields) :
    List String :=
  requestedFields.filterMap searchableFields.lookup

def getValidSearchFields (requestedFields : List String) (searchableFields : SearchableFields) :
    List String :=
  if requestedFields.isEmpty then getAllSearchableFields searchableFields
  else filterValidFields requestedFields searchableFields

-- The SQL quotes are written `\x27`.
def buildFullTextSearchQuery (fields : List String) (searchTerm : String) : Clause :=
  ⟨joinStrings " OR " (fields.map fun field => "to_tsvector_vietnamese(COALESCE(" ++ field ++
      ", \x27\x27)) @@ plainto_tsquery(\x27vietnamese\x27, ?)"),
    fields.map fun _ => .text searchTerm⟩

def buildPartialMatchQuery (fields : List String) (searchTerm : String) : Clause :=
  let searchPattern := "%" ++ searchTerm ++ "%"
  ⟨joinStrings " OR " (fields.map fun field => field ++ " ILIKE ?"),
    fields.map fun _ => .text searchPattern⟩

def combineSearchQueries (ftsQuery ilikeQuery : Clause) : Clause :=
  ⟨"(" ++ ftsQuery.condition ++ ") OR (" ++ ilikeQuery.condition ++ ")",
    ftsQuery.args ++ ilikeQuery.args⟩

-- The clause `ApplySearch` adds, if any.
def applySearch (searchTerm : String) (searchFields : List String)
    (searchableFields : SearchableFields) : List Clause :=
  if searchTerm = "" then []
  else
    let fieldsToSearch := getValidSearchFields searchFields searchableFields
    if fieldsToSearch.isEmpty then []
    else [combineSearchQueries (buildFullTextSearchQuery fieldsToSearch searchTerm)
      (buildPartialMatchQuery fieldsToSearch searchTerm)]

/-! ### The user filter -/

def isGoSpace (c : Char) : Bool :=
  c = '\t' || c = '\n' || c = '\x0b' || c = '\x0c' || c = '\r' || c = ' ' || c = '\x85' ||
    c = '\xa0' || c = '\u1680' || ('\u2000' ≤ c && c ≤ '\u200a') || c = '\u2028' ||
    c = '\u2029' || c = '\u202f' || c = '\u205f' || c = '\u3000'

def trimSpace (s : String) : String :=
  ⟨((s.data.dropWhile isGoSpace).reverse.dropWhile isGoSpace).reverse⟩

structure UserFilter where
  id : Option String
  idNe : Option String
  idIn : List String
  email : Option String
  username : Option String
  active : Option Bool
  blocked : Option Bool
  hasRoles : List String
  searchTerm : Option String
  searchFields : List String
  includeDeleted : Option Bool
  deriving DecidableEq, Repr

-- The clauses both copies add alike, in their order, around the search clause.
def userFilterClauses (search : List Clause) (filter : UserFilter) : List Clause :=
  (filter.id.map fun id => ⟨"id = ?", [.text id]⟩).toList ++
  (filter.idNe.map fun id => ⟨"id != ?", [.text id]⟩).toList ++
  (if filter.idIn.isEmpty then [] else [⟨"id IN (?)", [.texts filter.idIn]⟩]) ++
  (filter.email.map fun email => ⟨"email = ?", [.text email]⟩).toList ++
  (filter.username.map fun username => ⟨"username = ?", [.text username]⟩).toList ++
  (filter.active.map fun active =>
    if active then ⟨"status = ?", [.text userSTTActive]⟩ else ⟨"status != ?", [.text userSTTActive]⟩).toList ++
  (filter.blocked.map fun blocked =>
    if blocked then ⟨"status = ?", [.text userSTTBanned]⟩ else ⟨"status != ?", [.text userSTTBanned]⟩).toList ++
  search ++
  (if filter.includeDeleted = some true then [] else [⟨"deleted_at = 0", []⟩])

namespace UserRepository

def userSearchableFields : SearchableFields :=
  [("first_name", "first_name"), ("last_name", "last_name"), ("email", "email")]

-- The search of unnamed/part_006: the trimmed term through `ApplySearch`, over the
-- whitelist in the iteration order `fields`.
def search (fields : SearchableFields) (filter : UserFilter) : List Clause :=
  match filter.searchTerm with
  | some term =>
    if term = "" then []
    else
      let searchTerm := trimSpace term
      if searchTerm = "" then [] else applySearch searchTerm filter.searchFields fields
  | none => []

def applyFilter (fields : SearchableFields) : Option UserFilter → List Clause
  | none => []
  | some filter => userFilterClauses (search fields filter) filter

end UserRepository

namespace UserRepositoryCopy

-- One turn of the loop over `(i, field)`: the query text and the values so far.
def addSearchField (term : String) (acc : String × List SqlArg) (entry : Nat × String) :
    String × List SqlArg :=
  ((if entry.1 > 0 then acc.1 ++ " OR " else acc.1) ++ entry.2 ++ " ILIKE ?",
    acc.2 ++ [.text ("%" ++ term ++ "%")])

-- The search of unnamed/part_012: one `ILIKE` per requested field name.
def search (filter : UserFilter) : List Clause :=
  match filter.searchTerm with
  | some term =>
    if term = "" then []
    else
      let searchFields := if filter.searchFields.isEmpty then
          ["username", "email", "first_name", "last_name"]
        else filter.searchFields
      let built := searchFields.enum.foldl (addSearchField term) ("", [])
      [⟨built.1, built.2⟩]
  | none => []

def applyFilter : Option UserFilter → List Clause
  | none => []
  | some filter => userFilterClauses (search filter) filter

end UserRepositoryCopy

/-! ### Placeholders and arguments -/

def placeholders (s : String) : Nat := s.data.count '?'

-- A clause gorm can bind: as many arguments as placeholders.
def Clause.Aligned (c : Clause) : Prop := placeholders c.condition = c.args.length

@[simp] theorem placeholders_append (s t : String) :
    placeholders (s ++ t) = placeholders s + placeholders t := by
  simp [placeholders, String.data_append, List.count_append]

theorem count_joinStrings {ch : Char} {sep : String} {k : Nat} :
    ∀ {parts : List String}, (∀ part ∈ parts, part.data.count ch = k) →
      (joinStrings sep parts).data.count ch =
        parts.length * k + (parts.length - 1) * sep.data.count ch
  | [], _ => by simp [joinStrings]
  | [last], each => by simp [joinStrings, each last (List.mem_singleton_self _)]
  | elem :: next :: rest, each => by
    show (elem ++ sep ++ joinStrings sep (next :: rest)).data.count ch = _
    rw [String.data_append, String.data_append, List.count_append, List.count_append,
      each elem (List.mem_cons_self _ _),
      count_joinStrings fun part member => each part (List.mem_cons_of_mem _ member)]
    simp only [List.length_cons, Nat.add_sub_cancel, Nat.succ_mul]
    omega

theorem placeholders_joinStrings {sep : String} {render : String → String}
    (plain : placeholders sep = 0) {parts : List String}
    (one : ∀ part ∈ parts, placeholders (render part) = 1) :
    placeholders (joinStrings sep (parts.map render)) = parts.length := by
  unfold placeholders at plain one ⊢
  rw [count_joinStrings (List.forall_mem_map.mpr one), plain]
  simp

theorem mem_of_lookup {fields : SearchableFields} {field column : String}
    (found : fields.lookup field = some column) : column ∈ fields.map (·.2) := by
  induction fields with
  | nil => cases found
  | cons entry rest ih =>
    obtain ⟨key, value⟩ := entry
    rw [List.lookup_cons] at found
    split at found
    · cases found
      exact List.mem_cons_self _ _
    · exact List.mem_cons_of_mem _ (ih found)

-- A search runs over columns of the map, never over a requested name.
theorem mem_getValidSearchFields {requested : List String} {fields : SearchableFields}
    {column : String} (member : column ∈ getValidSearchFields requested fields) :
    column ∈ fields.map (·.2) := by
  unfold getValidSearchFields at member
  split at member
  · exact member
  · obtain ⟨field, -, found⟩ := List.mem_filterMap.mp member
    exact mem_of_lookup found

theorem applySearch_cases {term : String} {requested : List String} {fields : SearchableFields}
    {c : Clause} (member : c ∈ applySearch term requested fields) :
    c = combineSearchQueries
      (buildFullTextSearchQuery (getValidSearchFields requested fields) term)
      (buildPartialMatchQuery (getValidSearchFields requested fields) term) := by
  unfold applySearch at member
  dsimp only at member
  split_ifs at member
  · cases member
  · cases member
  · exact List.mem_singleton.mp member

theorem applySearch_aligned {term : String} {requested : List String} {fields : SearchableFields}
    (plain : ∀ entry ∈ fields, placeholders entry.2 = 0) :
    ∀ c ∈ applySearch term requested fields, c.Aligned := by
  intro c member
  rw [applySearch_cases member]
  have each : ∀ column ∈ getValidSearchFields requested fields, placeholders column = 0 := by
    intro column member
    obtain ⟨entry, listed, rfl⟩ := List.mem_map.mp (mem_getValidSearchFields member)
    exact plain entry listed
  have fts : ∀ column ∈ getValidSearchFields requested fields, placeholders
      ("to_tsvector_vietnamese(COALESCE(" ++ column ++
        ", \x27\x27)) @@ plainto_tsquery(\x27vietnamese\x27, ?)") = 1 := by
    intro column member
    simp only [placeholders_append, each column member]
    decide
  have ilike : ∀ column ∈ getValidSearchFields requested fields,
      placeholders (column ++ " ILIKE ?") = 1 := by
    intro column member
    simp only [placeholders_append, each column member]
    decide
  have plain : placeholders " OR " = 0 := by decide
  simp only [Clause.Aligned, combineSearchQueries, buildFullTextSearchQuery,
    buildPartialMatchQuery, placeholders_append, placeholders_joinStrings plain fts,
    placeholders_joinStrings plain ilike, List.length_append, List.length_map]
  have bare : placeholders "(" = 0 ∧ placeholders ") OR (" = 0 ∧ placeholders ")" = 0 := by decide
  omega

theorem UserRepository.mem_search {fields : SearchableFields} {filter : UserFilter} {c : Clause}
    (member : c ∈ UserRepository.search fields filter) :
    ∃ term, c ∈ applySearch term filter.searchFields fields := by
  unfold UserRepository.search at member
  split at member
  · dsimp only at member
    split_ifs at member
    · cases member
    · cases member
    · exact ⟨_, member⟩
  · cases member

/-! ### What reaches the SQL text -/

-- The conditions `applyFilter` writes itself, in both copies.
def userFilterConditions : List String :=
  ["id = ?", "id != ?", "id IN (?)", "email = ?", "username = ?", "status = ?", "status != ?",
    "deleted_at = 0"]

-- The condition `ApplySearch` writes over {columns}: the term only reaches the arguments.
def searchCondition (columns : List String) : String :=
  (combineSearchQueries (buildFullTextSearchQuery columns "")
    (buildPartialMatchQuery columns "")).condition

theorem forall_mem_map_toList {α : Type} {p : Clause → Prop} {o : Option α} {g : α → Clause}
    (each : ∀ a, p (g a)) : ∀ c ∈ (o.map g).toList, p c := by
  cases o <;> simp [each]

-- Every clause around the search is one of the fixed conditions, bound to its one value.
theorem userFilterClauses_cases {search : List Clause} (filter : UserFilter) :
    ∀ c ∈ userFilterClauses search filter,
      c ∈ search ∨ (c.condition ∈ userFilterConditions ∧ c.Aligned) := by
  simp only [userFilterClauses, List.forall_mem_append]
  refine ⟨⟨⟨⟨⟨⟨⟨⟨forall_mem_map_toList fun _ => .inr ⟨by simp [userFilterConditions], rfl⟩,
    forall_mem_map_toList fun _ => .inr ⟨by simp [userFilterConditions], rfl⟩⟩, ?_⟩,
    forall_mem_map_toList fun _ => .inr ⟨by simp [userFilterConditions], rfl⟩⟩,
    forall_mem_map_toList fun _ => .inr ⟨by simp [userFilterConditions], rfl⟩⟩,
    forall_mem_map_toList fun active => ?_⟩, forall_mem_map_toList fun blocked => ?_⟩,
    fun _ => .inl⟩, ?_⟩
  · split_ifs <;> simp
    exact .inr ⟨by decide, rfl⟩
  · cases active
    · exact .inr ⟨by decide, rfl⟩
    · exact .inr ⟨by decide, rfl⟩
  · cases blocked
    · exact .inr ⟨by decide, rfl⟩
    · exact .inr ⟨by decide, rfl⟩
  · split_ifs <;> simp
    exact .inr ⟨by decide, rfl⟩

theorem user_filter_binds_placeholders (fields : SearchableFields)
    (order : fields.Perm UserRepository.userSearchableFields) (filter : Option UserFilter) :
    ∀ c ∈ UserRepository.applyFilter fields filter, c.Aligned := by
  have plain : ∀ entry ∈ fields, placeholders entry.2 = 0 := by
    intro entry listed
    have whitelisted : ∀ entry ∈ UserRepository.userSearchableFields,
        placeholders entry.2 = 0 := by decide
    exact whitelisted entry (order.mem_iff.mp listed)
  intro c member
  cases filter with
  | none => cases member
  | some filter =>
    rcases userFilterClauses_cases filter c member with found | ⟨-, aligned⟩
    · obtain ⟨term, found⟩ := UserRepository.mem_search found
      exact applySearch_aligned plain c found
    · exact aligned

theorem user_filter_binds_placeholders_email_search :
    UserRepository.userSearchableFields.Perm UserRepository.userSearchableFields ∧
      ∀ c ∈ UserRepository.applyFilter UserRepository.userSearchableFields
        (some ⟨none, none, [], some "a@b.c", none, some true, none, [], some " ann ", ["email"],
          none⟩), c.Aligned :=
  ⟨.refl _, user_filter_binds_placeholders _ (.refl _) _⟩

theorem user_filter_sql_from_whitelist (fields : SearchableFields) (filter : UserFilter) :
    ∀ c ∈ UserRepository.applyFilter fields (some filter),
      c.condition ∈ userFilterConditions ∨
        ∃ columns, (∀ column ∈ columns, column ∈ getAllSearchableFields fields) ∧
          c.condition = searchCondition columns := by
  intro c member
  rcases userFilterClauses_cases filter c member with found | ⟨fixed, -⟩
  · obtain ⟨term, found⟩ := UserRepository.mem_search found
    rw [applySearch_cases found]
    exact .inr ⟨_, fun _ => mem_getValidSearchFields, rfl⟩
  · exact .inl fixed

theorem user_filter_sql_from_whitelist_quoted_term :
    (⟨"(to_tsvector_vietnamese(COALESCE(email, \x27\x27)) @@ plainto_tsquery(\x27vietnamese\x27, ?)) OR (email ILIKE ?)",
        [.text "x\x27; DROP TABLE users; --", .text "%x\x27; DROP TABLE users; --%"]⟩ : Clause) ∈
      UserRepository.applyFilter UserRepository.userSearchableFields
        (some ⟨none, none, [], none, none, none, none, [], some "x\x27; DROP TABLE users; --",
          ["email", "password"], none⟩) ∧
    ("(to_tsvector_vietnamese(COALESCE(email, \x27\x27)) @@ plainto_tsquery(\x27vietnamese\x27, ?)) OR (email ILIKE ?)" ∈ userFilterConditions ∨
      ∃ columns, (∀ column ∈ columns,
          column ∈ getAllSearchableFields UserRepository.userSearchableFields) ∧
        "(to_tsvector_vietnamese(COALESCE(email, \x27\x27)) @@ plainto_tsquery(\x27vietnamese\x27, ?)) OR (email ILIKE ?)" = searchCondition columns) := by
  refine ⟨?member, user_filter_sql_from_whitelist _ _ _ ?member⟩
  decide

/-! ### The search loop of part_012 -/

theorem joinStrings_cons (sep first : String) :
    ∀ rest : List String,
      joinStrings sep (first :: rest) = first ++ (rest.map (sep ++ ·)).foldr (· ++ ·) ""
  | [] => (String.append_empty first).symm
  | next :: rest => by
    show first ++ sep ++ joinStrings sep (next :: rest) = _
    rw [joinStrings_cons sep next rest, List.map_cons, List.foldr_cons,
      String.append_assoc, String.append_assoc]

theorem UserRepositoryCopy.foldl_addSearchField (term : String) :
    ∀ (fields : List String) (n : Nat) (acc : String × List SqlArg), 0 < n →
      (fields.enumFrom n).foldl (UserRepositoryCopy.addSearchField term) acc =
        (acc.1 ++ (fields.map fun field => " OR " ++ (field ++ " ILIKE ?")).foldr (· ++ ·) "",
          acc.2 ++ fields.map fun _ => .text ("%" ++ term ++ "%"))
  | [], _, acc, _ => by simp
  | field :: rest, n, acc, later => by
    rw [List.enumFrom_cons, List.foldl_cons,
      UserRepositoryCopy.foldl_addSearchField term rest (n + 1) _ n.succ_pos]
    simp only [UserRepositoryCopy.addSearchField, later, if_true, List.map_cons,
      List.foldr_cons, List.append_assoc, List.singleton_append, String.append_assoc]

-- The loop writes what {buildPartialMatchQuery} writes, over the names as given.
theorem UserRepositoryCopy.search_loop (term : String) (fields : List String) :
    fields.enum.foldl (UserRepositoryCopy.addSearchField term) ("", []) =
      ((buildPartialMatchQuery fields term).condition, (buildPartialMatchQuery fields term).args) := by
  cases fields with
  | nil => rfl
  | cons first rest =>
    rw [List.enum_cons, List.foldl_cons,
      UserRepositoryCopy.foldl_addSearchField term rest 1 _ Nat.one_pos]
    simp only [UserRepositoryCopy.addSearchField, buildPartialMatchQuery, List.map_cons,
      joinStrings_cons, List.map_map, Function.comp_def, lt_irrefl, if_false,
      String.empty_append, List.nil_append, List.singleton_append]

theorem infix_joinStrings {sep part : String} :
    ∀ {parts : List String}, part ∈ parts → part.data <:+: (joinStrings sep parts).data
  | [], member => by cases member
  | [last], member => by
    rw [List.mem_singleton.mp member]
    exact List.infix_refl _
  | elem :: next :: rest, member => by
    show part.data <:+: (elem ++ sep ++ joinStrings sep (next :: rest)).data
    rw [String.data_append, String.data_append]
    rcases List.mem_cons.mp member with rfl | later
    · exact ((List.prefix_append _ _).trans (List.prefix_append _ _)).isInfix
    · exact (infix_joinStrings later).trans (List.suffix_append _ _).isInfix

theorem copy_search_splices_fields (filter : UserFilter) (term : String)
    (searching : filter.searchTerm = some term) (nonempty : term ≠ "") :
    UserRepositoryCopy.search filter = [buildPartialMatchQuery (if filter.searchFields.isEmpty
        then ["username", "email", "first_name", "last_name"] else filter.searchFields) term] ∧
      ∀ field ∈ filter.searchFields,
        ∃ c ∈ UserRepositoryCopy.applyFilter (some filter), field.data <:+: c.condition.data := by
  have search : UserRepositoryCopy.search filter = [buildPartialMatchQuery (if filter.searchFields.isEmpty
      then ["username", "email", "first_name", "last_name"] else filter.searchFields) term] := by
    simp only [UserRepositoryCopy.search, searching, nonempty, if_false,
      UserRepositoryCopy.search_loop]
  refine ⟨search, fun field requested => ?_⟩
  have given : filter.searchFields.isEmpty = false :=
    List.isEmpty_eq_false_iff_exists_mem.mpr ⟨field, requested⟩
  refine ⟨buildPartialMatchQuery filter.searchFields term, ?_, ?_⟩
  · simp only [UserRepositoryCopy.applyFilter, userFilterClauses, search, given,
      Bool.false_eq_true, if_false,
      List.mem_append, List.mem_singleton, true_or, or_true]
  · exact (List.prefix_append field.data _).isInfix.trans
      (infix_joinStrings (List.mem_map_of_mem _ requested))

theorem copy_search_splices_fields_drop_table :
    (⟨none, none, [], none, none, none, none, [], some "a", ["1=1); DROP TABLE users; --"],
        none⟩ : UserFilter).searchTerm = some "a" ∧ "a" ≠ "" ∧
      ∀ field ∈ ["1=1); DROP TABLE users; --"], ∃ c ∈ UserRepositoryCopy.applyFilter
        (some ⟨none, none, [], none, none, none, none, [], some "a", ["1=1); DROP TABLE users; --"],
          none⟩), field.data <:+: c.condition.data :=
  ⟨rfl, by decide, (copy_search_splices_fields ⟨none, none, [], none, none, none, none, [], some "a",
    ["1=1); DROP TABLE users; --"], none⟩ "a" rfl (by decide)).2⟩

end GoCleanArch
