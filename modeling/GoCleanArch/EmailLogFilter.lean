import GoCleanArch.UserSearch

/-!
The `WHERE` clauses `applyEmailLogFilter` (service/email/repository/
email_log_pg_repository.go) adds for an email log filter. The recipient filters
look for an address inside the text of the JSONB arrays the logs keep. The search
writes one condition per requested field the `switch` knows, over fixed columns,
and nothing for the others; its `" OR "` goes by the field's index in the request,
not by what the loop has written so far.
-/

namespace GoCleanArch

-- A field the request leaves out is Go's zero value.
structure EmailLogFilter where
  id : Option String := none
  toEmail : Option String := none
  ccEmail : Option String := none
  bccEmail : Option String := none
  anyRecipient : Option String := none
  status : Option String := none
  provider : Option String := none
  template : Option String := none
  requestID : Option String := none
  sentAfter : Option Int := none
  sentBefore : Option Int := none
  createdAfter : Option Int := none
  createdBefore : Option Int := none
  minRetryCount : Option Int := none
  maxRetryCount : Option Int := none
  minRecipients : Option Int := none
  maxRecipients : Option Int := none
  contentType : Option String := none
  hasAttachments : Option Bool := none
  minMessageSize : Option Int := none
  maxMessageSize : Option Int := none
  searchTerm : Option String := none
  searchFields : List String := []
  includeDeleted : Option Bool := none
  deriving DecidableEq, Repr

-- `if filter.X != nil { qb = qb.Where(condition, args(*filter.X)...) }`
def whereSome {α : Type} (condition : String) (args : α → List SqlArg) (value : Option α) :
    List Clause :=
  (value.map fun v => ⟨condition, args v⟩).toList

def recipientPattern (recipient : String) : String := "%\"" ++ recipient ++ "\"%"

/-! ### The search loop -/

def emailLogDefaultSearchFields : List String := ["to", "cc", "bcc", "subject", "template", "content"]

-- The `switch` on a requested field: the condition it writes, if it knows the field.
def emailLogSearchFragment (field : String) : Option String :=
  if field = "to" ∨ field = "cc" ∨ field = "bcc" then some (field ++ "::text ILIKE ?")
  else if field = "subject" ∨ field = "template" ∨ field = "content" then some (field ++ " ILIKE ?")
  else none

def addEmailLogSearchField (term : String) (acc : String × List SqlArg) (entry : Nat × String) :
    String × List SqlArg :=
  let searchQuery := if entry.1 > 0 then acc.1 ++ " OR " else acc.1
  match emailLogSearchFragment entry.2 with
  | some condition => (searchQuery ++ condition, acc.2 ++ [.text ("%" ++ term ++ "%")])
  | none => (searchQuery, acc.2)

def emailLogSearch (filter : EmailLogFilter) : List Clause :=
  match filter.searchTerm with
  | some term =>
    if term = "" then []
    else
      let searchFields := if filter.searchFields.isEmpty then emailLogDefaultSearchFields
        else filter.searchFields
      let built := searchFields.enum.foldl (addEmailLogSearchField term) ("", [])
      if built.1 ≠ "" then [⟨"(" ++ built.1 ++ ")", built.2⟩] else []
  | none => []

def applyEmailLogFilter : Option EmailLogFilter → List Clause
  | none => []
  | some filter =>
    whereSome "id = ?" (fun id => [.text id]) filter.id ++
    whereSome "to::text ILIKE ?" (fun email => [.text (recipientPattern email)]) filter.toEmail ++
    whereSome "cc::text ILIKE ?" (fun email => [.text (recipientPattern email)]) filter.ccEmail ++
    whereSome "bcc::text ILIKE ?" (fun email => [.text (recipientPattern email)]) filter.bccEmail ++
    whereSome "(to::text ILIKE ? OR cc::text ILIKE ? OR bcc::text ILIKE ?)"
      (fun recipient => [.text (recipientPattern recipient), .text (recipientPattern recipient),
        .text (recipientPattern recipient)]) filter.anyRecipient ++
    whereSome "status = ?" (fun status => [.text status]) filter.status ++
    whereSome "provider = ?" (fun provider => [.text provider]) filter.provider ++
    whereSome "template = ?" (fun template => [.text template]) filter.template ++
    whereSome "request_id = ?" (fun requestID => [.text requestID]) filter.requestID ++
    whereSome "sent_at >= ?" (fun sentAfter => [.int sentAfter]) filter.sentAfter ++
    whereSome "sent_at <= ?" (fun sentBefore => [.int sentBefore]) filter.sentBefore ++
    whereSome "created_at >= ?" (fun createdAfter => [.int createdAfter]) filter.createdAfter ++
    whereSome "created_at <= ?" (fun createdBefore => [.int createdBefore]) filter.createdBefore ++
    whereSome "retry_count >= ?" (fun count => [.int count]) filter.minRetryCount ++
    whereSome "retry_count <= ?" (fun count => [.int count]) filter.maxRetryCount ++
    whereSome "total_recipients >= ?" (fun count => [.int count]) filter.minRecipients ++
    whereSome "total_recipients <= ?" (fun count => [.int count]) filter.maxRecipients ++
    whereSome "content_type = ?" (fun contentType => [.text contentType]) filter.contentType ++
    (filter.hasAttachments.map fun has =>
      if has then ⟨"attachment_count > 0", []⟩ else ⟨"attachment_count = 0", []⟩).toList ++
    whereSome "message_size >= ?" (fun size => [.int size]) filter.minMessageSize ++
    whereSome "message_size <= ?" (fun size => [.int size]) filter.maxMessageSize ++
    emailLogSearch filter ++
    (if filter.includeDeleted = some true then [] else [⟨"deleted_at = 0", []⟩])

/-! ### What the loop writes -/

-- The conditions the search's `switch` can write.
def emailLogSearchFragments : List String :=
  ["to::text ILIKE ?", "cc::text ILIKE ?", "bcc::text ILIKE ?", "subject ILIKE ?",
    "template ILIKE ?", "content ILIKE ?"]

theorem emailLogSearchFragment_mem {field fragment : String}
    (found : emailLogSearchFragment field = some fragment) : fragment ∈ emailLogSearchFragments := by
  unfold emailLogSearchFragment at found
  split_ifs at found with json text
  · cases found
    rcases json with rfl | rfl | rfl <;> decide
  · cases found
    rcases text with rfl | rfl | rfl <;> decide

theorem emailLogSearchFragments_plain :
    ∀ fragment ∈ emailLogSearchFragments, placeholders fragment = 1 ∧ fragment.data.count 'O' = 0 := by
  decide

theorem foldl_addEmailLogSearchField (term : String) :
    ∀ (fields : List String) (n : Nat) (acc : String × List SqlArg), 0 < n →
      (fields.enumFrom n).foldl (addEmailLogSearchField term) acc =
        (acc.1 ++ (fields.map fun field => " OR " ++ (emailLogSearchFragment field).getD "").foldr
            (· ++ ·) "",
          acc.2 ++ fields.filterMap fun field =>
            (emailLogSearchFragment field).map fun _ => .text ("%" ++ term ++ "%"))
  | [], _, acc, _ => by simp
  | field :: rest, n, acc, later => by
    rw [List.enumFrom_cons, List.foldl_cons,
      foldl_addEmailLogSearchField term rest (n + 1) _ n.succ_pos]
    cases found : emailLogSearchFragment field <;>
      simp only [addEmailLogSearchField, later, if_true, found, List.map_cons, List.foldr_cons,
        List.filterMap_cons, Option.getD_none, Option.getD_some, Option.map_none',
        Option.map_some', String.append_empty, String.append_assoc, List.append_assoc,
        List.singleton_append]

-- The loop joins the requested fields' conditions, an unknown field counting as empty.
theorem emailLogSearch_loop (term : String) (fields : List String) :
    fields.enum.foldl (addEmailLogSearchField term) ("", []) =
      (joinStrings " OR " (fields.map fun field => (emailLogSearchFragment field).getD ""),
        fields.filterMap fun field =>
          (emailLogSearchFragment field).map fun _ => .text ("%" ++ term ++ "%")) := by
  cases fields with
  | nil => rfl
  | cons first rest =>
    rw [List.enum_cons, List.foldl_cons, foldl_addEmailLogSearchField term rest 1 _ Nat.one_pos]
    cases found : emailLogSearchFragment first <;>
      simp only [addEmailLogSearchField, found, List.map_cons, joinStrings_cons, List.map_map,
        Function.comp_def, lt_irrefl, if_false, List.filterMap_cons, Option.getD_none,
        Option.getD_some, Option.map_none', Option.map_some', String.empty_append,
        List.nil_append, List.singleton_append]

theorem addEmailLogSearchField_aligned {term : String} {acc : String × List SqlArg}
    (aligned : placeholders acc.1 = acc.2.length) (entry : Nat × String) :
    placeholders (addEmailLogSearchField term acc entry).1 =
      (addEmailLogSearchField term acc entry).2.length := by
  have separator : placeholders (if entry.1 > 0 then acc.1 ++ " OR " else acc.1) = acc.2.length := by
    split_ifs
    · rw [placeholders_append, aligned]
      rfl
    · exact aligned
  unfold addEmailLogSearchField
  cases found : emailLogSearchFragment entry.2 with
  | none => exact separator
  | some fragment =>
    simp only [placeholders_append, separator, List.length_append, List.length_singleton,
      ((emailLogSearchFragments_plain _ (emailLogSearchFragment_mem found)).1)]

theorem foldl_addEmailLogSearchField_aligned (term : String) :
    ∀ (entries : List (Nat × String)) (acc : String × List SqlArg),
      placeholders acc.1 = acc.2.length →
      placeholders (entries.foldl (addEmailLogSearchField term) acc).1 =
        (entries.foldl (addEmailLogSearchField term) acc).2.length
  | [], _, aligned => aligned
  | entry :: rest, _, aligned =>
    foldl_addEmailLogSearchField_aligned term rest _ (addEmailLogSearchField_aligned aligned entry)

/-! ### The clauses -/

-- The conditions `applyEmailLogFilter` writes outside the search.
def emailLogConditions : List String :=
  ["id = ?", "to::text ILIKE ?", "cc::text ILIKE ?", "bcc::text ILIKE ?",
    "(to::text ILIKE ? OR cc::text ILIKE ? OR bcc::text ILIKE ?)", "status = ?", "provider = ?",
    "template = ?", "request_id = ?", "sent_at >= ?", "sent_at <= ?", "created_at >= ?",
    "created_at <= ?", "retry_count >= ?", "retry_count <= ?", "total_recipients >= ?",
    "total_recipients <= ?", "content_type = ?", "attachment_count > 0", "attachment_count = 0",
    "message_size >= ?", "message_size <= ?", "deleted_at = 0"]

theorem forall_mem_whereSome {α : Type} {condition : String} {args : α → List SqlArg}
    {value : Option α} {search : List Clause} (listed : condition ∈ emailLogConditions)
    (count : ∀ v, placeholders condition = (args v).length) :
    ∀ c ∈ whereSome condition args value,
      c ∈ search ∨ (c.condition ∈ emailLogConditions ∧ c.Aligned) := by
  cases value with
  | none => intro c member; cases member
  | some v =>
    intro c member
    rw [List.mem_singleton.mp member]
    exact .inr ⟨listed, count v⟩

-- Every clause outside the search is one of the fixed conditions, bound to its values.
theorem applyEmailLogFilter_cases (filter : EmailLogFilter) :
    ∀ c ∈ applyEmailLogFilter (some filter),
      c ∈ emailLogSearch filter ∨ (c.condition ∈ emailLogConditions ∧ c.Aligned) := by
  simp only [applyEmailLogFilter, List.forall_mem_append]
  repeat' apply And.intro
  all_goals try exact forall_mem_whereSome (by decide) fun _ => rfl
  · intro c member
    cases attachments : filter.hasAttachments with
    | none => rw [attachments] at member; cases member
    | some has =>
      rw [attachments] at member
      rw [List.mem_singleton.mp member]
      cases has
      · exact .inr ⟨by decide, rfl⟩
      · exact .inr ⟨by decide, rfl⟩
  · exact fun _ => .inl
  · intro c member
    split_ifs at member
    · cases member
    · rw [List.mem_singleton.mp member]
      exact .inr ⟨by decide, rfl⟩

theorem emailLogSearch_cases {filter : EmailLogFilter} {c : Clause}
    (member : c ∈ emailLogSearch filter) :
    ∃ (term : String) (fields : List String), c = ⟨"(" ++ (fields.enum.foldl (addEmailLogSearchField term) ("", [])).1 ++ ")",
      (fields.enum.foldl (addEmailLogSearchField term) ("", [])).2⟩ := by
  cases searching : filter.searchTerm with
  | none => simp only [emailLogSearch, searching, List.not_mem_nil] at member
  | some term =>
    simp only [emailLogSearch, searching] at member
    generalize (if filter.searchFields.isEmpty = true then emailLogDefaultSearchFields
      else filter.searchFields) = fields at member
    split_ifs at member
    · cases member
    · exact ⟨term, fields, List.mem_singleton.mp member⟩
    · cases member

theorem email_log_filter_sql_fixed (filter : EmailLogFilter) :
    ∀ c ∈ applyEmailLogFilter (some filter), c.Aligned ∧
      (c.condition ∈ emailLogConditions ∨
        ∃ parts : List String, (∀ part ∈ parts, part = "" ∨ part ∈ emailLogSearchFragments) ∧
          c.condition = "(" ++ joinStrings " OR " parts ++ ")") := by
  intro c member
  rcases applyEmailLogFilter_cases filter c member with found | ⟨fixed, aligned⟩
  · obtain ⟨term, fields, rfl⟩ := emailLogSearch_cases found
    have bare : placeholders "(" = 0 ∧ placeholders ")" = 0 := by decide
    refine ⟨?_, .inr ⟨fields.map fun field => (emailLogSearchFragment field).getD "", ?_, ?_⟩⟩
    · simp only [Clause.Aligned, placeholders_append, bare,
        foldl_addEmailLogSearchField_aligned term fields.enum ("", []) rfl]
      omega
    · intro part listed
      obtain ⟨field, -, rfl⟩ := List.mem_map.mp listed
      cases found : emailLogSearchFragment field with
      | none => exact .inl rfl
      | some fragment => exact .inr (emailLogSearchFragment_mem found)
    · rw [emailLogSearch_loop]
  · exact ⟨aligned, .inl fixed⟩

theorem email_log_filter_sql_fixed_unknown_first :
    (⟨"( OR subject ILIKE ?)", [.text "%bob%"]⟩ : Clause) ∈
        applyEmailLogFilter (some { searchTerm := some "bob", searchFields := ["x", "subject"] }) ∧
      (Clause.Aligned ⟨"( OR subject ILIKE ?)", [.text "%bob%"]⟩ ∧
        ("( OR subject ILIKE ?)" ∈ emailLogConditions ∨
          ∃ parts : List String, (∀ part ∈ parts, part = "" ∨ part ∈ emailLogSearchFragments) ∧
            "( OR subject ILIKE ?)" = "(" ++ joinStrings " OR " parts ++ ")")) := by
  refine ⟨?member, email_log_filter_sql_fixed _ _ ?member⟩
  decide

/-! ### Unknown fields in the search -/

-- What the search is for: the disjunction of the known fields' conditions, the others skipped.
def emailLogSearchSkipping (filter : EmailLogFilter) : List Clause :=
  match filter.searchTerm with
  | some term =>
    if term = "" then []
    else
      let searchFields := if filter.searchFields.isEmpty then emailLogDefaultSearchFields
        else filter.searchFields
      let known := searchFields.filterMap emailLogSearchFragment
      if known = [] then []
      else [⟨"(" ++ joinStrings " OR " known ++ ")", known.map fun _ => .text ("%" ++ term ++ "%")⟩]
  | none => []

theorem map_getD_of_known :
    ∀ {fields : List String}, (∀ field ∈ fields, (emailLogSearchFragment field).isSome) →
      fields.map (fun field => (emailLogSearchFragment field).getD "") =
        fields.filterMap emailLogSearchFragment
  | [], _ => rfl
  | field :: rest, known => by
    obtain ⟨fragment, found⟩ := Option.isSome_iff_exists.mp (known field (List.mem_cons_self _ _))
    simp only [List.map_cons, List.filterMap_cons, found, Option.getD_some,
      map_getD_of_known fun other listed => known other (List.mem_cons_of_mem _ listed)]

theorem length_filterMap_lt {α β : Type} {f : α → Option β} :
    ∀ {l : List α}, (∃ x ∈ l, f x = none) → (l.filterMap f).length < l.length
  | [], ⟨_, listed, _⟩ => by cases listed
  | x :: rest, ⟨y, listed, missing⟩ => by
    rw [List.filterMap_cons]
    rcases List.mem_cons.mp listed with rfl | later
    · rw [missing]
      exact Nat.lt_succ_of_le (List.length_filterMap_le _ _)
    · have shorter := length_filterMap_lt ⟨y, later, missing⟩
      split <;> simp only [List.length_cons] <;> omega

-- The written text has one " OR " per requested field after the first.
theorem count_O_written {parts : List String}
    (each : ∀ part ∈ parts, part = "" ∨ part ∈ emailLogSearchFragments) :
    (joinStrings " OR " parts).data.count 'O' = parts.length - 1 := by
  have separator : " OR ".data.count 'O' = 1 := by decide
  rw [count_joinStrings (k := 0) fun part listed => ?_, separator]
  · simp
  · rcases each part listed with rfl | fragment
    · rfl
    · exact (emailLogSearchFragments_plain part fragment).2

theorem placeholders_known {parts : List String}
    (each : ∀ part ∈ parts, part ∈ emailLogSearchFragments) :
    placeholders (joinStrings " OR " parts) = parts.length := by
  have separator : " OR ".data.count '?' = 0 := by decide
  unfold placeholders
  rw [count_joinStrings (k := 1) fun part listed => (emailLogSearchFragments_plain part (each part listed)).1,
    separator]
  simp

theorem mem_known (fields : List String) :
    ∀ fragment ∈ fields.filterMap emailLogSearchFragment, fragment ∈ emailLogSearchFragments := by
  intro fragment listed
  obtain ⟨field, -, found⟩ := List.mem_filterMap.mp listed
  exact emailLogSearchFragment_mem found

-- When every requested field is known, the loop writes the disjunction of their conditions.
theorem written_of_known {pattern : SqlArg} {fields : List String}
    (known : ∀ field ∈ fields, (emailLogSearchFragment field).isSome) :
    (if joinStrings " OR " (fields.map fun field => (emailLogSearchFragment field).getD "") ≠ "" then
        [Clause.mk ("(" ++ joinStrings " OR " (fields.map fun field =>
            (emailLogSearchFragment field).getD "") ++ ")")
          (fields.filterMap fun field => (emailLogSearchFragment field).map fun _ => pattern)]
      else []) =
      (if fields.filterMap emailLogSearchFragment = [] then []
        else [Clause.mk ("(" ++ joinStrings " OR " (fields.filterMap emailLogSearchFragment) ++ ")")
          ((fields.filterMap emailLogSearchFragment).map fun _ => pattern)]) := by
  rw [map_getD_of_known known, List.map_filterMap]
  by_cases none_known : fields.filterMap emailLogSearchFragment = []
  · rw [if_pos none_known, none_known]
    rfl
  · have text : joinStrings " OR " (fields.filterMap emailLogSearchFragment) ≠ "" := by
      intro blank
      have count := placeholders_known (mem_known fields)
      rw [blank] at count
      exact none_known (List.length_eq_zero.mp count.symm)
    rw [if_pos text, if_neg none_known]

theorem written_iff {pattern : SqlArg} {fields : List String} (given : fields ≠ []) :
    (if joinStrings " OR " (fields.map fun field => (emailLogSearchFragment field).getD "") ≠ "" then
        [Clause.mk ("(" ++ joinStrings " OR " (fields.map fun field =>
            (emailLogSearchFragment field).getD "") ++ ")")
          (fields.filterMap fun field => (emailLogSearchFragment field).map fun _ => pattern)]
      else []) =
      (if fields.filterMap emailLogSearchFragment = [] then []
        else [Clause.mk ("(" ++ joinStrings " OR " (fields.filterMap emailLogSearchFragment) ++ ")")
          ((fields.filterMap emailLogSearchFragment).map fun _ => pattern)]) ↔
      (∀ field ∈ fields, (emailLogSearchFragment field).isSome) ∨ fields.length ≤ 1 := by
  have parts : ∀ part ∈ fields.map fun field => (emailLogSearchFragment field).getD "",
      part = "" ∨ part ∈ emailLogSearchFragments := by
    intro part listed
    obtain ⟨field, -, rfl⟩ := List.mem_map.mp listed
    cases found : emailLogSearchFragment field with
    | none => exact .inl rfl
    | some fragment => exact .inr (emailLogSearchFragment_mem found)
  constructor
  · intro same
    by_contra bad
    push_neg at bad
    obtain ⟨⟨field, listed, unknown⟩, long⟩ := bad
    have fewer := length_filterMap_lt ⟨field, listed, Option.not_isSome_iff_eq_none.mp unknown⟩
    have written := count_O_written parts
    rw [List.length_map] at written
    have text : joinStrings " OR " (fields.map fun field => (emailLogSearchFragment field).getD "") ≠ "" := by
      intro blank
      have empty : "".data.count 'O' = 0 := rfl
      rw [blank, empty] at written
      omega
    rw [if_pos text] at same
    split_ifs at same with none_known
    · have paren : "(".data.count 'O' = 0 ∧ ")".data.count 'O' = 0 := by decide
      have known := count_O_written fun part listed => .inr (mem_known fields part listed)
      have nonzero := List.length_pos.mpr none_known
      have texts := congrArg (fun c : Clause => c.condition.data.count 'O') (List.head_eq_of_cons_eq same)
      simp only [String.data_append, List.count_append, paren, written, known] at texts
      omega
  · rintro (known | short)
    · exact written_of_known known
    · have single : fields.length = 1 := by
        have := List.length_pos.mpr given
        omega
      obtain ⟨field, rfl⟩ := List.length_eq_one.mp single
      cases found : emailLogSearchFragment field with
      | some fragment => exact written_of_known (by simp [found])
      | none => simp [found, joinStrings]

theorem email_log_search_skips_unknown_iff (filter : EmailLogFilter) (term : String)
    (searching : filter.searchTerm = some term) (nonempty : term ≠ "") :
    emailLogSearch filter = emailLogSearchSkipping filter ↔
      (∀ field ∈ filter.searchFields, (emailLogSearchFragment field).isSome) ∨
        filter.searchFields.length ≤ 1 := by
  simp only [emailLogSearch, emailLogSearchSkipping, searching, nonempty, if_false,
    emailLogSearch_loop]
  by_cases requested : filter.searchFields.isEmpty = true
  · have defaults : ∀ field ∈ emailLogDefaultSearchFields, (emailLogSearchFragment field).isSome := by
      decide
    simp only [requested, if_true, written_of_known defaults, true_iff]
    exact .inl fun field listed => absurd (List.isEmpty_iff.mp requested ▸ listed) (List.not_mem_nil _)
  · simp only [requested, if_false]
    exact written_iff fun blank => requested (List.isEmpty_iff.mpr blank)

theorem email_log_search_skips_unknown_iff_unknown_first :
    ({ searchTerm := some "bob", searchFields := ["x", "subject"] } : EmailLogFilter).searchTerm =
        some "bob" ∧ "bob" ≠ "" ∧
      (emailLogSearch { searchTerm := some "bob", searchFields := ["x", "subject"] } =
          emailLogSearchSkipping { searchTerm := some "bob", searchFields := ["x", "subject"] } ↔
        (∀ field ∈ ["x", "subject"], (emailLogSearchFragment field).isSome) ∨
          ["x", "subject"].length ≤ 1) :=
  ⟨rfl, by decide, email_log_search_skips_unknown_iff _ "bob" rfl (by decide)⟩

end GoCleanArch
