import GoCleanArch.GoRuntime
import Mathlib.Data.List.AList

/-!
`FileLinkPgRepository.AddFiles` of the upload service (file_link_repository.go) over
the `file_links` table, with the `database.SQLHandler` calls it makes (part_003).

A `domain.FileLink` row is its five columns; `File` is an association that the rows
read here never load. The tag of `Order` reads `primaryKey,type:int4`, and gorm splits
a tag's settings at `;`, so that is one setting named `PRIMARYKEY,TYPE`: AutoMigrate
keys the table on (file_id, related_id, related_type, field), and `LinkTable` keeps
those keys distinct. Each statement is atomic. A call fails on a duplicate key, or by
a fault of the connection, which the input `fails` decides from the call's number in
issue order. No transaction groups the calls.

`fieldFiles` is a Go map: an association list whose order is the iteration order.
A file is its id. The files `AddFiles` reads from the file table only fill the map it
returns and the caller's `File`s. That table is never written, so the lookup is a
call that can fail and its rows are left out.
-/

namespace GoCleanArch

structure FileLink where
  fileID : String
  relatedID : String
  relatedType : String
  field : String
  order : Int
  deriving DecidableEq, Repr

abbrev LinkKey := String × String × String × String

def FileLink.key (l : FileLink) : LinkKey := (l.fileID, l.relatedID, l.relatedType, l.field)

-- The `file_links` table: its rows, one a key.
structure LinkTable where
  rows : List FileLink
  keys_nodup : (rows.map FileLink.key).Nodup

inductive LinkError where
  | duplicateKey
  | fault (call : Nat)
  deriving DecidableEq, Repr

abbrev FieldFiles := AList (fun _ : String => List String)

inductive LinkWrite where
  | createMany (links : List FileLink)
  | save (link : FileLink)
  | deleteMany (fileID relatedID field : String)

namespace LinkTable

-- `CreateMany`: one INSERT of all the rows, refused whole on a duplicate key.
def createMany (t : LinkTable) (links : List FileLink) : Except LinkError LinkTable :=
  if fresh : ((t.rows ++ links).map FileLink.key).Nodup then .ok ⟨t.rows ++ links, fresh⟩
  else .error .duplicateKey

theorem map_key_replace (rows : List FileLink) (link : FileLink) :
    (rows.map fun r => if r.key = link.key then link else r).map FileLink.key =
      rows.map FileLink.key := by
  simp only [List.map_map]
  congr 1
  funext r
  by_cases same : r.key = link.key <;> simp [same]

-- gorm's `Save`: a link with an empty key column is inserted; otherwise the row with
-- its key is overwritten, or the link inserted when there is none.
def save (t : LinkTable) (link : FileLink) : Except LinkError LinkTable :=
  if link.fileID = "" ∨ link.relatedID = "" ∨ link.relatedType = "" ∨ link.field = "" then
    t.createMany [link]
  else if t.rows.any (·.key = link.key) then
    .ok ⟨t.rows.map (fun r => if r.key = link.key then link else r),
      (map_key_replace t.rows link).symm ▸ t.keys_nodup⟩
  else t.createMany [link]

-- `DeleteMany` under `applyFileLinkFilter` with `FileID`, `RelatedID` and `Field` set.
def deleteMany (t : LinkTable) (fileID relatedID field : String) : LinkTable :=
  ⟨t.rows.filter (fun r => !(r.fileID = fileID ∧ r.relatedID = relatedID ∧ r.field = field)),
    t.keys_nodup.sublist ((List.filter_sublist _).map _)⟩

def apply (t : LinkTable) : LinkWrite → Except LinkError LinkTable
  | .createMany links => t.createMany links
  | .save link => t.save link
  | .deleteMany fileID relatedID field => .ok (t.deleteMany fileID relatedID field)

-- The writes one after another from call number `call`, up to the first that fails.
def runWrites (fails : Nat → Bool) : Nat → LinkTable → List LinkWrite →
    Except LinkError Unit × LinkTable
  | _, t, [] => (.ok (), t)
  | call, t, w :: ws =>
    if fails call then (.error (.fault call), t)
    else
      match t.apply w with
      | .error e => (.error e, t)
      | .ok t' => runWrites fails (call + 1) t' ws

end LinkTable

/-! ### The loop -/

-- What the loop works on: the links read for the entity, as the objects
-- `existingByField` points at and whose `Order` the loop sets; the links to create;
-- the keys of the objects to save; and the links to delete.
structure Plan where
  objects : List FileLink
  toCreate : List FileLink
  toUpdate : List LinkKey
  toDelete : List FileLink

-- One file of a field, with `existingMap` the field's objects by file id.
def planFile (entityType entityID fieldName : String) (plan : Plan) (entry : Nat × String) : Plan :=
  if entry.2 = "" then plan
  else
    let newOrder : Int := entry.1 + 1
    match plan.objects.find? (fun o => o.field = fieldName ∧ o.fileID = entry.2) with
    | some existing =>
      if existing.order ≠ newOrder then
        { plan with
          objects := plan.objects.map fun o =>
            if o.key = existing.key then { o with order := newOrder } else o
          toUpdate := plan.toUpdate ++ [existing.key] }
      else plan
    | none =>
      { plan with
        toCreate := plan.toCreate ++ [⟨entry.2, entityID, entityType, fieldName, newOrder⟩] }

-- One field: its files in order, then its objects whose file is not among them.
def planField (entityType entityID : String) (plan : Plan) (fieldName : String)
    (files : List String) : Plan :=
  let plan := files.enum.foldl (planFile entityType entityID fieldName) plan
  { plan with
    toDelete := plan.toDelete ++ plan.objects.filter fun o => o.field = fieldName ∧ o.fileID ∉ files }

abbrev FieldEntry := Σ _ : String, List String

-- The loop over the fields of `fieldFiles`, in iteration order.
def planFields (entityType entityID : String) (plan : Plan) (entries : List FieldEntry) : Plan :=
  entries.foldl (fun plan e => planField entityType entityID plan e.1 e.2) plan

-- CreateMany, then a `Save` of each object to update as it stands after the loop, then
-- a DeleteMany for each link to delete.
def Plan.writes (plan : Plan) : List LinkWrite :=
  (if plan.toCreate.isEmpty then [] else [.createMany plan.toCreate]) ++
    (plan.toUpdate.filterMap fun k => plan.objects.find? (·.key = k)).map .save ++
    plan.toDelete.map fun l => .deleteMany l.fileID l.relatedID l.field

def existingLinks (table : LinkTable) (entityType entityID : String) (fieldNames : List String) :
    List FileLink :=
  table.rows.filter fun l => l.relatedID = entityID ∧ l.relatedType = entityType ∧ l.field ∈ fieldNames

def addFiles (fails : Nat → Bool) (table : LinkTable) (entityType entityID : String)
    (fieldFiles : FieldFiles) : Except LinkError Unit × LinkTable :=
  if fieldFiles.entries.isEmpty then (.ok (), table)
  else if fails 0 then (.error (.fault 0), table)
  else
    -- the file lookup runs when some file has an id
    let lookups := if fieldFiles.entries.all (fun e => e.2.all (· = "")) then 1 else 2
    if lookups = 2 ∧ fails 1 then (.error (.fault 1), table)
    else
      let plan := planFields entityType entityID
        ⟨existingLinks table entityType entityID fieldFiles.keys, [], [], []⟩ fieldFiles.entries
      table.runWrites fails lookups plan.writes

/-! ### Each write, link by link -/

theorem FileLink.eq_of_key_order {a b : FileLink} (key : a.key = b.key) (order : a.order = b.order) :
    a = b := by
  cases a
  cases b
  simp only [FileLink.key, Prod.mk.injEq] at key
  simp_all

namespace LinkTable

theorem mem_createMany {t t' : LinkTable} {links : List FileLink}
    (created : t.createMany links = .ok t') (l : FileLink) : l ∈ t'.rows ↔ l ∈ t.rows ∨ l ∈ links := by
  unfold createMany at created
  split at created
  · cases created
    exact List.mem_append
  · cases created

theorem mem_save {t t' : LinkTable} {link : FileLink} (saved : t.save link = .ok t')
    (present : ∃ r ∈ t.rows, r.key = link.key) (l : FileLink) :
    l ∈ t'.rows ↔ l = link ∨ (l ∈ t.rows ∧ l.key ≠ link.key) := by
  obtain ⟨r, member, same⟩ := present
  have taken : ¬ ((t.rows ++ [link]).map FileLink.key).Nodup := fun fresh =>
    List.disjoint_of_nodup_append (by simpa using fresh) (List.mem_map_of_mem _ member)
      (by simp [same])
  have found : t.rows.any (·.key = link.key) = true := List.any_eq_true.mpr ⟨r, member, by simp [same]⟩
  by_cases zero : link.fileID = "" ∨ link.relatedID = "" ∨ link.relatedType = "" ∨ link.field = ""
  · rw [save, if_pos zero, createMany, dif_neg taken] at saved
    cases saved
  · rw [save, if_neg zero, if_pos found] at saved
    cases saved
    simp only [List.mem_map]
    constructor
    · rintro ⟨row, row_mem, rfl⟩
      by_cases hit : row.key = link.key
      · exact .inl (if_pos hit)
      · exact .inr ⟨by simpa [hit] using row_mem, by simp [hit]⟩
    · rintro (rfl | ⟨row_mem, other⟩)
      · exact ⟨r, member, if_pos same⟩
      · exact ⟨l, row_mem, if_neg other⟩

theorem mem_save_of_ne {t t' : LinkTable} {link l : FileLink} (saved : t.save link = .ok t')
    (other : l.key ≠ link.key) : l ∈ t'.rows ↔ l ∈ t.rows := by
  have ne : l ≠ link := fun same => other (same ▸ rfl)
  unfold save at saved
  split at saved
  · simp [mem_createMany saved, ne]
  · split at saved
    · cases saved
      simp only [List.mem_map]
      constructor
      · rintro ⟨row, row_mem, rfl⟩
        by_cases hit : row.key = link.key
        · exact absurd (by simp [hit]) other
        · simpa [hit] using row_mem
      · exact fun member => ⟨l, member, if_neg other⟩
    · simp [mem_createMany saved, ne]

@[simp] theorem mem_deleteMany (t : LinkTable) (fileID relatedID field : String) (l : FileLink) :
    l ∈ (t.deleteMany fileID relatedID field).rows ↔
      l ∈ t.rows ∧ ¬(l.fileID = fileID ∧ l.relatedID = relatedID ∧ l.field = field) := by
  simp only [deleteMany, List.mem_filter, Bool.not_eq_true', decide_eq_false_iff_not]

/-! ### Runs of writes -/

theorem runWrites_append_ok {fails : Nat → Bool} {call : Nat} {t t'' : LinkTable}
    {ws ws' : List LinkWrite} (ran : runWrites fails call t (ws ++ ws') = (.ok (), t'')) :
    ∃ t', runWrites fails call t ws = (.ok (), t') ∧
      runWrites fails (call + ws.length) t' ws' = (.ok (), t'') := by
  induction ws generalizing call t with
  | nil => exact ⟨t, rfl, ran⟩
  | cons w ws ih =>
    simp only [List.cons_append, runWrites] at ran ⊢
    split at ran
    · cases ran
    · split at ran
      · cases ran
      · rename_i t₁ applied
        obtain ⟨t', first, rest⟩ := ih ran
        refine ⟨t', ?_, by rwa [List.length_cons, ← Nat.add_assoc, Nat.add_right_comm]⟩
        simp only [*, Bool.false_eq_true, if_false]

theorem runWrites_saves {fails : Nat → Bool} :
    ∀ {call : Nat} {t t' : LinkTable} {links : List FileLink},
      runWrites fails call t (links.map .save) = (.ok (), t') →
      (∀ s ∈ links, ∃ r ∈ t.rows, r.key = s.key) →
      (∀ a ∈ links, ∀ b ∈ links, a.key = b.key → a = b) →
      ∀ l, l ∈ t'.rows ↔ l ∈ links ∨ (l ∈ t.rows ∧ ∀ s ∈ links, l.key ≠ s.key)
  | call, t, t', [], ran, _, _, l => by
    cases ran
    simp
  | call, t, t', s :: links, ran, present, consistent, l => by
    simp only [List.map_cons, runWrites] at ran
    split at ran
    · cases ran
    · split at ran
      · cases ran
      · rename_i t₁ saved
        have mem₁ := mem_save saved (present s (List.mem_cons_self _ _))
        have present₁ : ∀ s' ∈ links, ∃ r ∈ t₁.rows, r.key = s'.key := by
          intro s' member
          obtain ⟨r, r_mem, same⟩ := present s' (List.mem_cons_of_mem _ member)
          by_cases hit : r.key = s.key
          · exact ⟨s, (mem₁ s).mpr (.inl rfl), hit ▸ same⟩
          · exact ⟨r, (mem₁ r).mpr (.inr ⟨r_mem, hit⟩), same⟩
        rw [runWrites_saves ran present₁
          (fun a ha b hb => consistent a (List.mem_cons_of_mem _ ha) b (List.mem_cons_of_mem _ hb)) l,
          mem₁, List.mem_cons]
        constructor
        · rintro (member | ⟨rfl | ⟨member, other⟩, others⟩)
          · exact .inl (.inr member)
          · exact .inl (.inl rfl)
          · exact .inr ⟨member, fun s' member' => by
              rcases List.mem_cons.mp member' with rfl | later
              exacts [other, others s' later]⟩
        · rintro ((rfl | member) | ⟨member, others⟩)
          · by_cases later : ∃ s' ∈ links, s'.key = l.key
            · obtain ⟨s', s'_mem, same⟩ := later
              exact .inl (consistent s' (List.mem_cons_of_mem _ s'_mem) l
                (List.mem_cons_self _ _) same ▸ s'_mem)
            · push_neg at later
              exact .inr ⟨.inl rfl, fun s' member => (later s' member).symm⟩
          · exact .inl member
          · exact .inr ⟨.inr ⟨member, others s (List.mem_cons_self _ _)⟩,
              fun s' member' => others s' (List.mem_cons_of_mem _ member')⟩

theorem runWrites_deletes {fails : Nat → Bool} :
    ∀ {call : Nat} {t t' : LinkTable} {links : List FileLink},
      runWrites fails call t (links.map fun d => .deleteMany d.fileID d.relatedID d.field) =
        (.ok (), t') →
      ∀ l, l ∈ t'.rows ↔
        l ∈ t.rows ∧ ∀ d ∈ links, ¬(l.fileID = d.fileID ∧ l.relatedID = d.relatedID ∧ l.field = d.field)
  | call, t, t', [], ran, l => by
    cases ran
    simp
  | call, t, t', d :: links, ran, l => by
    simp only [List.map_cons, runWrites] at ran
    split at ran
    · cases ran
    · simp only [apply] at ran
      rw [runWrites_deletes ran l, mem_deleteMany, List.forall_mem_cons, and_assoc]

-- Rows that no write of a run can touch are the same after it, whatever its outcome.
theorem runWrites_frame {fails : Nat → Bool} {l : FileLink} :
    ∀ {call : Nat} {t : LinkTable} {ws : List LinkWrite},
      (∀ w ∈ ws, ∀ t t' : LinkTable, t.apply w = .ok t' → (l ∈ t'.rows ↔ l ∈ t.rows)) →
      (l ∈ (runWrites fails call t ws).2.rows ↔ l ∈ t.rows)
  | call, t, [], _ => Iff.rfl
  | call, t, w :: ws, untouched => by
    simp only [runWrites]
    split
    · exact Iff.rfl
    · split
      · exact Iff.rfl
      · rename_i t' applied
        rw [runWrites_frame (fun w' member => untouched w' (List.mem_cons_of_mem _ member))]
        exact untouched w (List.mem_cons_self _ _) t t' applied

-- A run ends with the table its first `k` writes leave, each of them succeeding: a fault
-- or an error stops the writes and undoes none.
theorem runWrites_take_ok {fails : Nat → Bool} :
    ∀ {call : Nat} {t : LinkTable} {ws : List LinkWrite} (start : Nat), ∃ k,
      runWrites (fun _ => false) start t (ws.take k) = (.ok (), (runWrites fails call t ws).2)
  | call, t, [], _ => ⟨0, rfl⟩
  | call, t, w :: ws, start => by
    by_cases fault : fails call
    · exact ⟨0, by simp [runWrites, fault]⟩
    · cases applied : t.apply w with
      | error e => exact ⟨0, by simp [runWrites, fault, applied]⟩
      | ok t' =>
        obtain ⟨k, run⟩ := @runWrites_take_ok fails (call + 1) t' ws (start + 1)
        exact ⟨k + 1, by simp [runWrites, fault, applied, run]⟩

end LinkTable

/-! ### What the loop computes -/

-- An object of `fieldName` after the loop over `files` from index `n`: its order is one
-- more than the index of its file, when the field lists it under a non-empty id.
def reorderFrom (fieldName : String) (files : List String) (n : Nat) (o : FileLink) : FileLink :=
  if o.field = fieldName ∧ o.fileID ≠ "" ∧ o.fileID ∈ files then
    { o with order := n + files.indexOf o.fileID + 1 }
  else o

@[simp] theorem reorderFrom_key (fieldName : String) (files : List String) (n : Nat) (o : FileLink) :
    (reorderFrom fieldName files n o).key = o.key := by
  unfold reorderFrom
  split <;> rfl

@[simp] theorem reorderFrom_fileID (fieldName : String) (files : List String) (n : Nat) (o : FileLink) :
    (reorderFrom fieldName files n o).fileID = o.fileID := by
  unfold reorderFrom
  split <;> rfl

@[simp] theorem reorderFrom_field (fieldName : String) (files : List String) (n : Nat) (o : FileLink) :
    (reorderFrom fieldName files n o).field = o.field := by
  unfold reorderFrom
  split <;> rfl

@[simp] theorem reorderFrom_relatedID (fieldName : String) (files : List String) (n : Nat)
    (o : FileLink) : (reorderFrom fieldName files n o).relatedID = o.relatedID := by
  unfold reorderFrom
  split <;> rfl

-- The links the loop starts from: the entity's, one a key.
def EntityLinks (entityType entityID : String) (objects : List FileLink) : Prop :=
  (objects.map FileLink.key).Nodup ∧ ∀ o ∈ objects, o.relatedID = entityID ∧ o.relatedType = entityType

section Loop

variable {entityType entityID fieldName : String}

theorem EntityLinks.key_eq_iff {objects : List FileLink} (links : EntityLinks entityType entityID objects)
    {a b : FileLink} (ha : a ∈ objects) (hb : b ∈ objects) :
    a.key = b.key ↔ a.field = b.field ∧ a.fileID = b.fileID := by
  obtain ⟨aID, aType⟩ := links.2 a ha
  obtain ⟨bID, bType⟩ := links.2 b hb
  simp only [FileLink.key, Prod.mk.injEq, aID, bID, aType, bType, true_and]
  exact and_comm

theorem EntityLinks.map {objects : List FileLink} (links : EntityLinks entityType entityID objects)
    (g : FileLink → FileLink) (keeps : ∀ o, (g o).key = o.key) :
    EntityLinks entityType entityID (objects.map g) := by
  refine ⟨by simpa [List.map_map, Function.comp_def, keeps] using links.1, ?_⟩
  simp only [List.forall_mem_map]
  intro o member
  have same := keeps o
  simp only [FileLink.key, Prod.mk.injEq] at same
  exact ⟨same.2.1.trans (links.2 o member).1, same.2.2.1.trans (links.2 o member).2⟩

theorem EntityLinks.reorder {objects : List FileLink} (links : EntityLinks entityType entityID objects)
    (files : List String) (n : Nat) :
    EntityLinks entityType entityID (objects.map (reorderFrom fieldName files n)) :=
  links.map _ (reorderFrom_key fieldName files n)

theorem planFile_objects {plan : Plan} (links : EntityLinks entityType entityID plan.objects)
    (entry : Nat × String) :
    (planFile entityType entityID fieldName plan entry).objects =
      plan.objects.map (reorderFrom fieldName [entry.2] entry.1) := by
  have single : ∀ o : FileLink, reorderFrom fieldName [entry.2] entry.1 o =
      if o.field = fieldName ∧ o.fileID ≠ "" ∧ o.fileID = entry.2 then
        { o with order := entry.1 + 1 } else o := by
    intro o
    by_cases hit : o.field = fieldName ∧ o.fileID ≠ "" ∧ o.fileID = entry.2
    · simp [reorderFrom, hit, List.indexOf_cons_self]
    · simp [reorderFrom, hit]
  unfold planFile
  split
  · rename_i empty
    refine (List.map_congr_left fun o _ => ?_).trans (List.map_id _) |>.symm
    rw [single, if_neg fun hit => hit.2.1 (hit.2.2.trans empty), id]
  · rename_i named
    split
    · rename_i existing found
      have member := List.mem_of_find?_eq_some found
      have hit := List.find?_some found
      simp only [decide_eq_true_eq] at hit
      have same : ∀ o ∈ plan.objects, o.key = existing.key ↔
          (o.field = fieldName ∧ o.fileID ≠ "" ∧ o.fileID = entry.2) := by
        intro o o_mem
        rw [links.key_eq_iff o_mem member, hit.1, hit.2]
        exact ⟨fun h => ⟨h.1, h.2 ▸ named, h.2⟩, fun h => ⟨h.1, h.2.2⟩⟩
      dsimp only
      split
      · exact List.map_congr_left fun o o_mem => by rw [single, if_congr (same o o_mem) rfl rfl]
      · rename_i unchanged
        refine (List.map_congr_left fun o o_mem => ?_).trans (List.map_id _) |>.symm
        rw [single, ← if_congr (same o o_mem) rfl rfl, id]
        split
        · rename_i key
          have : o = existing := List.inj_on_of_nodup_map links.1 o_mem member key
          subst this
          rw [← not_not.mp unchanged]
        · rfl
    · rename_i missing
      refine (List.map_congr_left fun o o_mem => ?_).trans (List.map_id _) |>.symm
      rw [single, if_neg, id]
      rintro ⟨field, -, file⟩
      exact List.find?_eq_none.mp missing o o_mem (by simp [field, file])

theorem planFile_toCreate (plan : Plan) (entry : Nat × String) :
    (planFile entityType entityID fieldName plan entry).toCreate = plan.toCreate ++
      if entry.2 ≠ "" ∧ ∀ o ∈ plan.objects, ¬(o.field = fieldName ∧ o.fileID = entry.2) then
        [⟨entry.2, entityID, entityType, fieldName, entry.1 + 1⟩]
      else [] := by
  unfold planFile
  split
  · simp_all
  · rename_i named
    dsimp only
    split
    · rename_i existing found
      have taken : ¬∀ o ∈ plan.objects, ¬(o.field = fieldName ∧ o.fileID = entry.2) := fun free =>
        free existing (List.mem_of_find?_eq_some found) (by simpa using List.find?_some found)
      rw [if_neg (show ¬(entry.2 ≠ "" ∧ ∀ o ∈ plan.objects, ¬(o.field = fieldName ∧ o.fileID = entry.2))
        from fun both => taken both.2)]
      split <;> simp
    · rename_i missing
      rw [if_pos ⟨named, fun o member => by simpa using List.find?_eq_none.mp missing o member⟩]

theorem planFile_toDelete (plan : Plan) (entry : Nat × String) :
    (planFile entityType entityID fieldName plan entry).toDelete = plan.toDelete := by
  unfold planFile
  split
  · rfl
  · dsimp only
    split
    · split <;> rfl
    · rfl

-- Every object whose order the loop moved is among the keys to save.
def Plan.Tracks (existing : List FileLink) (plan : Plan) : Prop :=
  ∀ o ∈ plan.objects, ∀ o₀ ∈ existing, o₀.key = o.key → o.order ≠ o₀.order → o.key ∈ plan.toUpdate

def Plan.SavesObjects (plan : Plan) : Prop :=
  ∀ k ∈ plan.toUpdate, ∃ o ∈ plan.objects, o.key = k

theorem planFile_tracks {existing : List FileLink} {plan : Plan} (tracks : plan.Tracks existing)
    (saves : plan.SavesObjects) (entry : Nat × String) :
    (planFile entityType entityID fieldName plan entry).Tracks existing ∧
      (planFile entityType entityID fieldName plan entry).SavesObjects := by
  unfold planFile
  split
  · exact ⟨tracks, saves⟩
  · dsimp only
    split
    · rename_i existingLink found
      split
      · have moved : ∀ o : FileLink, (if o.key = existingLink.key then
            { o with order := (entry.1 : Int) + 1 } else o).key = o.key := fun o => by
          split <;> rfl
        refine ⟨?_, ?_⟩
        · simp only [Plan.Tracks, List.forall_mem_map, moved, List.mem_append, List.mem_singleton]
          intro o member o₀ o₀_mem same changed
          by_cases hit : o.key = existingLink.key
          · exact .inr hit
          · exact .inl (tracks o member o₀ o₀_mem same (by simpa [hit] using changed))
        · simp only [Plan.SavesObjects, List.mem_append, List.mem_singleton, List.mem_map]
          rintro k (member | rfl)
          · obtain ⟨o, o_mem, rfl⟩ := saves k member
            exact ⟨_, ⟨o, o_mem, rfl⟩, moved o⟩
          · exact ⟨_, ⟨existingLink, List.mem_of_find?_eq_some found, rfl⟩, moved existingLink⟩
      · exact ⟨tracks, saves⟩
    · exact ⟨tracks, saves⟩

theorem reorderFrom_cons {f : String} {rest : List String}
    (distinct : ((f :: rest).filter (· ≠ "")).Nodup) (n : Nat) (o : FileLink) :
    reorderFrom fieldName rest (n + 1) (reorderFrom fieldName [f] n o) =
      reorderFrom fieldName (f :: rest) n o := by
  by_cases hit : o.field = fieldName ∧ o.fileID ≠ "" ∧ o.fileID = f
  · obtain ⟨field, named, rfl⟩ := hit
    have fresh : o.fileID ∉ rest := by
      rw [List.filter_cons_of_pos (by simpa using named)] at distinct
      exact fun member => List.Nodup.not_mem distinct (List.mem_filter.mpr ⟨member, by simpa using named⟩)
    simp [reorderFrom, field, named, fresh, List.indexOf_cons_self]
  · have first : reorderFrom fieldName [f] n o = o := by
      unfold reorderFrom
      rw [if_neg (by simpa using hit)]
    rw [first]
    unfold reorderFrom
    by_cases later : o.field = fieldName ∧ o.fileID ≠ "" ∧ o.fileID ∈ rest
    · have other : o.fileID ≠ f := fun same => hit ⟨later.1, later.2.1, same⟩
      rw [if_pos later, if_pos ⟨later.1, later.2.1, List.mem_cons_of_mem _ later.2.2⟩,
        List.indexOf_cons_ne _ (Ne.symm other)]
      simp only [FileLink.mk.injEq, true_and]
      omega
    · rw [if_neg later, if_neg]
      rintro ⟨field, named, member⟩
      rcases List.mem_cons.mp member with same | member
      · exact hit ⟨field, named, same⟩
      · exact later ⟨field, named, member⟩

theorem foldl_planFile_objects : ∀ (files : List String) (n : Nat) (plan : Plan),
    (files.filter (· ≠ "")).Nodup → EntityLinks entityType entityID plan.objects →
    ((files.enumFrom n).foldl (planFile entityType entityID fieldName) plan).objects =
      plan.objects.map (reorderFrom fieldName files n)
  | [], n, plan, _, _ => by
    simp only [List.enumFrom_nil, List.foldl_nil]
    refine (List.map_congr_left fun o _ => ?_).trans (List.map_id _) |>.symm
    simp [reorderFrom]
  | f :: rest, n, plan, distinct, links => by
    have links' := @planFile_objects entityType entityID fieldName plan links (n, f) ▸ links.reorder [f] n
    rw [List.enumFrom_cons, List.foldl_cons,
      foldl_planFile_objects rest (n + 1) _ (by
        by_cases named : f = "" <;> simp_all [List.filter_cons]) links',
      planFile_objects links, List.map_map]
    exact List.map_congr_left fun o _ => reorderFrom_cons distinct n o

theorem filter_named_tail {f : String} {rest : List String}
    (distinct : ((f :: rest).filter (· ≠ "")).Nodup) : (rest.filter (· ≠ "")).Nodup := by
  by_cases named : f = ""
  · simpa [List.filter_cons, named] using distinct
  · rw [List.filter_cons_of_pos (by simpa using named)] at distinct
    exact distinct.of_cons

theorem foldl_planFile_toCreate : ∀ (files : List String) (n : Nat) (plan : Plan),
    (files.filter (· ≠ "")).Nodup → EntityLinks entityType entityID plan.objects → ∀ l : FileLink,
    (l ∈ ((files.enumFrom n).foldl (planFile entityType entityID fieldName) plan).toCreate ↔
      l ∈ plan.toCreate ∨ (l.relatedID = entityID ∧ l.relatedType = entityType ∧ l.field = fieldName ∧
        l.fileID ≠ "" ∧ (∀ o ∈ plan.objects, ¬(o.field = fieldName ∧ o.fileID = l.fileID)) ∧
        l.fileID ∈ files ∧ l.order = n + files.indexOf l.fileID + 1))
  | [], n, plan, _, _, l => by simp
  | f :: rest, n, plan, distinct, links, l => by
    have links' := @planFile_objects entityType entityID fieldName plan links (n, f) ▸ links.reorder [f] n
    rw [List.enumFrom_cons, List.foldl_cons,
      foldl_planFile_toCreate rest (n + 1) _ (filter_named_tail distinct) links' l,
      planFile_toCreate, planFile_objects links]
    simp only [List.forall_mem_map, reorderFrom_field, reorderFrom_fileID, List.mem_append]
    obtain ⟨fileID, relatedID, relatedType, field, order⟩ := l
    by_cases same : fileID = f
    · subst same
      by_cases named : fileID = ""
      · simp [named]
      · have fresh : fileID ∉ rest := fun member => List.Nodup.not_mem
          (by rwa [List.filter_cons_of_pos (by simpa using named)] at distinct)
          (List.mem_filter.mpr ⟨member, by simpa using named⟩)
        have first : (n : Int) + ((0 : Nat) : Int) + 1 = n + 1 := by omega
        simp only [fresh, named, List.mem_cons_self, List.indexOf_cons_self, FileLink.mk.injEq,
          List.mem_ite_nil_right, List.mem_singleton, ne_eq, not_false_eq_true, true_and, and_false,
          false_and, or_false, and_true, first]
        constructor
        · rintro (created | ⟨free, rfl, rfl, rfl, rfl⟩)
          exacts [.inl created, .inr ⟨rfl, rfl, rfl, free, rfl⟩]
        · rintro (created | ⟨rfl, rfl, rfl, free, rfl⟩)
          exacts [.inl created, .inr ⟨free, rfl, rfl, rfl, rfl⟩]
    · have shift : ((n + 1 : Nat) : Int) + (rest.indexOf fileID : Int) + 1 =
          n + ((rest.indexOf fileID + 1 : Nat) : Int) + 1 := by omega
      simp only [ne_eq, List.mem_cons, same, false_or, List.indexOf_cons_ne _ (Ne.symm same), shift,
        List.mem_ite_nil_right, List.mem_singleton, FileLink.mk.injEq, false_and, and_false, or_false,
        Nat.succ_eq_add_one, List.mem_nil_iff]

theorem foldl_planFile_tracks {existing : List FileLink} : ∀ (entries : List (Nat × String)) (plan : Plan),
    plan.Tracks existing → plan.SavesObjects →
    (entries.foldl (planFile entityType entityID fieldName) plan).Tracks existing ∧
      (entries.foldl (planFile entityType entityID fieldName) plan).SavesObjects
  | [], _, tracks, saves => ⟨tracks, saves⟩
  | entry :: rest, _, tracks, saves =>
    foldl_planFile_tracks rest _ (planFile_tracks tracks saves entry).1 (planFile_tracks tracks saves entry).2

theorem foldl_planFile_toDelete : ∀ (entries : List (Nat × String)) (plan : Plan),
    (entries.foldl (planFile entityType entityID fieldName) plan).toDelete = plan.toDelete
  | [], _ => rfl
  | entry :: rest, plan => (foldl_planFile_toDelete rest _).trans (planFile_toDelete plan entry)

/-! One field -/

section Field

variable {plan : Plan} (links : EntityLinks entityType entityID plan.objects) {files : List String}
  (distinct : (files.filter (· ≠ "")).Nodup)
include links distinct

theorem planField_objects :
    (planField entityType entityID plan fieldName files).objects =
      plan.objects.map (reorderFrom fieldName files 0) :=
  foldl_planFile_objects files 0 plan distinct links

theorem planField_toCreate (l : FileLink) :
    l ∈ (planField entityType entityID plan fieldName files).toCreate ↔
      l ∈ plan.toCreate ∨ (l.relatedID = entityID ∧ l.relatedType = entityType ∧ l.field = fieldName ∧
        l.fileID ≠ "" ∧ (∀ o ∈ plan.objects, ¬(o.field = fieldName ∧ o.fileID = l.fileID)) ∧
        l.fileID ∈ files ∧ l.order = files.indexOf l.fileID + 1) := by
  simpa using foldl_planFile_toCreate files 0 plan distinct links l

theorem planField_toDelete :
    (planField entityType entityID plan fieldName files).toDelete = plan.toDelete ++
      (plan.objects.map (reorderFrom fieldName files 0)).filter
        (fun o => o.field = fieldName ∧ o.fileID ∉ files) := by
  rw [← planField_objects links distinct]
  simp only [planField, foldl_planFile_toDelete]

end Field

theorem planField_tracks {existing : List FileLink} {plan : Plan} (tracks : plan.Tracks existing)
    (saves : plan.SavesObjects) (files : List String) :
    (planField entityType entityID plan fieldName files).Tracks existing ∧
      (planField entityType entityID plan fieldName files).SavesObjects :=
  foldl_planFile_tracks files.enum plan tracks saves

/-! Every field -/

-- An object after the loop over every field.
def reorderAll (entries : List FieldEntry) (o : FileLink) : FileLink :=
  match entries.dlookup o.field with
  | some files => reorderFrom o.field files 0 o
  | none => o

@[simp] theorem reorderAll_key (entries : List FieldEntry) (o : FileLink) :
    (reorderAll entries o).key = o.key := by
  unfold reorderAll
  split <;> simp

@[simp] theorem reorderAll_fileID (entries : List FieldEntry) (o : FileLink) :
    (reorderAll entries o).fileID = o.fileID := by
  unfold reorderAll
  split <;> simp

@[simp] theorem reorderAll_field (entries : List FieldEntry) (o : FileLink) :
    (reorderAll entries o).field = o.field := by
  unfold reorderAll
  split <;> simp

theorem reorderAll_of_lookup {entries : List FieldEntry} {o : FileLink} {files : List String}
    (found : entries.dlookup o.field = some files) : reorderAll entries o = reorderFrom o.field files 0 o := by
  unfold reorderAll
  rw [found]

theorem reorderAll_of_missing {entries : List FieldEntry} {o : FileLink}
    (missing : entries.dlookup o.field = none) : reorderAll entries o = o := by
  unfold reorderAll
  rw [missing]

theorem reorderAll_cons {fieldName : String} {files : List String} {rest : List FieldEntry}
    (fresh : fieldName ∉ rest.keys) (o : FileLink) :
    reorderAll rest (reorderFrom fieldName files 0 o) = reorderAll (⟨fieldName, files⟩ :: rest) o := by
  by_cases same : o.field = fieldName
  · have later : rest.dlookup (reorderFrom fieldName files 0 o).field = none :=
      List.dlookup_eq_none.mpr (by rwa [reorderFrom_field, same])
    rw [reorderAll_of_missing later, @reorderAll_of_lookup _ _ files
      (by rw [same, List.dlookup_cons_eq]), same]
  · have untouched : reorderFrom fieldName files 0 o = o := by simp [reorderFrom, same]
    rw [untouched]
    unfold reorderAll
    rw [List.dlookup_cons_ne rest ⟨fieldName, files⟩ same]

-- `DeleteMany`'s filter for a link to delete: the same file, entity id and field.
def Deletes (d l : FileLink) : Prop :=
  l.fileID = d.fileID ∧ l.relatedID = d.relatedID ∧ l.field = d.field

section Fields

variable {entityType entityID : String}

@[simp] theorem planFields_nil (plan : Plan) : planFields entityType entityID plan [] = plan := rfl

theorem planFields_cons (plan : Plan) (e : FieldEntry) (rest : List FieldEntry) :
    planFields entityType entityID plan (e :: rest) =
      planFields entityType entityID (planField entityType entityID plan e.1 e.2) rest := rfl

theorem planFields_objects : ∀ (entries : List FieldEntry) (plan : Plan), entries.NodupKeys →
    (∀ e ∈ entries, (e.2.filter (· ≠ "")).Nodup) → EntityLinks entityType entityID plan.objects →
    (planFields entityType entityID plan entries).objects = plan.objects.map (reorderAll entries)
  | [], plan, _, _, _ => by
    refine (List.map_congr_left fun o _ => ?_).trans (List.map_id _) |>.symm
    simp [reorderAll]
  | ⟨fieldName, files⟩ :: rest, plan, nodup, distinct, links => by
    have distinct₀ := distinct _ (List.mem_cons_self _ _)
    rw [List.nodupKeys_cons] at nodup
    rw [planFields_cons]
    rw [planFields_objects rest _ nodup.2 (fun e member => distinct e (List.mem_cons_of_mem _ member))
      (planField_objects links distinct₀ ▸ links.reorder files 0),
      planField_objects links distinct₀, List.map_map]
    exact List.map_congr_left fun o _ => reorderAll_cons nodup.1 o

theorem planFields_toCreate : ∀ (entries : List FieldEntry) (plan : Plan), entries.NodupKeys →
    (∀ e ∈ entries, (e.2.filter (· ≠ "")).Nodup) → EntityLinks entityType entityID plan.objects →
    ∀ l : FileLink, (l ∈ (planFields entityType entityID plan entries).toCreate ↔
      l ∈ plan.toCreate ∨ (l.relatedID = entityID ∧ l.relatedType = entityType ∧ l.fileID ≠ "" ∧
        (∀ o ∈ plan.objects, ¬(o.field = l.field ∧ o.fileID = l.fileID)) ∧
        ∃ files, entries.dlookup l.field = some files ∧ l.fileID ∈ files ∧
          l.order = files.indexOf l.fileID + 1))
  | [], plan, _, _, _, l => by simp
  | ⟨fieldName, files⟩ :: rest, plan, nodup, distinct, links, l => by
    have distinct₀ := distinct _ (List.mem_cons_self _ _)
    rw [List.nodupKeys_cons] at nodup
    rw [planFields_cons]
    rw [planFields_toCreate rest _ nodup.2 (fun e member => distinct e (List.mem_cons_of_mem _ member))
      (planField_objects links distinct₀ ▸ links.reorder files 0) l,
      planField_toCreate links distinct₀, planField_objects links distinct₀]
    simp only [List.forall_mem_map, reorderFrom_field, reorderFrom_fileID]
    by_cases same : l.field = fieldName
    · have later : rest.dlookup l.field = none := List.dlookup_eq_none.mpr (same ▸ nodup.1)
      have here : (⟨fieldName, files⟩ :: rest : List FieldEntry).dlookup l.field = some files := by
        rw [same, List.dlookup_cons_eq]
      rw [later, here]
      simp only [same, true_and, Option.some.injEq, exists_eq_left', reduceCtorEq, false_and,
        exists_false, and_false, or_false]
    · simp only [same, List.dlookup_cons_ne rest ⟨fieldName, files⟩ same, false_and, and_false,
        or_false]

theorem planFields_toDelete : ∀ (entries : List FieldEntry) (plan : Plan), entries.NodupKeys →
    (∀ e ∈ entries, (e.2.filter (· ≠ "")).Nodup) → EntityLinks entityType entityID plan.objects →
    ∀ l : FileLink, ((∃ d ∈ (planFields entityType entityID plan entries).toDelete, Deletes d l) ↔
      (∃ d ∈ plan.toDelete, Deletes d l) ∨
        ∃ o ∈ plan.objects, Deletes o l ∧ ∃ files, entries.dlookup o.field = some files ∧ o.fileID ∉ files)
  | [], plan, _, _, _, l => by simp
  | ⟨fieldName, files⟩ :: rest, plan, nodup, distinct, links, l => by
    have distinct₀ := distinct _ (List.mem_cons_self _ _)
    rw [List.nodupKeys_cons] at nodup
    rw [planFields_cons]
    rw [planFields_toDelete rest _ nodup.2 (fun e member => distinct e (List.mem_cons_of_mem _ member))
      (planField_objects links distinct₀ ▸ links.reorder files 0) l,
      planField_toDelete links distinct₀, planField_objects links distinct₀]
    have kept : ∀ o, Deletes (reorderFrom fieldName files 0 o) l ↔ Deletes o l := fun o => by
      simp [Deletes]
    constructor
    · rintro (⟨d, member, deletes⟩ | ⟨o', o'_mem, deletes, found⟩)
      · rcases List.mem_append.mp member with old | new
        · exact .inl ⟨d, old, deletes⟩
        · obtain ⟨⟨o, o_mem, rfl⟩, chosen⟩ := (List.mem_filter.mp new).imp_left List.mem_map.mp
          simp only [reorderFrom_field, reorderFrom_fileID, decide_eq_true_eq] at chosen
          exact .inr ⟨o, o_mem, (kept o).mp deletes, files,
            by rw [chosen.1, List.dlookup_cons_eq], chosen.2⟩
      · obtain ⟨o, o_mem, rfl⟩ := List.mem_map.mp o'_mem
        obtain ⟨files', lookup, missing⟩ := found
        rw [reorderFrom_field] at lookup
        rw [reorderFrom_fileID] at missing
        have other : o.field ≠ fieldName := fun same => by
          rw [List.dlookup_eq_none.mpr (same ▸ nodup.1)] at lookup
          cases lookup
        exact .inr ⟨o, o_mem, (kept o).mp deletes, files',
          by rwa [List.dlookup_cons_ne rest ⟨fieldName, files⟩ other], missing⟩
    · rintro (⟨d, member, deletes⟩ | ⟨o, o_mem, deletes, files', lookup, missing⟩)
      · exact .inl ⟨d, List.mem_append_left _ member, deletes⟩
      · by_cases same : o.field = fieldName
        · rw [same, List.dlookup_cons_eq, Option.some.injEq] at lookup
          subst lookup
          refine .inl ⟨_, List.mem_append_right _ (List.mem_filter.mpr
            ⟨List.mem_map_of_mem _ o_mem, ?_⟩), (kept o).mpr deletes⟩
          simpa using ⟨same, missing⟩
        · rw [List.dlookup_cons_ne rest ⟨fieldName, files⟩ same] at lookup
          exact .inr ⟨_, List.mem_map_of_mem _ o_mem, (kept o).mpr deletes, files',
            by rw [reorderFrom_field]; exact lookup, by rwa [reorderFrom_fileID]⟩

theorem planFields_tracks {existing : List FileLink} : ∀ (entries : List FieldEntry) (plan : Plan),
    plan.Tracks existing → plan.SavesObjects →
    (planFields entityType entityID plan entries).Tracks existing ∧
      (planFields entityType entityID plan entries).SavesObjects
  | [], _, tracks, saves => ⟨tracks, saves⟩
  | e :: rest, _, tracks, saves =>
    planFields_tracks rest _ (planField_tracks tracks saves e.2).1 (planField_tracks tracks saves e.2).2

end Fields

end Loop

/-! ### The writes of a plan -/

-- The objects saved: each key to save, as its object stands after the loop.
def Plan.saved (plan : Plan) : List FileLink :=
  plan.toUpdate.filterMap fun k => plan.objects.find? (·.key = k)

theorem Plan.mem_saved {plan : Plan} {s : FileLink} (member : s ∈ plan.saved) : s ∈ plan.objects := by
  obtain ⟨k, -, found⟩ := List.mem_filterMap.mp member
  exact List.mem_of_find?_eq_some found

theorem runWrites_creates {fails : Nat → Bool} {call : Nat} {t t' : LinkTable} {links : List FileLink}
    (ran : t.runWrites fails call (if links.isEmpty then [] else [.createMany links]) = (.ok (), t'))
    (l : FileLink) : l ∈ t'.rows ↔ l ∈ t.rows ∨ l ∈ links := by
  split at ran
  · rename_i empty
    cases ran
    simp [List.isEmpty_iff.mp empty]
  · simp only [LinkTable.runWrites] at ran
    split at ran
    · cases ran
    · split at ran
      · cases ran
      · rename_i t₁ created
        cases ran
        exact LinkTable.mem_createMany created l

-- On success, the rows are the saved objects, and the rows and new links of keys no save
-- names, less every row a delete names.
theorem runWrites_writes {fails : Nat → Bool} {call : Nat} {t t' : LinkTable} {plan : Plan}
    (ran : t.runWrites fails call plan.writes = (.ok (), t'))
    (keys : (plan.objects.map FileLink.key).Nodup)
    (stored : ∀ o ∈ plan.objects, ∃ r ∈ t.rows, r.key = o.key) (l : FileLink) :
    l ∈ t'.rows ↔ (∀ d ∈ plan.toDelete, ¬Deletes d l) ∧
      (l ∈ plan.saved ∨ ((l ∈ t.rows ∨ l ∈ plan.toCreate) ∧ ∀ s ∈ plan.saved, l.key ≠ s.key)) := by
  obtain ⟨t₂, first, deletes⟩ := LinkTable.runWrites_append_ok ran
  obtain ⟨t₁, creates, saves⟩ := LinkTable.runWrites_append_ok first
  have mem₁ := runWrites_creates creates
  have present : ∀ s ∈ plan.saved, ∃ r ∈ t₁.rows, r.key = s.key := fun s member => by
    obtain ⟨r, r_mem, same⟩ := stored s (Plan.mem_saved member)
    exact ⟨r, (mem₁ r).mpr (.inl r_mem), same⟩
  have consistent : ∀ a ∈ plan.saved, ∀ b ∈ plan.saved, a.key = b.key → a = b :=
    fun a ha b hb same => List.inj_on_of_nodup_map keys (Plan.mem_saved ha) (Plan.mem_saved hb) same
  rw [LinkTable.runWrites_deletes deletes l, LinkTable.runWrites_saves saves present consistent l, mem₁]
  exact and_comm

-- The links a field's file list stands for: the file at index `i`, when its id is not
-- empty, at order `i + 1`.
def expectedLinks (entityType entityID fieldName : String) (files : List String) : List FileLink :=
  (files.enum.filter fun e => e.2 ≠ "").map fun e => ⟨e.2, entityID, entityType, fieldName, e.1 + 1⟩

theorem index_of_named : ∀ {files : List String}, (files.filter (· ≠ "")).Nodup →
    ∀ {i : Nat} {x : String}, x ≠ "" → files[i]? = some x → i = files.indexOf x
  | [], _, _, _, _, at_i => by simp at at_i
  | f :: rest, distinct, 0, x, _, at_i => by
    simp only [List.getElem?_cons_zero, Option.some.injEq] at at_i
    rw [at_i, List.indexOf_cons_self]
  | f :: rest, distinct, i + 1, x, named, at_i => by
    simp only [List.getElem?_cons_succ] at at_i
    have other : x ≠ f := by
      rintro rfl
      rw [List.filter_cons_of_pos (by simpa using named)] at distinct
      exact List.Nodup.not_mem distinct
        (List.mem_filter.mpr ⟨List.getElem?_mem at_i, by simpa using named⟩)
    rw [List.indexOf_cons_ne _ (Ne.symm other), index_of_named (filter_named_tail distinct) named at_i]

theorem mem_expectedLinks {entityType entityID fieldName : String} {files : List String}
    (distinct : (files.filter (· ≠ "")).Nodup) (l : FileLink) :
    l ∈ expectedLinks entityType entityID fieldName files ↔
      l.relatedID = entityID ∧ l.relatedType = entityType ∧ l.field = fieldName ∧ l.fileID ≠ "" ∧
        l.fileID ∈ files ∧ l.order = files.indexOf l.fileID + 1 := by
  simp only [expectedLinks, List.mem_map, List.mem_filter, List.mem_enum_iff_getElem?,
    decide_eq_true_eq, Prod.exists]
  constructor
  · rintro ⟨i, x, ⟨at_i, named⟩, rfl⟩
    rw [← index_of_named distinct named at_i]
    exact ⟨rfl, rfl, rfl, named, List.getElem?_mem at_i, rfl⟩
  · rintro ⟨id, type, field, named, member, order⟩
    refine ⟨files.indexOf l.fileID, l.fileID, ⟨List.getElem?_indexOf member, named⟩, ?_⟩
    rw [← order, ← id, ← type, ← field]

theorem Plan.mem_saved_iff {plan : Plan} (keys : (plan.objects.map FileLink.key).Nodup) (l : FileLink) :
    l ∈ plan.saved ↔ l ∈ plan.objects ∧ l.key ∈ plan.toUpdate := by
  constructor
  · intro member
    obtain ⟨k, k_mem, found⟩ := List.mem_filterMap.mp member
    have same : l.key = k := by simpa using List.find?_some found
    exact ⟨List.mem_of_find?_eq_some found, same ▸ k_mem⟩
  · rintro ⟨member, k_mem⟩
    obtain ⟨o, found⟩ := Option.isSome_iff_exists.mp
      (List.find?_isSome.mpr ⟨l, member, by simp⟩ : (plan.objects.find? (·.key = l.key)).isSome)
    have same : o = l := List.inj_on_of_nodup_map keys (List.mem_of_find?_eq_some found) member
      (by simpa using List.find?_some found)
    exact List.mem_filterMap.mpr ⟨l.key, k_mem, same ▸ found⟩

-- A row the loop did not save is its old self: the saved objects, or the rows and new
-- links of the other keys, are the objects and the rows and new links of keys no
-- object has.
theorem Plan.saved_or_kept {plan : Plan} {existing rows : List FileLink}
    (tracks : plan.Tracks existing) (saves : plan.SavesObjects) (keys : (plan.objects.map FileLink.key).Nodup)
    (objects : ∀ o ∈ plan.objects, ∃ o₀ ∈ existing, o₀.key = o.key) (stored : ∀ o₀ ∈ existing, o₀ ∈ rows)
    (unique : ∀ a ∈ rows, ∀ b ∈ rows, a.key = b.key → a = b)
    (fresh : ∀ c ∈ plan.toCreate, c.key ∉ plan.objects.map FileLink.key) (l : FileLink) :
    (l ∈ plan.saved ∨ ((l ∈ rows ∨ l ∈ plan.toCreate) ∧ ∀ s ∈ plan.saved, l.key ≠ s.key)) ↔
      l ∈ plan.objects ∨ (l.key ∉ plan.objects.map FileLink.key ∧ (l ∈ rows ∨ l ∈ plan.toCreate)) := by
  have unsaved : (∀ s ∈ plan.saved, l.key ≠ s.key) ↔ l.key ∉ plan.toUpdate := by
    constructor
    · intro others k_mem
      obtain ⟨o, o_mem, same⟩ := saves _ k_mem
      exact others o ((plan.mem_saved_iff keys o).mpr ⟨o_mem, same ▸ k_mem⟩) same.symm
    · intro missing s member same
      exact missing (same ▸ ((plan.mem_saved_iff keys s).mp member).2)
  -- an object whose key is not to be saved is the row it was read from
  have kept : ∀ o ∈ plan.objects, o.key ∉ plan.toUpdate → o ∈ rows := by
    intro o member missing
    obtain ⟨o₀, o₀_mem, same⟩ := objects o member
    have order : o.order = o₀.order := by
      by_contra moved
      exact missing (tracks o member o₀ o₀_mem same moved)
    exact FileLink.eq_of_key_order same order.symm ▸ stored o₀ o₀_mem
  rw [plan.mem_saved_iff keys, unsaved]
  constructor
  · rintro (⟨member, -⟩ | ⟨old | new, missing⟩)
    · exact .inl member
    · by_cases held : l.key ∈ plan.objects.map FileLink.key
      · obtain ⟨o, o_mem, same⟩ := List.mem_map.mp held
        exact .inl (unique o (kept o o_mem (same ▸ missing)) l old same ▸ o_mem)
      · exact .inr ⟨held, .inl old⟩
    · exact .inr ⟨fresh l new, .inr new⟩
  · rintro (member | ⟨held, found⟩)
    · by_cases saved : l.key ∈ plan.toUpdate
      · exact .inl ⟨member, saved⟩
      · exact .inr ⟨.inl (kept l member saved), saved⟩
    · refine .inr ⟨found, fun k_mem => held ?_⟩
      obtain ⟨o, o_mem, same⟩ := saves _ k_mem
      exact same ▸ List.mem_map_of_mem _ o_mem

/-! ### AddFiles -/

section AddFiles

variable {fails : Nat → Bool} {table : LinkTable} {entityType entityID : String}
  {fieldFiles : FieldFiles}

-- The plan `AddFiles` makes from the links it reads.
def addFilesPlan (table : LinkTable) (entityType entityID : String) (fieldFiles : FieldFiles) : Plan :=
  planFields entityType entityID ⟨existingLinks table entityType entityID fieldFiles.keys, [], [], []⟩
    fieldFiles.entries

theorem mem_existingLinks {names : List String} {o : FileLink} :
    o ∈ existingLinks table entityType entityID names ↔
      o ∈ table.rows ∧ o.relatedID = entityID ∧ o.relatedType = entityType ∧ o.field ∈ names := by
  simp [existingLinks]

theorem existingLinks_entityLinks (names : List String) :
    EntityLinks entityType entityID (existingLinks table entityType entityID names) :=
  ⟨table.keys_nodup.sublist ((List.filter_sublist _).map _), fun _ member =>
    let found := mem_existingLinks.mp member
    ⟨found.2.1, found.2.2.1⟩⟩

theorem addFiles_ok (ok : (addFiles fails table entityType entityID fieldFiles).1 = .ok ()) :
    (fieldFiles.entries = [] ∧ (addFiles fails table entityType entityID fieldFiles).2 = table) ∨
      ∃ call, table.runWrites fails call (addFilesPlan table entityType entityID fieldFiles).writes =
        (.ok (), (addFiles fails table entityType entityID fieldFiles).2) := by
  unfold addFiles at ok ⊢
  by_cases empty : fieldFiles.entries.isEmpty
  · exact .inl ⟨List.isEmpty_iff.mp empty, by simp [empty]⟩
  · by_cases fault₀ : fails 0
    · simp [empty, fault₀] at ok
    · generalize (if (fieldFiles.entries.all fun e => e.snd.all fun x => decide (x = "")) = true
        then 1 else 2) = lookups at ok ⊢
      by_cases fault₁ : lookups = 2 ∧ fails 1
      · simp [empty, fault₀, fault₁] at ok
      · simp only [empty, fault₀, fault₁, if_false, Bool.false_eq_true] at ok ⊢
        exact .inr ⟨lookups, Prod.ext ok rfl⟩

section Distinct

variable (distinct : ∀ fieldName files, fieldFiles.lookup fieldName = some files →
  (files.filter (· ≠ "")).Nodup)
include distinct

theorem entries_distinct : ∀ e ∈ fieldFiles.entries, (e.2.filter (· ≠ "")).Nodup :=
  fun e member => distinct e.1 e.2 (AList.mem_lookup_iff.mpr member)

theorem addFilesPlan_objects :
    (addFilesPlan table entityType entityID fieldFiles).objects =
      (existingLinks table entityType entityID fieldFiles.keys).map (reorderAll fieldFiles.entries) :=
  planFields_objects _ _ fieldFiles.nodupKeys (entries_distinct distinct) (existingLinks_entityLinks _)

theorem addFilesPlan_toCreate (l : FileLink) :
    l ∈ (addFilesPlan table entityType entityID fieldFiles).toCreate ↔
      l.relatedID = entityID ∧ l.relatedType = entityType ∧ l.fileID ≠ "" ∧
        (∀ o ∈ existingLinks table entityType entityID fieldFiles.keys,
          ¬(o.field = l.field ∧ o.fileID = l.fileID)) ∧
        ∃ files, fieldFiles.lookup l.field = some files ∧ l.fileID ∈ files ∧
          l.order = files.indexOf l.fileID + 1 := by
  simpa using planFields_toCreate _ ⟨existingLinks table entityType entityID fieldFiles.keys, [], [], []⟩
    fieldFiles.nodupKeys (entries_distinct distinct) (existingLinks_entityLinks _) l

theorem addFilesPlan_toDelete (l : FileLink) :
    (∃ d ∈ (addFilesPlan table entityType entityID fieldFiles).toDelete, Deletes d l) ↔
      ∃ o ∈ existingLinks table entityType entityID fieldFiles.keys, Deletes o l ∧
        ∃ files, fieldFiles.lookup o.field = some files ∧ o.fileID ∉ files := by
  simpa using planFields_toDelete _ ⟨existingLinks table entityType entityID fieldFiles.keys, [], [], []⟩
    fieldFiles.nodupKeys (entries_distinct distinct) (existingLinks_entityLinks _) l

end Distinct

theorem addFilesPlan_tracks :
    (addFilesPlan table entityType entityID fieldFiles).Tracks
        (existingLinks table entityType entityID fieldFiles.keys) ∧
      (addFilesPlan table entityType entityID fieldFiles).SavesObjects := by
  refine planFields_tracks _ _ (fun o member o₀ o₀_mem same moved => absurd ?_ moved) (fun _ => nofun)
  rw [List.inj_on_of_nodup_map (@existingLinks_entityLinks table entityType entityID
    fieldFiles.keys).1 o₀_mem member same]

-- After a successful call a row of the table is an object as the loop left it, or a
-- row or new link of a key no object has; and no delete names it.
theorem addFiles_mem
    (distinct : ∀ fieldName files, fieldFiles.lookup fieldName = some files →
      (files.filter (· ≠ "")).Nodup)
    (ok : (addFiles fails table entityType entityID fieldFiles).1 = .ok ()) (l : FileLink) :
    l ∈ (addFiles fails table entityType entityID fieldFiles).2.rows ↔
      ¬(∃ o ∈ existingLinks table entityType entityID fieldFiles.keys, Deletes o l ∧
          ∃ files, fieldFiles.lookup o.field = some files ∧ o.fileID ∉ files) ∧
        (l ∈ (existingLinks table entityType entityID fieldFiles.keys).map (reorderAll fieldFiles.entries) ∨
          (l.key ∉ (existingLinks table entityType entityID fieldFiles.keys).map FileLink.key ∧
            (l ∈ table.rows ∨ l ∈ (addFilesPlan table entityType entityID fieldFiles).toCreate))) := by
  have links := @existingLinks_entityLinks table entityType entityID
    fieldFiles.keys
  have objectKeys : ((addFilesPlan table entityType entityID fieldFiles).objects.map FileLink.key) =
      (existingLinks table entityType entityID fieldFiles.keys).map FileLink.key := by
    rw [addFilesPlan_objects distinct, List.map_map]
    exact List.map_congr_left fun o _ => reorderAll_key _ o
  rcases addFiles_ok ok with ⟨empty, same⟩ | ⟨call, ran⟩
  · have none : existingLinks table entityType entityID fieldFiles.keys = [] := by
      simp [existingLinks, AList.keys, empty]
    have created : (addFilesPlan table entityType entityID fieldFiles).toCreate = [] := by
      simp [addFilesPlan, empty]
    rw [same, none, created]
    simp
  · obtain ⟨tracks, saves⟩ := @addFilesPlan_tracks table entityType entityID
      fieldFiles
    have keys : ((addFilesPlan table entityType entityID fieldFiles).objects.map FileLink.key).Nodup :=
      objectKeys ▸ links.1
    have objects : ∀ o ∈ (addFilesPlan table entityType entityID fieldFiles).objects,
        ∃ o₀ ∈ existingLinks table entityType entityID fieldFiles.keys, o₀.key = o.key := by
      rw [addFilesPlan_objects distinct]
      simp only [List.forall_mem_map, reorderAll_key]
      exact fun o member => ⟨o, member, rfl⟩
    have stored : ∀ o₀ ∈ existingLinks table entityType entityID fieldFiles.keys, o₀ ∈ table.rows :=
      fun o₀ member => (mem_existingLinks.mp member).1
    have fresh : ∀ c ∈ (addFilesPlan table entityType entityID fieldFiles).toCreate,
        c.key ∉ (addFilesPlan table entityType entityID fieldFiles).objects.map FileLink.key := by
      intro c member held
      obtain ⟨id, type, -, free, -⟩ := (addFilesPlan_toCreate distinct c).mp member
      rw [objectKeys] at held
      obtain ⟨o, o_mem, same⟩ := List.mem_map.mp held
      obtain ⟨-, oID, oType, -⟩ := mem_existingLinks.mp o_mem
      simp only [FileLink.key, Prod.mk.injEq] at same
      exact free o o_mem ⟨same.2.2.2, same.1⟩
    rw [runWrites_writes ran keys (fun o member => (objects o member).imp fun o₀ found =>
        ⟨stored o₀ found.1, found.2⟩) l,
      Plan.saved_or_kept tracks saves keys objects stored
        (fun a ha b hb same => List.inj_on_of_nodup_map table.keys_nodup ha hb same) fresh l,
      objectKeys, addFilesPlan_objects distinct, ← addFilesPlan_toDelete distinct]
    simp only [not_exists, not_and]

theorem mem_keys_of_lookup {fieldName : String} {files : List String}
    (found : fieldFiles.lookup fieldName = some files) : fieldName ∈ fieldFiles.keys :=
  AList.mem_keys.mp (AList.lookup_isSome.mp (by simp [found]))

theorem addFiles_eq :
    (addFiles fails table entityType entityID fieldFiles).2 = table ∨
      ∃ call, addFiles fails table entityType entityID fieldFiles =
        table.runWrites fails call (addFilesPlan table entityType entityID fieldFiles).writes := by
  unfold addFiles
  by_cases empty : fieldFiles.entries.isEmpty
  · simp [empty]
  · by_cases fault₀ : fails 0
    · simp [empty, fault₀]
    · generalize (if (fieldFiles.entries.all fun e => e.snd.all fun x => decide (x = "")) = true
        then 1 else 2) = lookups
      by_cases fault₁ : lookups = 2 ∧ fails 1
      · simp [empty, fault₀, fault₁]
      · simp only [empty, fault₀, fault₁, if_false, Bool.false_eq_true]
        exact .inr ⟨lookups, rfl⟩

theorem addFiles_take_ok : ∃ k, table.runWrites (fun _ => false) 0
    ((addFilesPlan table entityType entityID fieldFiles).writes.take k) =
      (.ok (), (addFiles fails table entityType entityID fieldFiles).2) := by
  rcases @addFiles_eq fails table entityType entityID fieldFiles with same | ⟨call, run⟩
  · exact ⟨0, by rw [same]; rfl⟩
  · rw [run]
    exact LinkTable.runWrites_take_ok 0

theorem mem_existingLinks_of_key {o : FileLink} (row : o ∈ table.rows) (id : o.relatedID = entityID)
    (type : o.relatedType = entityType) (field : o.field ∈ fieldFiles.keys) :
    o ∈ existingLinks table entityType entityID fieldFiles.keys :=
  mem_existingLinks.mpr ⟨row, id, type, field⟩

-- A link of the entity's id in a named field is named by a delete exactly when the field
-- drops its file and the entity had a link to that file.
theorem deleted_iff {fieldName : String} {files : List String}
    (found : fieldFiles.lookup fieldName = some files) {l : FileLink} (id : l.relatedID = entityID)
    (field : l.field = fieldName) :
    (∃ o ∈ existingLinks table entityType entityID fieldFiles.keys, Deletes o l ∧
        ∃ fs, fieldFiles.lookup o.field = some fs ∧ o.fileID ∉ fs) ↔
      l.fileID ∉ files ∧ (l.fileID, entityID, entityType, fieldName) ∈ table.rows.map FileLink.key := by
  have lookup : fieldFiles.lookup l.field = some files := field ▸ found
  constructor
  · rintro ⟨o, o_mem, ⟨oFile, oID, oField⟩, fs, oFound, missing⟩
    obtain ⟨o_row, -, oType, -⟩ := mem_existingLinks.mp o_mem
    rw [← oField, lookup, Option.some.injEq] at oFound
    refine ⟨oFound ▸ oFile ▸ missing, List.mem_map.mpr ⟨o, o_row, ?_⟩⟩
    simp [FileLink.key, oFile, ← oID, id, ← oField, field, oType]
  · rintro ⟨missing, row⟩
    obtain ⟨o, o_row, same⟩ := List.mem_map.mp row
    simp only [FileLink.key, Prod.mk.injEq] at same
    refine ⟨o, mem_existingLinks_of_key o_row same.2.1 same.2.2.1 (same.2.2.2 ▸ mem_keys_of_lookup found),
      ⟨same.1.symm, id.trans same.2.1.symm, field.trans same.2.2.2.symm⟩, files,
      same.2.2.2 ▸ found, same.1 ▸ missing⟩

section DistinctFiles

variable (distinct : ∀ fieldName files, fieldFiles.lookup fieldName = some files →
  (files.filter (· ≠ "")).Nodup)
include distinct

theorem addFilesPlan_writes_entity :
    (∀ c ∈ (addFilesPlan table entityType entityID fieldFiles).toCreate,
        c.relatedID = entityID ∧ c.field ∈ fieldFiles.keys) ∧
      (∀ s ∈ (addFilesPlan table entityType entityID fieldFiles).saved,
        s.relatedID = entityID ∧ s.field ∈ fieldFiles.keys) ∧
      (∀ d ∈ (addFilesPlan table entityType entityID fieldFiles).toDelete,
        d.relatedID = entityID ∧ d.field ∈ fieldFiles.keys) := by
  refine ⟨fun c member => ?_, fun s member => ?_, fun d member => ?_⟩
  · obtain ⟨id, -, -, -, files, found, -⟩ := (addFilesPlan_toCreate distinct c).mp member
    exact ⟨id, mem_keys_of_lookup found⟩
  · have object := Plan.mem_saved member
    rw [addFilesPlan_objects distinct] at object
    obtain ⟨o, o_mem, rfl⟩ := List.mem_map.mp object
    obtain ⟨-, id, -, field⟩ := mem_existingLinks.mp o_mem
    have same := reorderAll_key fieldFiles.entries o
    simp only [FileLink.key, Prod.mk.injEq] at same
    exact ⟨same.2.1.trans id, (reorderAll_field _ o).symm ▸ field⟩
  · obtain ⟨o, o_mem, ⟨-, id, field⟩, -⟩ := (addFilesPlan_toDelete distinct d).mp
      ⟨d, member, rfl, rfl, rfl⟩
    obtain ⟨-, oID, -, oField⟩ := mem_existingLinks.mp o_mem
    exact ⟨id.trans oID, field ▸ oField⟩

-- Whatever the outcome, a link of another entity id or of a field the call does not name
-- is as it was.
theorem addFiles_frame {l : FileLink} (outside : ¬(l.relatedID = entityID ∧ l.field ∈ fieldFiles.keys)) :
    l ∈ (addFiles fails table entityType entityID fieldFiles).2.rows ↔ l ∈ table.rows := by
  obtain ⟨creates, saves, deletes⟩ := @addFilesPlan_writes_entity table
    entityType entityID fieldFiles distinct
  rcases @addFiles_eq fails table entityType entityID
    fieldFiles with same | ⟨call, run⟩
  · rw [same]
  · rw [run]
    refine LinkTable.runWrites_frame fun w member t t' applied => ?_
    simp only [Plan.writes, List.mem_append, List.mem_map] at member
    rcases member with (created | ⟨s, s_mem, rfl⟩) | ⟨d, d_mem, rfl⟩
    · split at created
      · cases created
      · rw [List.mem_singleton.mp created] at applied
        rw [LinkTable.mem_createMany applied]
        exact or_iff_left fun new => outside ⟨(creates l new).1, (creates l new).2⟩
    · refine LinkTable.mem_save_of_ne applied fun same => outside ?_
      have := saves s s_mem
      simp only [FileLink.key, Prod.mk.injEq] at same
      exact ⟨same.2.1.trans this.1, same.2.2.2 ▸ this.2⟩
    · simp only [LinkTable.apply, Except.ok.injEq] at applied
      subst applied
      rw [LinkTable.mem_deleteMany]
      exact and_iff_left fun named => outside ⟨named.2.1.trans (deletes d d_mem).1,
        named.2.2 ▸ (deletes d d_mem).2⟩

variable (ok : (addFiles fails table entityType entityID fieldFiles).1 = .ok ())
include ok

-- On success, a link with the key of a link read is that link as the loop left it,
-- unless a delete names it.
theorem addFiles_mem_of_key {o₀ l : FileLink}
    (o₀_mem : o₀ ∈ existingLinks table entityType entityID fieldFiles.keys) (same : o₀.key = l.key) :
    l ∈ (addFiles fails table entityType entityID fieldFiles).2.rows ↔
      ¬(∃ o ∈ existingLinks table entityType entityID fieldFiles.keys, Deletes o l ∧
          ∃ files, fieldFiles.lookup o.field = some files ∧ o.fileID ∉ files) ∧
        l = reorderAll fieldFiles.entries o₀ := by
  have moved : l ∈ (existingLinks table entityType entityID fieldFiles.keys).map
      (reorderAll fieldFiles.entries) ↔ l = reorderAll fieldFiles.entries o₀ := by
    constructor
    · intro member
      obtain ⟨o, o_mem, reorder⟩ := List.mem_map.mp member
      rw [← reorder, List.inj_on_of_nodup_map (existingLinks_entityLinks _).1 o_mem o₀_mem
        ((reorderAll_key _ o).symm.trans (by rw [reorder, same]))]
    · rintro rfl
      exact List.mem_map_of_mem _ o₀_mem
  rw [addFiles_mem distinct ok, moved]
  simp only [show l.key ∈ (existingLinks table entityType entityID fieldFiles.keys).map FileLink.key
    from same ▸ List.mem_map_of_mem _ o₀_mem, not_true_eq_false, false_and, or_false]

-- On success, a link of a key no link read has is a row or a new link, unless a delete
-- names it.
theorem addFiles_mem_of_fresh {l : FileLink}
    (fresh : ∀ o ∈ existingLinks table entityType entityID fieldFiles.keys, o.key ≠ l.key) :
    l ∈ (addFiles fails table entityType entityID fieldFiles).2.rows ↔
      ¬(∃ o ∈ existingLinks table entityType entityID fieldFiles.keys, Deletes o l ∧
          ∃ files, fieldFiles.lookup o.field = some files ∧ o.fileID ∉ files) ∧
        (l ∈ table.rows ∨ l ∈ (addFilesPlan table entityType entityID fieldFiles).toCreate) := by
  have notMoved : l ∉ (existingLinks table entityType entityID fieldFiles.keys).map
      (reorderAll fieldFiles.entries) := fun member => by
    obtain ⟨o, o_mem, rfl⟩ := List.mem_map.mp member
    exact fresh o o_mem (reorderAll_key _ o).symm
  have unkeyed : l.key ∉ (existingLinks table entityType entityID fieldFiles.keys).map FileLink.key :=
    fun member => by
      obtain ⟨o, o_mem, same⟩ := List.mem_map.mp member
      exact fresh o o_mem same
  rw [addFiles_mem distinct ok]
  simp only [notMoved, unkeyed, not_false_eq_true, true_and, false_or]

variable {fieldName : String} {files : List String} (found : fieldFiles.lookup fieldName = some files)
  {l : FileLink} (id : l.relatedID = entityID) (field : l.field = fieldName)
include found id field

-- On success, the entity's links of a field are the field's files in order, with an
-- empty-id link kept while the field lists an empty id.
theorem addFiles_entity_links (type : l.relatedType = entityType) :
    l ∈ (addFiles fails table entityType entityID fieldFiles).2.rows ↔
      l ∈ expectedLinks entityType entityID fieldName files ∨ (l ∈ table.rows ∧ l.fileID = "" ∧ "" ∈ files) := by
  have lookup : fieldFiles.lookup l.field = some files := field ▸ found
  have key : l.key = (l.fileID, entityID, entityType, fieldName) := by rw [← id, ← type, ← field]; rfl
  rw [mem_expectedLinks (distinct _ _ found)]
  by_cases held : ∃ o₀ ∈ existingLinks table entityType entityID fieldFiles.keys, o₀.key = l.key
  · obtain ⟨o₀, o₀_mem, same⟩ := held
    obtain ⟨o₀_row, -, -, -⟩ := mem_existingLinks.mp o₀_mem
    have parts := same
    simp only [FileLink.key, Prod.mk.injEq] at parts
    have kept : l ∈ table.rows ↔ l = o₀ :=
      ⟨fun row => List.inj_on_of_nodup_map table.keys_nodup row o₀_row same.symm, fun h => h ▸ o₀_row⟩
    have reordered : reorderAll fieldFiles.entries o₀ = reorderFrom o₀.field files 0 o₀ :=
      reorderAll_of_lookup (parts.2.2.2 ▸ lookup)
    have row : (l.fileID, entityID, entityType, fieldName) ∈ table.rows.map FileLink.key :=
      key ▸ same ▸ List.mem_map_of_mem _ o₀_row
    rw [addFiles_mem_of_key distinct ok o₀_mem same, deleted_iff found id field]
    simp only [row, and_true, not_not]
    by_cases empty : l.fileID = ""
    · have unmoved : reorderAll fieldFiles.entries o₀ = o₀ := by
        rw [reordered, reorderFrom, if_neg fun hit => hit.2.1 (parts.1.trans empty)]
      rw [unmoved, ← kept, empty]
      simp only [ne_eq, not_true_eq_false, false_and, and_false, false_or, true_and]
      exact and_comm
    · simp only [id, type, field, empty, ne_eq, not_false_eq_true, true_and, false_and, and_false,
        or_false]
      constructor
      · rintro ⟨member, rfl⟩
        refine ⟨member, ?_⟩
        rw [reordered, reorderFrom, if_pos ⟨rfl, parts.1 ▸ empty, parts.1 ▸ member⟩, parts.1]
        simp
      · rintro ⟨member, order⟩
        refine ⟨member, FileLink.eq_of_key_order (same.symm.trans (reorderAll_key _ o₀).symm) ?_⟩
        rw [reordered, reorderFrom, if_pos ⟨rfl, parts.1 ▸ empty, parts.1 ▸ member⟩, order, parts.1]
        simp
  · push_neg at held
    have absent : (l.fileID, entityID, entityType, fieldName) ∉ table.rows.map FileLink.key := by
      rw [← key]
      intro member
      obtain ⟨r, r_row, same⟩ := List.mem_map.mp member
      have parts := same
      simp only [FileLink.key, Prod.mk.injEq] at parts
      exact held r (mem_existingLinks_of_key r_row (parts.2.1.trans id) (parts.2.2.1.trans type)
        (parts.2.2.2 ▸ field ▸ mem_keys_of_lookup found)) same
    have notRow : l ∉ table.rows := fun row => absent (key ▸ List.mem_map_of_mem _ row)
    have free : ∀ o ∈ existingLinks table entityType entityID fieldFiles.keys,
        ¬(o.field = l.field ∧ o.fileID = l.fileID) := by
      rintro o o_mem ⟨oField, oFile⟩
      obtain ⟨-, oID, oType, -⟩ := mem_existingLinks.mp o_mem
      exact held o o_mem (by simp [FileLink.key, oFile, oID, oField, oType, type, id])
    have created : l ∈ (addFilesPlan table entityType entityID fieldFiles).toCreate ↔
        l.fileID ≠ "" ∧ l.fileID ∈ files ∧ l.order = files.indexOf l.fileID + 1 := by
      rw [addFilesPlan_toCreate distinct]
      constructor
      · rintro ⟨-, -, named, -, fs, fsFound, member, order⟩
        rw [lookup, Option.some.injEq] at fsFound
        subst fsFound
        exact ⟨named, member, order⟩
      · rintro ⟨named, member, order⟩
        exact ⟨id, type, named, free, files, lookup, member, order⟩
    rw [addFiles_mem_of_fresh distinct ok held, deleted_iff found id field]
    simp only [absent, notRow, created, id, type, field, and_false, not_false_eq_true, true_and,
      false_or, false_and, or_false]

-- On success, another entity type's link of the same id and field is gone exactly when
-- the entity had a link to the same file and the field no longer lists it.
theorem addFiles_other_types (type : l.relatedType ≠ entityType) :
    l ∈ (addFiles fails table entityType entityID fieldFiles).2.rows ↔
      l ∈ table.rows ∧
        ¬(l.fileID ∉ files ∧ (l.fileID, entityID, entityType, fieldName) ∈ table.rows.map FileLink.key) := by
  have fresh : ∀ o ∈ existingLinks table entityType entityID fieldFiles.keys, o.key ≠ l.key := by
    intro o o_mem same
    obtain ⟨-, -, oType, -⟩ := mem_existingLinks.mp o_mem
    simp only [FileLink.key, Prod.mk.injEq] at same
    exact type (same.2.2.1 ▸ oType)
  have notNew : l ∉ (addFilesPlan table entityType entityID fieldFiles).toCreate := fun new =>
    type ((addFilesPlan_toCreate distinct l).mp new).2.1
  rw [addFiles_mem_of_fresh distinct ok fresh, deleted_iff found id field]
  simp only [notNew, or_false]
  exact and_comm

end DistinctFiles

end AddFiles

-- For any table and any fields whose named files are distinct: whatever AddFiles
-- returns, the links of another entity id or of a field it does not name are as they
-- were, and the table is the one the first `k` of its writes leave, each succeeding, so
-- an error undoes none of them. On success each named field of the entity holds its
-- files in order, with a link of empty file id kept while the field lists an empty id;
-- and a link of another type with the entity's id and field is kept unless the field
-- drops its file and the entity had a link to that file.
theorem add_files_links (fails : Nat → Bool) (table : LinkTable) (entityType entityID : String)
    (fieldFiles : FieldFiles)
    (distinct : ∀ fieldName files, fieldFiles.lookup fieldName = some files →
      (files.filter (· ≠ "")).Nodup) :
    (∀ l : FileLink, ¬(l.relatedID = entityID ∧ l.field ∈ fieldFiles.keys) →
      (l ∈ (addFiles fails table entityType entityID fieldFiles).2.rows ↔ l ∈ table.rows)) ∧
    (∃ k, table.runWrites (fun _ => false) 0
      ((addFilesPlan table entityType entityID fieldFiles).writes.take k) =
        (.ok (), (addFiles fails table entityType entityID fieldFiles).2)) ∧
    ((addFiles fails table entityType entityID fieldFiles).1 = .ok () →
      ∀ fieldName files, fieldFiles.lookup fieldName = some files →
      ∀ l : FileLink, l.relatedID = entityID → l.field = fieldName →
        (l.relatedType = entityType →
          (l ∈ (addFiles fails table entityType entityID fieldFiles).2.rows ↔
            l ∈ expectedLinks entityType entityID fieldName files ∨
              (l ∈ table.rows ∧ l.fileID = "" ∧ "" ∈ files))) ∧
        (l.relatedType ≠ entityType →
          (l ∈ (addFiles fails table entityType entityID fieldFiles).2.rows ↔
            l ∈ table.rows ∧ ¬(l.fileID ∉ files ∧
              (l.fileID, entityID, entityType, fieldName) ∈ table.rows.map FileLink.key)))) :=
  ⟨fun _ outside => addFiles_frame distinct outside, addFiles_take_ok,
    fun ok _ _ found _ id field =>
      ⟨addFiles_entity_links distinct ok found id field, addFiles_other_types distinct ok found id field⟩⟩

-- A post and a user, both with id 7, each link file f to their images.
def sharedImageLinks : LinkTable :=
  ⟨[⟨"f", "7", "post", "images", 1⟩, ⟨"f", "7", "user", "images", 1⟩], by decide⟩

theorem add_files_links_post_images :
    (∀ fieldName files, (AList.singleton "images" ["g", "", "f"] : FieldFiles).lookup fieldName =
        some files → (files.filter (· ≠ "")).Nodup) ∧
    (∀ l : FileLink, ¬(l.relatedID = "7" ∧ l.field ∈ (AList.singleton "images" ["g", "", "f"] : FieldFiles).keys) →
      (l ∈ (addFiles (fun _ => false) sharedImageLinks "post" "7"
        (AList.singleton "images" ["g", "", "f"])).2.rows ↔ l ∈ sharedImageLinks.rows)) ∧
    (∃ k, sharedImageLinks.runWrites (fun _ => false) 0
      ((addFilesPlan sharedImageLinks "post" "7" (AList.singleton "images" ["g", "", "f"])).writes.take k) =
        (.ok (), (addFiles (fun _ => false) sharedImageLinks "post" "7"
          (AList.singleton "images" ["g", "", "f"])).2)) ∧
    ((addFiles (fun _ => false) sharedImageLinks "post" "7" (AList.singleton "images" ["g", "", "f"])).1 =
        .ok () →
      ∀ fieldName files, (AList.singleton "images" ["g", "", "f"] : FieldFiles).lookup fieldName = some files →
      ∀ l : FileLink, l.relatedID = "7" → l.field = fieldName →
        (l.relatedType = "post" →
          (l ∈ (addFiles (fun _ => false) sharedImageLinks "post" "7"
              (AList.singleton "images" ["g", "", "f"])).2.rows ↔
            l ∈ expectedLinks "post" "7" fieldName files ∨
              (l ∈ sharedImageLinks.rows ∧ l.fileID = "" ∧ "" ∈ files))) ∧
        (l.relatedType ≠ "post" →
          (l ∈ (addFiles (fun _ => false) sharedImageLinks "post" "7"
              (AList.singleton "images" ["g", "", "f"])).2.rows ↔
            l ∈ sharedImageLinks.rows ∧ ¬(l.fileID ∉ files ∧
              (l.fileID, "7", "post", fieldName) ∈ sharedImageLinks.rows.map FileLink.key)))) :=
  have distinct : ∀ fieldName files, (AList.singleton "images" ["g", "", "f"] : FieldFiles).lookup
      fieldName = some files → (files.filter (· ≠ "")).Nodup := fun fieldName files found => by
    by_cases images : fieldName = "images"
    · subst images
      rw [AList.lookup, AList.singleton_entries, List.dlookup_cons_eq, Option.some.injEq] at found
      subst found
      decide
    · rw [AList.lookup, AList.singleton_entries,
        List.dlookup_cons_ne [] (⟨"images", ["g", "", "f"]⟩ : FieldEntry) images, List.dlookup_nil] at found
      cases found
  ⟨distinct, add_files_links (fun _ => false) sharedImageLinks "post" "7" _ distinct⟩

-- The post's images become empty: the user's link goes too. A post with a link to g
-- is given f, and the connection fails at the DeleteMany of g (call 3, after the
-- FindMany calls 0 and 1 and CreateMany 2): the call fails and the table keeps the new
-- link. A link of empty file id stays while the field lists an empty id.
theorem add_files_links_diverges :
    (addFiles (fun _ => false) sharedImageLinks "post" "7" (AList.singleton "images" [])).1 = .ok () ∧
      (addFiles (fun _ => false) sharedImageLinks "post" "7" (AList.singleton "images" [])).2.rows = [] ∧
    (addFiles (· = 3) ⟨[⟨"g", "7", "post", "images", 1⟩], by decide⟩ "post" "7"
        (AList.singleton "images" ["f"])).1 = .error (.fault 3) ∧
      (addFiles (· = 3) ⟨[⟨"g", "7", "post", "images", 1⟩], by decide⟩ "post" "7"
        (AList.singleton "images" ["f"])).2.rows =
        [⟨"g", "7", "post", "images", 1⟩, ⟨"f", "7", "post", "images", 1⟩] ∧
    (addFiles (fun _ => false) ⟨[⟨"", "7", "post", "images", 1⟩], by decide⟩ "post" "7"
        (AList.singleton "images" [""])).2.rows = [⟨"", "7", "post", "images", 1⟩] := by
  decide

end GoCleanArch
