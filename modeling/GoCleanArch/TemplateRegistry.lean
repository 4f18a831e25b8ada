import GoCleanArch.EmailTemplates
import Mathlib.Data.List.Nodup

/-!
The invariant the template calls keep when they run one at a time: ids below the
counter and distinct, and at most one live template for each code and locale
(`template_registry_unique`). Each write has one lemma for what it does to the
live (code, locale) pairs: `Create` appends one, `Save` of a row as read keeps
them, and `DeleteByID` drops some.

Interleaved, the lookup before each write is stale by the time the write runs.
Two CreateTemplates with one code and locale both pass their lookups and create
two live templates (`create_template_race`); an UpdateTemplate that read a
template before a DeleteTemplate writes it back with `deleted_at = 0`, so a
template deleted with success, and since replaced, is live again beside its
replacement (`update_template_revives_deleted`).
-/

namespace GoCleanArch

namespace TemplateStore

-- The (code, locale) pairs of the live rows, in table order.
def liveKeys (s : TemplateStore) : List (String × String) :=
  (s.templates.filter EmailTemplate.live).map EmailTemplate.key

structure WellFormed (s : TemplateStore) : Prop where
  bounded : ∀ t ∈ s.templates, t.id < s.nextID
  idsNodup : (s.templates.map (·.id)).Nodup
  liveUnique : s.liveKeys.Nodup

theorem init_wellFormed : init.WellFormed :=
  ⟨by simp [init], by simp [init], by simp [init, liveKeys]⟩

/-! ### Rows and keys -/

@[simp] theorem applyUpdate_id (t : EmailTemplate) (req : UpdateEmailTemplateRequest) :
    (t.applyUpdate req).id = t.id := rfl
@[simp] theorem applyUpdate_key (t : EmailTemplate) (req : UpdateEmailTemplateRequest) :
    (t.applyUpdate req).key = t.key := rfl
@[simp] theorem applyUpdate_live (t : EmailTemplate) (req : UpdateEmailTemplateRequest) :
    (t.applyUpdate req).live = t.live := rfl

theorem liveKeys_map {rows : List EmailTemplate} {h : EmailTemplate → EmailTemplate}
    (same : ∀ row ∈ rows, (h row).live = row.live ∧ (h row).key = row.key) :
    ((rows.map h).filter EmailTemplate.live).map EmailTemplate.key =
      (rows.filter EmailTemplate.live).map EmailTemplate.key := by
  induction rows with
  | nil => rfl
  | cons row rest ih =>
      obtain ⟨live, key⟩ := same row (List.mem_cons_self _ _)
      have tail := ih fun r member => same r (List.mem_cons_of_mem _ member)
      by_cases alive : row.live <;> simp [List.filter_cons, live, key, alive, tail]

theorem liveKeys_map_sublist {rows : List EmailTemplate} {h : EmailTemplate → EmailTemplate}
    (shrinks : ∀ row ∈ rows, (h row).key = row.key ∧ ((h row).live = true → row.live = true)) :
    List.Sublist (((rows.map h).filter EmailTemplate.live).map EmailTemplate.key)
      ((rows.filter EmailTemplate.live).map EmailTemplate.key) := by
  induction rows with
  | nil => exact .slnil
  | cons row rest ih =>
      obtain ⟨key, live⟩ := shrinks row (List.mem_cons_self _ _)
      have tail := ih fun r member => shrinks r (List.mem_cons_of_mem _ member)
      by_cases kept : (h row).live
      · simpa [List.filter_cons, kept, live kept, key] using tail.cons₂ row.key
      · by_cases alive : row.live
        · simpa [List.filter_cons, kept, alive] using tail.cons row.key
        · simpa [List.filter_cons, kept, alive] using tail

-- Where no key is live twice, two live rows with one key are one row.
theorem eq_of_liveKeys_nodup {s : TemplateStore} (unique : s.liveKeys.Nodup) {a b : EmailTemplate}
    (a_mem : a ∈ s.templates) (b_mem : b ∈ s.templates) (a_live : a.live = true)
    (b_live : b.live = true) (same : a.key = b.key) : a = b :=
  List.inj_on_of_nodup_map unique (List.mem_filter.mpr ⟨a_mem, a_live⟩)
    (List.mem_filter.mpr ⟨b_mem, b_live⟩) same

theorem WellFormed.live_eq {s : TemplateStore} (wf : s.WellFormed) {a b : EmailTemplate}
    (a_mem : a ∈ s.templates) (b_mem : b ∈ s.templates) (a_live : a.live = true)
    (b_live : b.live = true) (same : a.key = b.key) : a = b :=
  eq_of_liveKeys_nodup wf.liveUnique a_mem b_mem a_live b_live same

theorem findByID_of_mem {s : TemplateStore} (wf : s.WellFormed) {t : EmailTemplate}
    (member : t ∈ s.templates) : SQLHandler.findByID s.templates t.id = (t, none) := by
  apply SQLHandler.findByID_of_find
  cases found : s.templates.find? (fun row => SQLModel.id row == t.id) with
  | none => exact absurd member (by simpa using List.find?_eq_none.mp found t)
  | some row =>
      have hit := List.find?_some found
      simp only [sqlModel_id_template, beq_iff_eq] at hit
      rw [List.inj_on_of_nodup_map wf.idsNodup (List.mem_of_find?_eq_some found) member hit]

theorem findByCodeAndLocale_of_not_mem {s : TemplateStore} {code locale : String}
    (absent : (code, locale) ∉ s.liveKeys) :
    s.findByCodeAndLocale code locale = .error .domainRecordNotFound := by
  have none : s.templates.find? (fun t => t.code == code && t.locale == locale && t.live) = none := by
    refine List.find?_eq_none.mpr fun t member hit => absent ?_
    simp only [Bool.and_eq_true, beq_iff_eq] at hit
    exact List.mem_map.mpr ⟨t, List.mem_filter.mpr ⟨member, hit.2⟩, by simp [EmailTemplate.key, hit.1]⟩
  simp [findByCodeAndLocale, SQLHandler.findOne, none]

theorem not_mem_of_findByCodeAndLocale {s : TemplateStore} {code locale : String} {e : DbError}
    (missed : s.findByCodeAndLocale code locale = .error e) : (code, locale) ∉ s.liveKeys := by
  intro present
  obtain ⟨t, kept, same⟩ := List.mem_map.mp present
  obtain ⟨member, alive⟩ := List.mem_filter.mp kept
  simp only [EmailTemplate.key, Prod.mk.injEq] at same
  have some : (s.templates.find? (fun t => t.code == code && t.locale == locale && t.live)).isSome :=
    List.find?_isSome.mpr ⟨t, member, by simp [same, alive]⟩
  unfold findByCodeAndLocale SQLHandler.findOne at missed
  split at missed
  · cases missed
  · rename_i none
    simp [none] at some

/-! ### What each write does -/

theorem createCheck_ok {validate : EmailTemplate → Bool} {s : TemplateStore}
    {req : CreateEmailTemplateRequest} {template : EmailTemplate}
    (checked : s.createCheck validate req = .ok template) :
    template = req.template ∧ req.template.key ∉ s.liveKeys := by
  unfold createCheck at checked
  split at checked
  · cases checked
  · rename_i missed
    split at checked
    · cases checked
      exact ⟨rfl, not_mem_of_findByCodeAndLocale missed⟩
    · cases checked

theorem createCheck_of_free {validate : EmailTemplate → Bool} {s : TemplateStore}
    {req : CreateEmailTemplateRequest} (free : req.template.key ∉ s.liveKeys)
    (valid : validate req.template = true) : s.createCheck validate req = .ok req.template := by
  have absent : (req.code, localeOrDefault req.locale) ∉ s.liveKeys := free
  simp [createCheck, findByCodeAndLocale_of_not_mem absent, valid]

theorem liveKeys_create (s : TemplateStore) (template : EmailTemplate) :
    (s.create template).2.liveKeys =
      s.liveKeys ++ if template.live then [template.key] else [] := by
  by_cases alive : template.deletedAt = 0 <;>
    simp [create, liveKeys, List.filter_append, List.filter_cons, alive, EmailTemplate.live,
      EmailTemplate.key]

theorem WellFormed.create {s : TemplateStore} (wf : s.WellFormed) {template : EmailTemplate}
    (fresh : template.live = true → template.key ∉ s.liveKeys) : (s.create template).2.WellFormed := by
  refine ⟨fun t member => ?_, ?_, ?_⟩
  · rcases List.mem_append.mp member with old | new
    · exact Nat.lt_succ_of_lt (wf.bounded t old)
    · simp only [List.mem_singleton] at new
      simp [new, TemplateStore.create]
  · have above : s.nextID ∉ s.templates.map (·.id) := fun present => by
      obtain ⟨t, member, same⟩ := List.mem_map.mp present
      exact absurd (wf.bounded t member) (by omega)
    simpa [TemplateStore.create, List.nodup_append, above] using wf.idsNodup
  · rw [liveKeys_create]
    split
    · rename_i alive
      exact List.nodup_append.mpr ⟨wf.liveUnique, List.nodup_singleton _,
        List.disjoint_singleton.mpr (fresh alive)⟩
    · simpa using wf.liveUnique

theorem updateCheck_ok {validate : EmailTemplate → Bool} {s : TemplateStore} {templateID : Nat}
    {req : UpdateEmailTemplateRequest} {template : EmailTemplate}
    (checked : s.updateCheck validate templateID req = .ok template) :
    ∃ row ∈ s.templates, row.id = templateID ∧ template = row.applyUpdate req := by
  unfold updateCheck at checked
  split at checked
  · cases checked
  · rename_i row found
    obtain ⟨member, sameID⟩ := SQLHandler.mem_of_findByID found
    split at checked
    · cases checked
      exact ⟨row, member, sameID, rfl⟩
    · cases checked

-- `Save` of a row as read, with its id, key and liveness: every row keeps its key
-- and liveness.
theorem save_eq_map {s : TemplateStore} {row : EmailTemplate} (member : row ∈ s.templates)
    {template : EmailTemplate} (sameID : template.id = row.id) :
    (s.save template).templates =
      s.templates.map fun r => if r.id = template.id then template else r := by
  have found : s.templates.any (fun r => r.id == template.id) = true :=
    List.any_eq_true.mpr ⟨row, member, by simp [sameID]⟩
  simp only [save, SQLHandler.update, sqlModel_id_template, found, if_true]

-- A write that keeps the ids and the counter keeps them distinct and bounded.
theorem WellFormed.of_ids {s s' : TemplateStore} (wf : s.WellFormed)
    (ids : s'.templates.map (·.id) = s.templates.map (·.id)) (counter : s'.nextID = s.nextID)
    (unique : s'.liveKeys.Nodup) : s'.WellFormed := by
  refine ⟨fun t member => ?_, ids ▸ wf.idsNodup, unique⟩
  have listed : t.id ∈ s.templates.map (·.id) := ids ▸ List.mem_map_of_mem _ member
  obtain ⟨old, old_mem, same⟩ := List.mem_map.mp listed
  exact counter ▸ same ▸ wf.bounded old old_mem

theorem liveKeys_save {s : TemplateStore} (distinct : (s.templates.map (·.id)).Nodup)
    {row : EmailTemplate} (member : row ∈ s.templates) {template : EmailTemplate}
    (sameID : template.id = row.id) (sameKey : template.key = row.key)
    (sameLive : template.live = row.live) : (s.save template).liveKeys = s.liveKeys := by
  unfold liveKeys
  rw [save_eq_map member sameID, liveKeys_map fun r r_mem => ?_]
  by_cases hit : r.id = template.id
  · obtain rfl : r = row := List.inj_on_of_nodup_map distinct r_mem member (hit.trans sameID)
    simp [hit, sameKey, sameLive]
  · simp [hit]

theorem WellFormed.save {s : TemplateStore} (wf : s.WellFormed) {row : EmailTemplate}
    (member : row ∈ s.templates) {template : EmailTemplate} (sameID : template.id = row.id)
    (sameKey : template.key = row.key) (sameLive : template.live = row.live) :
    (s.save template).WellFormed := by
  refine wf.of_ids ?_ rfl ((liveKeys_save wf.idsNodup member sameID sameKey sameLive).symm ▸ wf.liveUnique)
  rw [save_eq_map member sameID, List.map_map]
  exact List.map_congr_left fun r _ => by by_cases hit : r.id = template.id <;> simp [hit]

theorem WellFormed.delete {s : TemplateStore} (wf : s.WellFormed) (templateID : Nat) (now : Int) :
    (s.delete templateID now).WellFormed := by
  refine wf.of_ids (SQLHandler.map_id_updateFields s.templates templateID _ fun row => by
    split <;> rfl) rfl (wf.liveUnique.sublist (liveKeys_map_sublist fun row _ => ?_))
  by_cases hit : row.id = templateID
  · by_cases alive : row.deletedAt = 0 <;> simp [hit, alive, EmailTemplate.key, EmailTemplate.live]
  · simp [hit]

-- Every call run alone keeps the table well formed.
theorem apply_wellFormed (validate : EmailTemplate → Bool) {s : TemplateStore} (wf : s.WellFormed)
    (now : Int) (op : TemplateOp) : (s.apply validate now op).2.WellFormed := by
  cases op with
  | createTemplate req =>
      cases checked : s.createCheck validate req with
      | error e => simpa only [apply, checked] using wf
      | ok template =>
          obtain ⟨rfl, fresh⟩ := createCheck_ok checked
          simpa only [apply, checked] using wf.create fun _ => fresh
  | findTemplate code locale => exact wf
  | findTemplateByID templateID => exact wf
  | updateTemplate templateID req =>
      cases checked : s.updateCheck validate templateID req with
      | error e => simpa only [apply, checked] using wf
      | ok template =>
          obtain ⟨row, member, -, rfl⟩ := updateCheck_ok checked
          simpa only [apply, checked] using
            wf.save member (applyUpdate_id row req) (applyUpdate_key row req) (applyUpdate_live row req)
  | deleteTemplate templateID =>
      cases checked : s.deleteCheck templateID with
      | error e => simpa only [apply, checked] using wf
      | ok u => simpa only [apply, checked] using wf.delete templateID now

/-! ### Reads of a row -/

theorem updateCheck_of_mem (validate : EmailTemplate → Bool) {s : TemplateStore} (wf : s.WellFormed)
    {t : EmailTemplate} (member : t ∈ s.templates) {req : UpdateEmailTemplateRequest}
    (valid : validate (t.applyUpdate req) = true) :
    s.updateCheck validate t.id req = .ok (t.applyUpdate req) := by
  simp [updateCheck, findByID_of_mem wf member, valid]

theorem deleteCheck_of_mem {s : TemplateStore} (wf : s.WellFormed) {t : EmailTemplate}
    (member : t ∈ s.templates) : s.deleteCheck t.id = .ok () := by
  simp [deleteCheck, findByID_of_mem wf member]

-- The row `DeleteByID` leaves for a live row of the id it deletes.
theorem stamped_mem_delete {s : TemplateStore} {t : EmailTemplate} (member : t ∈ s.templates)
    (alive : t.live = true) (now : Int) :
    { t with deletedAt := unixMilli now } ∈ (s.delete t.id now).templates := by
  have zero : t.deletedAt = 0 := by simpa [EmailTemplate.live] using alive
  exact List.mem_map.mpr ⟨t, member, by simp [zero]⟩

-- Deleting the one live row of a key, at an instant after the epoch, frees the key.
theorem key_free_after_delete {s : TemplateStore} (wf : s.WellFormed) {t : EmailTemplate}
    (member : t ∈ s.templates) (alive : t.live = true) {now : Int} (stamp : unixMilli now ≠ 0) :
    t.key ∉ (s.delete t.id now).liveKeys := by
  intro present
  obtain ⟨r, kept, same⟩ := List.mem_map.mp present
  obtain ⟨r_mem, r_live⟩ := List.mem_filter.mp kept
  obtain ⟨old, old_mem, rfl⟩ := List.mem_map.mp r_mem
  by_cases hit : old.id = t.id
  · obtain rfl := List.inj_on_of_nodup_map wf.idsNodup old_mem member hit
    have zero : old.deletedAt = 0 := by simpa [EmailTemplate.live] using alive
    simp [hit, zero, EmailTemplate.live, stamp] at r_live
  · simp only [sqlModel_id_template, hit, if_false] at r_live same
    exact hit (congrArg EmailTemplate.id (wf.live_eq old_mem member r_live alive same))

end TemplateStore

/-! ### Calls one at a time -/

-- Template calls run one at a time, whatever they ask and whatever the renderer
-- accepts, keep ids distinct and leave at most one live template for each code
-- and locale.
theorem template_registry_unique (validate : EmailTemplate → Bool) (ops : List (TemplateOp × Int)) :
    (TemplateStore.init.serve validate ops).2.WellFormed := by
  suffices general : ∀ s : TemplateStore, s.WellFormed → (s.serve validate ops).2.WellFormed from
    general _ TemplateStore.init_wellFormed
  induction ops with
  | nil => exact fun s wf => wf
  | cons op rest ih =>
      intro s wf
      exact ih _ (TemplateStore.apply_wellFormed validate wf op.2 op.1)

/-! ### Interleavings -/

-- Two CreateTemplates for a code and locale no live template has: both look up
-- before either creates, both succeed, and the pair is live twice.
theorem create_template_race (validate : EmailTemplate → Bool) (s : TemplateStore)
    (req req' : CreateEmailTemplateRequest) (now₁ now₂ now₃ now₄ : Int)
    (free : req.template.key ∉ s.liveKeys) (same : req'.template.key = req.template.key)
    (valid : validate req.template = true) (valid' : validate req'.template = true) :
    let sys := TemplateSystem.run validate
      ⟨s, [.start (.createTemplate req), .start (.createTemplate req')]⟩
      [(0, now₁), (1, now₂), (0, now₃), (1, now₄)]
    sys.calls = [.returned (.template (.ok { req.template with id := s.nextID })),
        .returned (.template (.ok { req'.template with id := s.nextID + 1 }))] ∧
      sys.store.liveKeys = s.liveKeys ++ [req.template.key, req.template.key] := by
  have first := TemplateStore.createCheck_of_free free valid
  have second := TemplateStore.createCheck_of_free (same ▸ free) valid'
  simp only [TemplateSystem.run, TemplateSystem.step, TemplateCall.step, List.get?, List.set,
    first, second, TemplateStore.create_fst, TemplateStore.create_nextID,
    TemplateStore.liveKeys_create, true_and]
  simp [same]

-- An UpdateTemplate reads a live template; a DeleteTemplate deletes it; a
-- CreateTemplate for its code and locale, now free, creates a replacement; the
-- update then saves the row it read, `deleted_at = 0` included. Every call
-- succeeds, and the deleted template is live again beside its replacement.
theorem update_template_revives_deleted (validate : EmailTemplate → Bool) (s : TemplateStore)
    (t : EmailTemplate) (req : UpdateEmailTemplateRequest) (req' : CreateEmailTemplateRequest)
    (now₁ now₂ now₃ now₄ now₅ now₆ : Int) (wf : s.WellFormed) (member : t ∈ s.templates)
    (alive : t.live = true) (same : req'.template.key = t.key)
    (valid : validate (t.applyUpdate req) = true) (valid' : validate req'.template = true)
    (stamp : unixMilli now₃ ≠ 0) :
    let sys := TemplateSystem.run validate
      ⟨s, [.start (.updateTemplate t.id req), .start (.deleteTemplate t.id),
        .start (.createTemplate req')]⟩
      [(0, now₁), (1, now₂), (1, now₃), (2, now₄), (2, now₅), (0, now₆)]
    sys.calls = [.returned (.template (.ok (t.applyUpdate req))), .returned (.done (.ok ())),
        .returned (.template (.ok { req'.template with id := s.nextID }))] ∧
      t.applyUpdate req ∈ sys.store.templates ∧
      { req'.template with id := s.nextID } ∈ sys.store.templates ∧ ¬ sys.store.liveKeys.Nodup := by
  have updating := TemplateStore.updateCheck_of_mem validate wf member valid
  have deleting := TemplateStore.deleteCheck_of_mem wf member
  have creating := TemplateStore.createCheck_of_free
    (same ▸ TemplateStore.key_free_after_delete wf member alive stamp) valid'
  simp only [TemplateSystem.run, TemplateSystem.step, TemplateCall.step, List.get?, List.set,
    updating, deleting, creating, TemplateStore.create_fst, TemplateStore.delete_nextID, true_and]
  -- the store after the delete and the create, and the two rows the save meets there
  set created := { req'.template with id := s.nextID }
  set beforeSave := ((s.delete t.id now₃).create req'.template).2
  have stamped : { t with deletedAt := unixMilli now₃ } ∈ beforeSave.templates :=
    List.mem_append_left _ (TemplateStore.stamped_mem_delete member alive now₃)
  have fresh : created ∈ beforeSave.templates := List.mem_append_right _ (List.mem_singleton_self _)
  have other : created.id ≠ t.id := Nat.ne_of_gt (wf.bounded t member)
  have rows := @TemplateStore.save_eq_map beforeSave _ stamped (t.applyUpdate req) rfl
  have revived : t.applyUpdate req ∈ (beforeSave.save (t.applyUpdate req)).templates :=
    rows ▸ List.mem_map.mpr ⟨_, stamped, by simp⟩
  have kept : created ∈ (beforeSave.save (t.applyUpdate req)).templates :=
    rows ▸ List.mem_map.mpr ⟨_, fresh, by simp [other]⟩
  refine ⟨revived, kept, fun unique => other ?_⟩
  have equal := TemplateStore.eq_of_liveKeys_nodup unique revived kept
    (by simpa using alive) rfl (by simpa using same.symm)
  rw [← equal]
  rfl

end GoCleanArch
