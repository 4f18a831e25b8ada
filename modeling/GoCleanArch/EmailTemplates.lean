import GoCleanArch.AuthDomain

/-!
The email templates of `emailUsecase` (part_007): `CreateTemplate`, `FindTemplate`,
`FindTemplateByID`, `UpdateTemplate` and `DeleteTemplate`, over the template table
of `EmailTemplateRepository` and the generic `SQLHandler` of AuthDomain.

`FindByCodeAndLocale` filters on `code`, `locale` and, by `applyEmailTemplateFilter`'s
default, `deleted_at = 0`; `FindByID` has no `deleted_at` filter, so a soft-deleted
template is still found by its id. The table indexes `code` and has no unique
index, so the lookup `CreateTemplate` makes before its `Create` is all that keeps
two live templates from sharing a code and a locale.

Each call is a program of atomic steps, one per repository call: CreateTemplate,
UpdateTemplate and DeleteTemplate read, then write, and `TemplateSystem`
interleaves the steps of calls in flight. `TemplateStore.apply` is a call run
alone, and `runSteps_template` says that it is what the call's own steps do.
The renderer's `ValidateTemplate` parses the subject and the content with Go's
template packages; the model takes its verdict as a function, `fun _ => true`
standing for a nil renderer. The created and updated timestamps are left out.
-/

namespace GoCleanArch

def errNotFound : DetailedError := ⟨"NOT_FOUND", 404, "The requested resource could not be found"⟩
def errBadRequest : DetailedError :=
  ⟨"BAD_REQUEST", 400, "The request was malformed or contained invalid parameters"⟩
def errConflict : DetailedError :=
  ⟨"CONFLICT", 409, "The resource could not be created due to a conflict"⟩

-- `domain.EmailTemplate`; the default value is Go's zero struct.
structure EmailTemplate where
  id : Nat
  code : String
  name : String
  subject : String
  content : String
  isActive : Bool
  description : String
  locale : String
  deletedAt : Int
  deriving DecidableEq, Repr, Inhabited

namespace EmailTemplate

-- A row `FindByCodeAndLocale` can return.
def live (t : EmailTemplate) : Bool := t.deletedAt == 0

def key (t : EmailTemplate) : String × String := (t.code, t.locale)

end EmailTemplate

instance : SQLModel EmailTemplate where
  id := EmailTemplate.id
  deletedAt := EmailTemplate.deletedAt
  withDeletedAt row stamp := { row with deletedAt := stamp }
  id_withDeletedAt _ _ := rfl

@[simp] theorem sqlModel_id_template (row : EmailTemplate) : SQLModel.id row = row.id := rfl
@[simp] theorem sqlModel_deletedAt_template (row : EmailTemplate) :
    SQLModel.deletedAt row = row.deletedAt := rfl
@[simp] theorem sqlModel_withDeletedAt_template (row : EmailTemplate) (stamp : Int) :
    SQLModel.withDeletedAt row stamp = { row with deletedAt := stamp } := rfl

structure CreateEmailTemplateRequest where
  code : String
  name : String
  subject : String
  content : String
  description : String
  locale : String
  isActive : Option Bool

structure UpdateEmailTemplateRequest where
  name : Option String
  subject : Option String
  content : Option String
  description : Option String
  isActive : Option Bool

-- `if locale == "" { locale = "en" }`
def localeOrDefault (locale : String) : String := if locale = "" then "en" else locale

-- The template `CreateTemplate` builds, with the default locale and `IsActive` true.
def CreateEmailTemplateRequest.template (req : CreateEmailTemplateRequest) : EmailTemplate :=
  ⟨0, req.code, req.name, req.subject, req.content, req.isActive.getD true, req.description,
    localeOrDefault req.locale, 0⟩

@[simp] theorem CreateEmailTemplateRequest.template_live (req : CreateEmailTemplateRequest) :
    req.template.live = true := rfl
@[simp] theorem EmailTemplate.key_withID (t : EmailTemplate) (id : Nat) :
    ({ t with id := id } : EmailTemplate).key = t.key := rfl
@[simp] theorem EmailTemplate.live_withID (t : EmailTemplate) (id : Nat) :
    ({ t with id := id } : EmailTemplate).live = t.live := rfl

-- `UpdateTemplate`'s field updates: each field the request sets.
def EmailTemplate.applyUpdate (t : EmailTemplate) (req : UpdateEmailTemplateRequest) :
    EmailTemplate :=
  { t with
    name := req.name.getD t.name
    subject := req.subject.getD t.subject
    content := req.content.getD t.content
    description := req.description.getD t.description
    isActive := req.isActive.getD t.isActive }

structure TemplateStore where
  templates : List EmailTemplate
  nextID : Nat

namespace TemplateStore

def init : TemplateStore := ⟨[], 1⟩

-- `FindByCodeAndLocale`: `FindOne` with `Code` and `Locale` set.
def findByCodeAndLocale (s : TemplateStore) (code locale : String) :
    Except DbError EmailTemplate :=
  SQLHandler.findOne s.templates (fun t => t.code == code && t.locale == locale && t.live)

-- `CreateTemplate` up to its `Create`: the lookup, then `ValidateTemplate`.
def createCheck (validate : EmailTemplate → Bool) (s : TemplateStore)
    (req : CreateEmailTemplateRequest) : Except DetailedError EmailTemplate :=
  match s.findByCodeAndLocale req.code (localeOrDefault req.locale) with
  | .ok _ => .error (errConflict.withError "template with this code and locale already exists")
  | .error _ =>
      if validate req.template then .ok req.template
      else .error (errBadRequest.withError "template validation failed")

-- `templateRepo.Create`: the database fills in a fresh id.
def create (s : TemplateStore) (template : EmailTemplate) : EmailTemplate × TemplateStore :=
  let created := { template with id := s.nextID }
  (created, ⟨s.templates ++ [created], s.nextID + 1⟩)

-- `FindTemplate`: the nil check after a successful `FindOne` cannot fire.
def findTemplate (s : TemplateStore) (code locale : String) : Except DetailedError EmailTemplate :=
  match s.findByCodeAndLocale code (localeOrDefault locale) with
  | .error _ => .error errNotFound
  | .ok template => .ok template

def findTemplateByID (s : TemplateStore) (templateID : Nat) : Except DetailedError EmailTemplate :=
  match SQLHandler.findByID s.templates templateID with
  | (_, some _) => .error errNotFound
  | (template, none) => .ok template

-- `UpdateTemplate` up to its `Update`: `FindByID`, the field updates, `ValidateTemplate`.
def updateCheck (validate : EmailTemplate → Bool) (s : TemplateStore) (templateID : Nat)
    (req : UpdateEmailTemplateRequest) : Except DetailedError EmailTemplate :=
  match SQLHandler.findByID s.templates templateID with
  | (_, some _) => .error errNotFound
  | (template, none) =>
      if validate (template.applyUpdate req) then .ok (template.applyUpdate req)
      else .error (errBadRequest.withError "template validation failed")

-- `templateRepo.Update`: gorm's `Save` of the whole row, `deleted_at` included.
def save (s : TemplateStore) (template : EmailTemplate) : TemplateStore :=
  { s with templates := SQLHandler.update s.templates template (fun _ new => new) }

-- `DeleteTemplate` up to its `Delete`: `FindByID`, whose row it drops.
def deleteCheck (s : TemplateStore) (templateID : Nat) : Except DetailedError Unit :=
  match SQLHandler.findByID s.templates templateID with
  | (_, some _) => .error errNotFound
  | (_, none) => .ok ()

-- `templateRepo.Delete`: the soft delete `DeleteByID`.
def delete (s : TemplateStore) (templateID : Nat) (now : Int) : TemplateStore :=
  { s with templates := SQLHandler.deleteByID s.templates templateID (unixMilli now) }

@[simp] theorem create_fst (s : TemplateStore) (template : EmailTemplate) :
    (s.create template).1 = { template with id := s.nextID } := rfl
@[simp] theorem create_nextID (s : TemplateStore) (template : EmailTemplate) :
    (s.create template).2.nextID = s.nextID + 1 := rfl
@[simp] theorem delete_nextID (s : TemplateStore) (templateID : Nat) (now : Int) :
    (s.delete templateID now).nextID = s.nextID := rfl

end TemplateStore

/-! ### Calls -/

inductive TemplateOp where
  | createTemplate (req : CreateEmailTemplateRequest)
  | findTemplate (code locale : String)
  | findTemplateByID (templateID : Nat)
  | updateTemplate (templateID : Nat) (req : UpdateEmailTemplateRequest)
  | deleteTemplate (templateID : Nat)

inductive TemplateReply where
  | template (result : Except DetailedError EmailTemplate)
  | done (result : Except DetailedError Unit)

def TemplateStore.apply (validate : EmailTemplate → Bool) (s : TemplateStore) (now : Int) :
    TemplateOp → TemplateReply × TemplateStore
  | .createTemplate req =>
      match s.createCheck validate req with
      | .error e => (.template (.error e), s)
      | .ok template => let r := s.create template; (.template (.ok r.1), r.2)
  | .findTemplate code locale => (.template (s.findTemplate code locale), s)
  | .findTemplateByID templateID => (.template (s.findTemplateByID templateID), s)
  | .updateTemplate templateID req =>
      match s.updateCheck validate templateID req with
      | .error e => (.template (.error e), s)
      | .ok template => (.template (.ok template), s.save template)
  | .deleteTemplate templateID =>
      match s.deleteCheck templateID with
      | .error e => (.done (.error e), s)
      | .ok () => (.done (.ok ()), s.delete templateID now)

def TemplateStore.serve (validate : EmailTemplate → Bool) (s : TemplateStore) :
    List (TemplateOp × Int) → List TemplateReply × TemplateStore
  | [] => ([], s)
  | (op, now) :: rest =>
      let first := s.apply validate now op
      let later := serve validate first.2 rest
      (first.1 :: later.1, later.2)

-- A call and what its first step has read.
inductive TemplateCall where
  | start (op : TemplateOp)
  | creating (template : EmailTemplate)
  | updating (template : EmailTemplate)
  | deleting (templateID : Nat)
  | returned (reply : TemplateReply)

def TemplateCall.step (validate : EmailTemplate → Bool) (s : TemplateStore) (now : Int) :
    TemplateCall → TemplateCall × TemplateStore
  | .start (.createTemplate req) =>
      match s.createCheck validate req with
      | .error e => (.returned (.template (.error e)), s)
      | .ok template => (.creating template, s)
  | .start (.findTemplate code locale) => (.returned (.template (s.findTemplate code locale)), s)
  | .start (.findTemplateByID templateID) =>
      (.returned (.template (s.findTemplateByID templateID)), s)
  | .start (.updateTemplate templateID req) =>
      match s.updateCheck validate templateID req with
      | .error e => (.returned (.template (.error e)), s)
      | .ok template => (.updating template, s)
  | .start (.deleteTemplate templateID) =>
      match s.deleteCheck templateID with
      | .error e => (.returned (.done (.error e)), s)
      | .ok () => (.deleting templateID, s)
  | .creating template => let r := s.create template; (.returned (.template (.ok r.1)), r.2)
  | .updating template => (.returned (.template (.ok template)), s.save template)
  | .deleting templateID => (.returned (.done (.ok ())), s.delete templateID now)
  | .returned reply => (.returned reply, s)

def TemplateCall.runSteps (validate : EmailTemplate → Bool) (now : Int) :
    Nat → TemplateCall → TemplateStore → TemplateCall × TemplateStore
  | 0, call, s => (call, s)
  | fuel + 1, call, s =>
      let next := call.step validate s now
      runSteps validate now fuel next.1 next.2

theorem runSteps_template (validate : EmailTemplate → Bool) (s : TemplateStore) (now : Int)
    (op : TemplateOp) :
    TemplateCall.runSteps validate now 2 (.start op) s =
      (.returned (s.apply validate now op).1, (s.apply validate now op).2) := by
  cases op with
  | createTemplate req =>
      cases checked : s.createCheck validate req <;>
        simp only [TemplateCall.runSteps, TemplateCall.step, TemplateStore.apply, checked]
  | findTemplate code locale => rfl
  | findTemplateByID templateID => rfl
  | updateTemplate templateID req =>
      cases checked : s.updateCheck validate templateID req <;>
        simp only [TemplateCall.runSteps, TemplateCall.step, TemplateStore.apply, checked]
  | deleteTemplate templateID =>
      cases checked : s.deleteCheck templateID <;>
        simp only [TemplateCall.runSteps, TemplateCall.step, TemplateStore.apply, checked]

structure TemplateSystem where
  store : TemplateStore
  calls : List TemplateCall

def TemplateSystem.step (validate : EmailTemplate → Bool) (sys : TemplateSystem) (i : Nat)
    (now : Int) : TemplateSystem :=
  match sys.calls.get? i with
  | some call => let next := call.step validate sys.store now; ⟨next.2, sys.calls.set i next.1⟩
  | none => sys

def TemplateSystem.run (validate : EmailTemplate → Bool) (sys : TemplateSystem) :
    List (Nat × Int) → TemplateSystem
  | [] => sys
  | (i, now) :: rest => run validate (sys.step validate i now) rest

end GoCleanArch
