import GoCleanArch.TemplateRegistry

/-!
The bootstrap seeder of part_001: `InitializeEmailTemplates`, which `main` runs
through `EmailTemplateSeeder.Seed` at every start, and `SeedTemplate`, over the
template table of EmailTemplates. Both look each default template up by code and
locale with the repository's `FindByCodeAndLocale`, and `Create` it with the
contents of its embedded file only when the lookup misses; neither goes through
`ValidateTemplate`. The embedded files are the parameter `files`, from path to
contents.

A start keeps the table well formed, keeps every live template, and leaves every
default whose file is embedded live (`seed_templates_registered`); a second start
changes nothing (`seed_templates_idempotent`). `SeedTemplate` leaves the table as
the start's turn for the same template does (`seedTemplate_eq_seedStep`).
-/

namespace GoCleanArch

structure DefaultEmailTemplate where
  code : String
  name : String
  subject : String
  contentFile : String
  description : String
  locale : String
  deriving DecidableEq, Repr

namespace DefaultEmailTemplate

def key (d : DefaultEmailTemplate) : String × String := (d.code, d.locale)

-- The row the seeder creates for it, active.
def template (d : DefaultEmailTemplate) (content : String) : EmailTemplate :=
  ⟨0, d.code, d.name, d.subject, content, true, d.description, d.locale, 0⟩

@[simp] theorem template_key (d : DefaultEmailTemplate) (content : String) :
    (d.template content).key = d.key := rfl

@[simp] theorem template_live (d : DefaultEmailTemplate) (content : String) :
    (d.template content).live = true := rfl

end DefaultEmailTemplate

def getDefaultEmailTemplates : List DefaultEmailTemplate :=
  [⟨"welcome", "Welcome Email", "Welcome to \x7b\x7b.app_name\x7d\x7d! ðŸŽ‰", "welcome.html",
      "Welcome email sent to new users after successful registration", "en"⟩,
    ⟨"verification", "Email Verification", "Verify your email address - \x7b\x7b.app_name\x7d\x7d",
      "verification.html", "Email verification sent to users to verify their email address", "en"⟩,
    ⟨"password_reset", "Password Reset", "Reset your password - \x7b\x7b.app_name\x7d\x7d",
      "password_reset.html", "Password reset email sent to users who request password reset", "en"⟩]

-- `isNotFoundError`: `domain.ErrRecordNotFound` is one; gorm's own
-- `ErrRecordNotFound` is another value, and not a `DetailedError`.
def isNotFoundError : DbError → Bool
  | .domainRecordNotFound => true
  | .recordNotFound => false
  | .duplicateKey => false

-- The texts of the database errors.
def DbError.text : DbError → String
  | .recordNotFound => "record not found"
  | .domainRecordNotFound => "record not found"
  | .duplicateKey => "duplicated key not allowed"

-- `filepath.Join("templates", "email", filename)` for the constant file names.
def templatePath (filename : String) : String := "templates/email/" ++ filename

-- `loadTemplateContent`: the embedded file, or `embed.FS`'s error for a missing one.
def loadTemplateContent (files : String → Option String) (filename : String) :
    Except String String :=
  match files (templatePath filename) with
  | some content => .ok content
  | none => .error ("failed to read template file " ++ templatePath filename ++ ": open " ++
      templatePath filename ++ ": file does not exist")

-- What `SeedTemplate` wraps in its error.
inductive SeedError where
  | checkFailed (err : DbError)
  | loadFailed (message : String)
  | notDefault (code locale : String)

def SeedError.message : SeedError → String
  | .checkFailed err => "failed to check existing template: " ++ err.text
  | .loadFailed message => "failed to load template content: " ++ message
  | .notDefault code locale => "default template not found for code " ++ code ++ " and locale " ++ locale

namespace TemplateStore

-- One turn of InitializeEmailTemplates' loop; every failure is logged and skipped.
def seedStep (files : String → Option String) (s : TemplateStore) (d : DefaultEmailTemplate) :
    TemplateStore :=
  match s.findByCodeAndLocale d.code d.locale with
  | .error err =>
      if !isNotFoundError err then s else
      match loadTemplateContent files d.contentFile with
      | .error _ => s
      | .ok content => (s.create (d.template content)).2
  | .ok _ => s

-- `InitializeEmailTemplates`; its error is always nil.
def initializeEmailTemplates (files : String → Option String) (s : TemplateStore) : TemplateStore :=
  getDefaultEmailTemplates.foldl (seedStep files) s

-- `SeedTemplate`: the first default with the code and locale, if any.
def seedTemplate (files : String → Option String) (s : TemplateStore) (code locale : String) :
    Except SeedError Unit × TemplateStore :=
  match getDefaultEmailTemplates.find? (fun d => d.code == code && d.locale == locale) with
  | none => (.error (.notDefault code locale), s)
  | some d =>
      match s.findByCodeAndLocale code locale with
      | .error err =>
          if !isNotFoundError err then (.error (.checkFailed err), s) else
          match loadTemplateContent files d.contentFile with
          | .error message => (.error (.loadFailed message), s)
          | .ok content => (.ok (), (s.create (d.template content)).2)
      | .ok _ => (.ok (), s)

/-! ### One turn -/

theorem findByCodeAndLocale_of_mem {s : TemplateStore} {code locale : String}
    (present : (code, locale) ∈ s.liveKeys) : ∃ t, s.findByCodeAndLocale code locale = .ok t := by
  cases found : s.findByCodeAndLocale code locale with
  | error e => exact absurd present (not_mem_of_findByCodeAndLocale found)
  | ok t => exact ⟨t, rfl⟩

theorem seedStep_of_mem (files : String → Option String) {s : TemplateStore}
    {d : DefaultEmailTemplate} (present : d.key ∈ s.liveKeys) : s.seedStep files d = s := by
  obtain ⟨t, found⟩ := findByCodeAndLocale_of_mem present
  simp [seedStep, found]

theorem seedStep_of_missing {files : String → Option String} (s : TemplateStore)
    {d : DefaultEmailTemplate} (missing : files (templatePath d.contentFile) = none) :
    s.seedStep files d = s := by
  unfold seedStep
  split
  · simp [loadTemplateContent, missing]
  · rfl

theorem seedStep_of_free {files : String → Option String} {s : TemplateStore}
    {d : DefaultEmailTemplate} {content : String} (absent : d.key ∉ s.liveKeys)
    (found : files (templatePath d.contentFile) = some content) :
    s.seedStep files d = (s.create (d.template content)).2 := by
  simp [seedStep, findByCodeAndLocale_of_not_mem absent, isNotFoundError, loadTemplateContent, found]

theorem seedStep_cases (files : String → Option String) (s : TemplateStore) (d : DefaultEmailTemplate) :
    s.seedStep files d = s ∨ ∃ content, d.key ∉ s.liveKeys ∧
      files (templatePath d.contentFile) = some content ∧
      s.seedStep files d = (s.create (d.template content)).2 := by
  by_cases present : d.key ∈ s.liveKeys
  · exact .inl (seedStep_of_mem files present)
  cases found : files (templatePath d.contentFile) with
  | none => exact .inl (seedStep_of_missing s found)
  | some content => exact .inr ⟨content, present, rfl, seedStep_of_free present found⟩

theorem liveKeys_seedStep (files : String → Option String) (s : TemplateStore)
    (d : DefaultEmailTemplate) : ∃ added, (s.seedStep files d).liveKeys = s.liveKeys ++ added := by
  rcases seedStep_cases files s d with same | ⟨content, _, _, created⟩
  · exact ⟨[], by rw [same, List.append_nil]⟩
  · exact ⟨_, by rw [created, liveKeys_create]⟩

theorem WellFormed.seedStep {s : TemplateStore} (wf : s.WellFormed) (files : String → Option String)
    (d : DefaultEmailTemplate) : (s.seedStep files d).WellFormed := by
  rcases seedStep_cases files s d with same | ⟨content, absent, _, created⟩
  · rwa [same]
  · rw [created]
    exact wf.create fun _ => by simpa using absent

theorem seedStep_registers (files : String → Option String) (s : TemplateStore)
    {d : DefaultEmailTemplate} (embedded : (files (templatePath d.contentFile)).isSome) :
    d.key ∈ (s.seedStep files d).liveKeys := by
  by_cases present : d.key ∈ s.liveKeys
  · rwa [seedStep_of_mem files present]
  obtain ⟨content, found⟩ := Option.isSome_iff_exists.mp embedded
  simp [seedStep_of_free present found, liveKeys_create]

/-! ### The loop -/

theorem foldl_seedStep_wellFormed (files : String → Option String) :
    ∀ (defaults : List DefaultEmailTemplate) {s : TemplateStore}, s.WellFormed →
      (defaults.foldl (seedStep files) s).WellFormed
  | [], _, wf => wf
  | d :: rest, _, wf => foldl_seedStep_wellFormed files rest (wf.seedStep files d)

theorem foldl_seedStep_keeps (files : String → Option String) :
    ∀ (defaults : List DefaultEmailTemplate) {s : TemplateStore} {k : String × String},
      k ∈ s.liveKeys → k ∈ (defaults.foldl (seedStep files) s).liveKeys
  | [], _, _, live => live
  | d :: rest, s, _, live => foldl_seedStep_keeps files rest (by
      obtain ⟨added, grown⟩ := liveKeys_seedStep files s d
      exact grown ▸ List.mem_append_left added live)

theorem foldl_seedStep_registers (files : String → Option String) :
    ∀ (defaults : List DefaultEmailTemplate) (s : TemplateStore) {d : DefaultEmailTemplate},
      d ∈ defaults → (files (templatePath d.contentFile)).isSome →
        d.key ∈ (defaults.foldl (seedStep files) s).liveKeys
  | [], _, _, member, _ => absurd member (List.not_mem_nil _)
  | d' :: rest, s, d, member, embedded => by
      rcases List.mem_cons.mp member with same | later
      · exact foldl_seedStep_keeps files rest (same ▸ seedStep_registers files s embedded)
      · exact foldl_seedStep_registers files rest _ later embedded

theorem foldl_seedStep_fixed (files : String → Option String) :
    ∀ (defaults : List DefaultEmailTemplate) {s : TemplateStore},
      (∀ d ∈ defaults, s.seedStep files d = s) → defaults.foldl (seedStep files) s = s
  | [], _, _ => rfl
  | d :: rest, s, fixed => by
      rw [List.foldl_cons, fixed d (List.mem_cons_self _ _)]
      exact foldl_seedStep_fixed files rest fun d' member => fixed d' (List.mem_cons_of_mem _ member)

theorem seed_templates_idempotent (files : String → Option String) (s : TemplateStore) :
    (s.initializeEmailTemplates files).initializeEmailTemplates files = s.initializeEmailTemplates files := by
  refine foldl_seedStep_fixed files _ fun d member => ?_
  cases found : files (templatePath d.contentFile) with
  | none => exact seedStep_of_missing _ found
  | some content =>
      exact seedStep_of_mem files
        (foldl_seedStep_registers files _ s member (by simp [found]))

theorem seed_templates_registered (files : String → Option String) {s : TemplateStore}
    (wf : s.WellFormed) :
    (s.initializeEmailTemplates files).WellFormed ∧
      (∀ k ∈ s.liveKeys, k ∈ (s.initializeEmailTemplates files).liveKeys) ∧
      ∀ d ∈ getDefaultEmailTemplates, (files (templatePath d.contentFile)).isSome →
        d.key ∈ (s.initializeEmailTemplates files).liveKeys :=
  ⟨foldl_seedStep_wellFormed files _ wf, fun _ live => foldl_seedStep_keeps files _ live,
    fun _ member embedded => foldl_seedStep_registers files _ s member embedded⟩

theorem seed_templates_registered_from_empty :
    let files : String → Option String := fun _ => some "<p>Hello</p>"
    (init.initializeEmailTemplates files).WellFormed ∧
      (∀ k ∈ init.liveKeys, k ∈ (init.initializeEmailTemplates files).liveKeys) ∧
      ∀ d ∈ getDefaultEmailTemplates, (files (templatePath d.contentFile)).isSome →
        d.key ∈ (init.initializeEmailTemplates files).liveKeys :=
  seed_templates_registered _ init_wellFormed

-- SeedTemplate leaves the table as the start's turn for its default does, and
-- refuses a code and locale no default has.
theorem seedTemplate_eq_seedStep (files : String → Option String) (s : TemplateStore)
    (code locale : String) :
    (s.seedTemplate files code locale).2 =
      match getDefaultEmailTemplates.find? (fun d => d.code == code && d.locale == locale) with
      | none => s
      | some d => s.seedStep files d := by
  unfold seedTemplate
  split
  · rfl
  next d found =>
    have same : d.code = code ∧ d.locale = locale := by simpa using List.find?_some found
    obtain ⟨rfl, rfl⟩ := same
    unfold seedStep
    split
    · split
      · rfl
      · split <;> rfl
    · rfl

end TemplateStore

end GoCleanArch
