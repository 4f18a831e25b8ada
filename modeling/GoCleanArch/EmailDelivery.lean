import GoCleanArch.EmailLogs
import Mathlib.Data.List.Forall2
import Mathlib.Data.List.Nodup

/-!
What the email log table says about the messages the client was handed. Every
send writes at most one row and hands the client at most one message, and the row
it leaves records that message: its recipients, `success` exactly when the client
accepted it, the client's error text when it refused, and neither headers nor
data, which `JSONB.Scan` never takes from a map. Run one at a time from an empty
table, the calls keep the table an exact record of the outbox
(`email_log_records_outbox`), and SendBulkEmail returns exactly the rows it adds
(`bulk_email_logs_appended`).

Against that record, `GetEmailStats` counts every sent message and every accepted
one, but never a failed or pending one (`email_stats_miss_failures`).
-/

namespace GoCleanArch

namespace EmailState

-- Ids distinct and below the counter.
structure WellFormed (s : EmailState) : Prop where
  bounded : ∀ l ∈ s.logs, l.id < s.nextID
  idsNodup : (s.logs.map (·.id)).Nodup

-- The row a send leaves for a message it handed the client.
structure Records (log : EmailLog) (sent : Message × Option String) : Prop where
  toEmails : log.toEmails = sent.1.toEmails
  ccEmails : log.ccEmails = sent.1.ccEmails
  bccEmails : log.bccEmails = sent.1.bccEmails
  totalRecipients :
    log.totalRecipients = sent.1.toEmails.length + sent.1.ccEmails.length + sent.1.bccEmails.length
  status : log.status = if sent.2.isSome then emailStatusFailed else emailStatusSuccess
  errorMsg : log.errorMsg = sent.2.getD ""
  headers : log.headers = none
  data : log.data = none
  messageHeaders : sent.1.headers = []

-- A send that wrote one row, with a fresh id, and handed the client one message,
-- which the row records.
structure Appends (s s' : EmailState) (log : EmailLog) : Prop where
  logs : s'.logs = s.logs ++ [log]
  fresh : log.id = s.nextID
  nextID : s'.nextID = s.nextID + 1
  templates : s'.templates = s.templates
  outbox : ∃ sent, s'.outbox = s.outbox ++ [sent] ∧ Records log sent

-- What one send may leave: nothing at all, or one new row, which it returns.
def SendsOne (s : EmailState) (r : SendResult × EmailState) : Prop :=
  (r.1.log? = none ∧ r.2 = s) ∨ ∃ log, r.1.log? = some log ∧ Appends s r.2 log

-- The table records the outbox, row for message and in order.
structure Faithful (s : EmailState) : Prop where
  wellFormed : s.WellFormed
  records : List.Forall₂ Records s.logs s.outbox

/-! ### One send -/

theorem update_last {rows : List EmailLog} {last new : EmailLog} (older : ∀ r ∈ rows, r.id < new.id)
    (sameID : last.id = new.id) :
    SQLHandler.update (rows ++ [last]) new (fun _ new => new) = rows ++ [new] := by
  have found : (rows ++ [last]).any (fun r => r.id == new.id) = true := by simp [sameID]
  simp only [SQLHandler.update, sqlModel_id_emailLog, found, if_true, List.map_append,
    List.map_singleton, sameID, eq_self_iff_true]
  congr 1
  exact (List.map_congr_left fun r member => by
    simp [Nat.ne_of_lt (older r member)]).trans (List.map_id rows)

theorem Appends.wellFormed {s s' : EmailState} {log : EmailLog} (appends : Appends s s' log)
    (wf : s.WellFormed) : s'.WellFormed := by
  have above : s.nextID ∉ s.logs.map (·.id) := fun present => by
    obtain ⟨l, member, same⟩ := List.mem_map.mp present
    exact absurd (wf.bounded l member) (by omega)
  refine ⟨fun l member => ?_, ?_⟩
  · rw [appends.logs] at member
    rcases List.mem_append.mp member with old | new
    · exact appends.nextID ▸ Nat.lt_succ_of_lt (wf.bounded l old)
    · rw [List.mem_singleton.mp new, appends.fresh, appends.nextID]
      exact Nat.lt_succ_self _
  · rw [appends.logs, List.map_append, List.map_singleton, appends.fresh]
    exact List.nodup_append.mpr ⟨wf.idsNodup, List.nodup_singleton _,
      List.disjoint_singleton.mpr above⟩

theorem Appends.faithful {s s' : EmailState} {log : EmailLog} (appends : Appends s s' log)
    (faithful : s.Faithful) : s'.Faithful := by
  obtain ⟨sent, outbox, recorded⟩ := appends.outbox
  refine ⟨appends.wellFormed faithful.wellFormed, ?_⟩
  rw [appends.logs, outbox]
  exact List.rel_append faithful.records (.cons recorded .nil)

theorem Appends.retag {s s' : EmailState} {log : EmailLog} (appends : Appends s s' log)
    (wf : s.WellFormed) (template : String) :
    Appends s (s'.saveLog { log with template := template }) { log with template := template } := by
  obtain ⟨sent, outbox, recorded⟩ := appends.outbox
  refine ⟨?_, appends.fresh, appends.nextID, appends.templates, ⟨sent, outbox, ?_⟩⟩
  · simp only [saveLog, appends.logs]
    exact update_last (fun r member => appends.fresh ▸ wf.bounded r member) rfl
  · exact { recorded with }

theorem SendsOne.faithful {s : EmailState} {r : SendResult × EmailState} (one : SendsOne s r)
    (faithful : s.Faithful) : r.2.Faithful := by
  rcases one with ⟨_, same⟩ | ⟨_, _, appends⟩
  · exact same ▸ faithful
  · exact appends.faithful faithful

theorem SendsOne.logs {s : EmailState} {r : SendResult × EmailState} (one : SendsOne s r) :
    r.2.logs = s.logs ++ r.1.log?.toList := by
  rcases one with ⟨nothing, same⟩ | ⟨log, returned, appends⟩
  · simp [nothing, same]
  · simp [returned, appends.logs]

theorem sendEmail_of_headers (env : EmailEnv) (s : EmailState) {req : SendEmailRequest}
    (headers : req.headers ≠ []) (now : Int) :
    s.sendEmail env req now = (.failed none errEmailSendFailed, s) := by
  have full : req.headers.isEmpty = false := by simpa using headers
  simp [sendEmail, full, JSONB.scanMap, Except.map]

theorem sendEmail_sendsOne (env : EmailEnv) {s : EmailState} (wf : s.WellFormed)
    (req : SendEmailRequest) (now : Int) : SendsOne s (s.sendEmail env req now) := by
  by_cases headers : req.headers = []
  · right
    cases answer : env.send s.outbox.length req.message with
    | none =>
        let log := { req.pendingLog none with
          id := s.nextID, status := emailStatusSuccess, sentAt := unixMilli now }
        have result : s.sendEmail env req now = (.sent log,
            ⟨s.logs ++ [log], s.nextID + 1, s.templates, s.outbox ++ [(req.message, none)]⟩) := by
          simp [sendEmail, headers, answer, deliver, createLog, saveLog, log]
          exact update_last wf.bounded rfl
        rw [result]
        exact ⟨log, rfl, rfl, rfl, rfl, rfl, ⟨_, rfl,
          by constructor <;> simp [log, headers, SendEmailRequest.pendingLog, SendEmailRequest.message]⟩⟩
    | some err =>
        let log := { req.pendingLog none with
          id := s.nextID, status := emailStatusFailed, errorMsg := err }
        have result : s.sendEmail env req now = (.failed (some log) errEmailSendFailed,
            ⟨s.logs ++ [log], s.nextID + 1, s.templates, s.outbox ++ [(req.message, some err)]⟩) := by
          simp [sendEmail, headers, answer, deliver, createLog, saveLog, log]
          exact update_last wf.bounded rfl
        rw [result]
        exact ⟨log, rfl, rfl, rfl, rfl, rfl, ⟨_, rfl,
          by constructor <;> simp [log, headers, SendEmailRequest.pendingLog, SendEmailRequest.message]⟩⟩
  · exact .inl (by simp [sendEmail_of_headers env s headers now, SendResult.log?])

-- SendEmailWithTemplate adds to SendEmail only the template name: the data's
-- `Scan` fails and leaves the row's data as it was.
theorem sendEmailWithTemplate_sendsOne (env : EmailEnv) {s : EmailState} (wf : s.WellFormed)
    (req : SendEmailWithTemplateRequest) (now : Int) :
    SendsOne s (s.sendEmailWithTemplate env req now) := by
  unfold sendEmailWithTemplate
  split
  · exact .inl ⟨rfl, rfl⟩
  split
  · exact .inl ⟨rfl, rfl⟩
  split
  · exact .inl ⟨rfl, rfl⟩
  dsimp only
  split
  next log e s' sent => exact sent ▸ sendEmail_sendsOne env wf _ now
  next log s' sent =>
    have one : SendsOne s (.sent log, s') := sent ▸ sendEmail_sendsOne env wf _ now
    obtain ⟨_, returned, appends⟩ := one.resolve_left (by simp [SendResult.log?])
    cases Option.some.inj returned
    refine .inr ⟨_, rfl, ?_⟩
    simpa only [JSONB.scanMap, ite_self] using appends.retag wf req.templateCode

theorem resendEmail_sendsOne (env : EmailEnv) {s : EmailState} (wf : s.WellFormed)
    (emailLogID : Nat) (now : Int) : SendsOne s (s.resendEmail env emailLogID now) := by
  unfold resendEmail
  split
  · exact .inl ⟨rfl, rfl⟩
  split
  · exact sendEmailWithTemplate_sendsOne env wf _ now
  · exact sendEmail_sendsOne env wf _ now

/-! ### Whole calls and runs -/

-- SendBulkEmail's loop so far, from `s`: the table records the outbox, and the
-- rows added are the logs collected.
def Collected (s : EmailState) (acc : List EmailLog × EmailState) : Prop :=
  acc.2.Faithful ∧ acc.2.logs = s.logs ++ acc.1

theorem Collected.bulkStep {s : EmailState} {acc : List EmailLog × EmailState} (kept : Collected s acc)
    (env : EmailEnv) (req : SendBulkEmailRequest) (now : Int) (recipient : BulkEmailRecipient) :
    Collected s (EmailState.bulkStep env req now acc recipient) := by
  have one := sendEmailWithTemplate_sendsOne env kept.1.wellFormed (req.recipientRequest recipient) now
  refine ⟨one.faithful kept.1, ?_⟩
  simp only [EmailState.bulkStep]
  rw [one.logs, kept.2, List.append_assoc]

theorem Collected.foldl {s : EmailState} (env : EmailEnv) (req : SendBulkEmailRequest) (now : Int) :
    ∀ (recipients : List BulkEmailRecipient) {acc : List EmailLog × EmailState}, Collected s acc →
      Collected s (recipients.foldl (EmailState.bulkStep env req now) acc)
  | [], _, kept => kept
  | recipient :: rest, _, kept => Collected.foldl env req now rest (kept.bulkStep env req now recipient)

theorem sendBulkEmail_collected (env : EmailEnv) {s : EmailState} (faithful : s.Faithful)
    (req : SendBulkEmailRequest) (now : Int) : Collected s (s.sendBulkEmail env req now) :=
  Collected.foldl env req now req.recipients ⟨faithful, (List.append_nil _).symm⟩

theorem apply_faithful (env : EmailEnv) {s : EmailState} (faithful : s.Faithful) (now : Int) :
    ∀ op, (s.apply env now op).2.Faithful
  | .sendEmail req => (sendEmail_sendsOne env faithful.wellFormed req now).faithful faithful
  | .sendEmailWithTemplate req =>
      (sendEmailWithTemplate_sendsOne env faithful.wellFormed req now).faithful faithful
  | .sendBulkEmail req => (sendBulkEmail_collected env faithful req now).1
  | .resendEmail emailLogID =>
      (resendEmail_sendsOne env faithful.wellFormed emailLogID now).faithful faithful

theorem serve_faithful (env : EmailEnv) :
    ∀ (ops : List (EmailOp × Int)) {s : EmailState}, s.Faithful → (s.serve env ops).2.Faithful
  | [], _, faithful => faithful
  | (op, now) :: rest, _, faithful => serve_faithful env rest (apply_faithful env faithful now op)

theorem init_faithful (templates : TemplateStore) : (init templates).Faithful :=
  ⟨⟨by simp [init], by simp [init]⟩, .nil⟩

theorem email_log_records_outbox (env : EmailEnv) (templates : TemplateStore)
    (ops : List (EmailOp × Int)) :
    List.Forall₂ Records ((init templates).serve env ops).2.logs ((init templates).serve env ops).2.outbox :=
  (serve_faithful env ops (init_faithful templates)).records

theorem bulk_email_logs_appended (env : EmailEnv) {s : EmailState} (faithful : s.Faithful)
    (req : SendBulkEmailRequest) (now : Int) :
    (s.sendBulkEmail env req now).2.logs = s.logs ++ (s.sendBulkEmail env req now).1 ∧
      (s.sendBulkEmail env req now).2.outbox.length = s.outbox.length + (s.sendBulkEmail env req now).1.length := by
  obtain ⟨faithful', logs⟩ := sendBulkEmail_collected env faithful req now
  refine ⟨logs, ?_⟩
  rw [← faithful'.records.length_eq, logs, List.length_append, faithful.records.length_eq]

theorem bulk_email_logs_appended_welcome :
    let env : EmailEnv := ⟨fun n _ => if n = 0 then none else some "mailbox full",
      fun t _ => .ok (t.subject, t.content)⟩
    let s := init ⟨[⟨1, "welcome", "Welcome", "Hi", "Hello", true, "", "en", 0⟩], 2⟩
    let req : SendBulkEmailRequest :=
      ⟨[⟨"a@example.com", []⟩, ⟨"b@example.com", []⟩], "welcome", "", "ses", "r1"⟩
    (s.sendBulkEmail env req 0).2.logs = s.logs ++ (s.sendBulkEmail env req 0).1 ∧
      (s.sendBulkEmail env req 0).2.outbox.length = s.outbox.length + (s.sendBulkEmail env req 0).1.length :=
  bulk_email_logs_appended _ (init_faithful _) _ _

/-! ### Statistics -/

theorem countWhere_two_statuses (logs : List EmailLog) (conditions more : List (EmailLog → Bool))
    {a b : String} (apart : a ≠ b) :
    countWhere logs (conditions ++ [fun l => l.status == a] ++ [fun l => l.status == b] ++ more) = 0 := by
  simp only [countWhere, List.length_eq_zero, List.filter_eq_nil_iff, List.all_append, List.all_cons,
    List.all_nil, Bool.and_true, Bool.and_eq_true, beq_iff_eq, not_and]
  intro l _ ⟨⟨_, first⟩, second⟩ _
  exact apart (first.symm.trans second)

theorem getStats_failed_pending (logs : List EmailLog) (filter : EmailStatsFilter) :
    (getStats logs filter).totalFailed = 0 ∧ (getStats logs filter).totalPending = 0 := by
  have apart : emailStatusSuccess ≠ emailStatusFailed := by decide
  have failed := countWhere_two_statuses logs filter.conditions [] apart
  rw [List.append_nil] at failed
  exact ⟨failed, countWhere_two_statuses logs _ _ apart⟩

-- With no filter, GetStats on a faithful table counts every message and every
-- accepted one.
theorem Faithful.unfilteredStats {s : EmailState} (faithful : s.Faithful) :
    getStats s.logs ⟨none, none, none, none, none⟩ =
      ⟨s.outbox.length, (s.outbox.filter (·.2.isNone)).length, 0, 0⟩ := by
  have success : List.Forall₂ Records
      (s.logs.filter fun l => (EmailStatsFilter.conditions ⟨none, none, none, none, none⟩ ++
        [fun (l : EmailLog) => l.status == emailStatusSuccess]).all fun c => c l)
      (s.outbox.filter (·.2.isNone)) :=
    List.rel_filter (fun _ sent recorded => by
      cases answer : sent.2 <;>
        simp [EmailStatsFilter.conditions, recorded.status, answer, emailStatusFailed, emailStatusSuccess])
      faithful.records
  obtain ⟨failed, pending⟩ := getStats_failed_pending s.logs ⟨none, none, none, none, none⟩
  simp only [getStats, EmailStats.mk.injEq]
  exact ⟨by simpa [countWhere, EmailStatsFilter.conditions] using faithful.records.length_eq,
    success.length_eq, failed, pending⟩

-- Over any run, the unfiltered statistics count every message and every accepted one
-- and no failure; and for any table and any filter the failed and pending counts are 0.
theorem email_stats_miss_failures (env : EmailEnv) (templates : TemplateStore)
    (ops : List (EmailOp × Int)) :
    getStats ((init templates).serve env ops).2.logs ⟨none, none, none, none, none⟩ =
      ⟨((init templates).serve env ops).2.outbox.length,
        (((init templates).serve env ops).2.outbox.filter (·.2.isNone)).length, 0, 0⟩ ∧
    ∀ logs filter, (getStats logs filter).totalFailed = 0 ∧ (getStats logs filter).totalPending = 0 :=
  ⟨(serve_faithful env ops (init_faithful templates)).unfilteredStats, getStats_failed_pending⟩

end EmailState

end GoCleanArch
