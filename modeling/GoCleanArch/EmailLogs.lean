import GoCleanArch.EmailTemplates

/-!
The sending side of `emailUsecase` (part_007): `SendEmail`, `SendEmailWithTemplate`,
`SendBulkEmail`, `ResendEmail` and `GetEmailStats`, over the email log table of
`EmailLogRepository` and the template table of EmailTemplates.

`EmailLog.Headers` and `EmailLog.Data` are `domain.JSONB`, whose `Scan` asserts its
input to `[]byte` and fails on anything else. SendEmail hands it the request's
`map[string]string` and SendEmailWithTemplate its `map[string]interface{}`, so
`JSONB.scanMap` fails whatever the map holds. ResendEmail reads a log's data back
by `json.Unmarshal` of its `%v` text, `map[...]`, which is not JSON: Unmarshal
rejects it before it assigns anything, and the resend has no data.

The email client is given by its answer to the n-th message it is handed, nil or
an error's text, and the renderer by a function of the template and the data;
the outbox is every message handed to the client with the client's answer.
Repository calls fail only where the table's contents make them fail, as in
AuthDomain. A call runs at one instant, the `SentAt` of each log it sends.
`GetEmailStats` counts with one gorm statement to which each `Where` adds its
condition. Template data values are kept as text: only the renderer reads them.
-/

namespace GoCleanArch

def emailStatusSuccess : String := "success"
def emailStatusFailed : String := "failed"
def emailStatusPending : String := "pending"

def errEmailSendFailed : DetailedError := ⟨"EMAIL_SEND_FAILED", 500, "Failed to send email"⟩

abbrev Fields := List (String × String)

-- `(*JSONB).Scan` of a map: `input.([]byte)` fails, and so does the call.
def JSONB.scanMap (_ : Fields) : Except String Fields := .error "type assertion to []byte failed"

-- `json.Unmarshal([]byte(fmt.Sprintf("%v", data)), &templateData)`: `%v` writes a map as
-- `map[k:v ...]`, whose first byte is no JSON value, so `templateData` stays nil.
def resendData (_ : Option Fields) : Fields := []

structure EmailAttachment where
  filename : String
  content : List UInt8
  contentType : String
  inline : Bool
  contentID : String
  deriving DecidableEq, Repr

-- `email.Message` as SendEmail builds it.
structure Message where
  fromAddr : String
  toEmails : List String
  ccEmails : List String
  bccEmails : List String
  subject : String
  text : String
  html : String
  attachments : List EmailAttachment
  headers : Fields
  deriving DecidableEq, Repr

-- `domain.EmailLog`; the default value is Go's zero struct, and a nil JSONB is `none`.
structure EmailLog where
  id : Nat
  toEmails : List String
  ccEmails : List String
  bccEmails : List String
  subject : String
  content : String
  template : String
  data : Option Fields
  status : String
  errorMsg : String
  sentAt : Int
  requestID : String
  headers : Option Fields
  provider : String
  totalRecipients : Nat
  contentType : String
  attachmentCount : Nat
  messageSize : Nat
  deletedAt : Int
  deriving DecidableEq, Repr, Inhabited

instance : SQLModel EmailLog where
  id := EmailLog.id
  deletedAt := EmailLog.deletedAt
  withDeletedAt row stamp := { row with deletedAt := stamp }
  id_withDeletedAt _ _ := rfl

@[simp] theorem sqlModel_id_emailLog (row : EmailLog) : SQLModel.id row = row.id := rfl

@[simp] theorem default_emailLog_errorMsg : (default : EmailLog).errorMsg = "" := rfl

@[simp] theorem default_emailLog_data : (default : EmailLog).data = none := rfl

@[simp] theorem default_emailLog_template : (default : EmailLog).template = "" := rfl

structure SendEmailRequest where
  toEmails : List String
  ccEmails : List String
  bccEmails : List String
  subject : String
  content : String
  contentType : String
  attachments : List EmailAttachment
  headers : Fields
  provider : String
  requestID : String

structure SendEmailWithTemplateRequest where
  toEmails : List String
  ccEmails : List String
  bccEmails : List String
  templateCode : String
  locale : String
  data : Fields
  attachments : List EmailAttachment
  headers : Fields
  provider : String
  requestID : String

structure BulkEmailRecipient where
  toEmail : String
  data : Fields

structure SendBulkEmailRequest where
  recipients : List BulkEmailRecipient
  templateCode : String
  locale : String
  provider : String
  requestID : String

-- The request SendBulkEmail builds for one recipient.
def SendBulkEmailRequest.recipientRequest (req : SendBulkEmailRequest) (recipient : BulkEmailRecipient) :
    SendEmailWithTemplateRequest :=
  ⟨[recipient.toEmail], [], [], req.templateCode, req.locale, recipient.data, [], [], req.provider,
    req.requestID⟩

structure EmailEnv where
  send : Nat → Message → Option String
  render : EmailTemplate → Fields → Except String (String × String)

structure EmailState where
  logs : List EmailLog
  nextID : Nat
  templates : TemplateStore
  outbox : List (Message × Option String)

-- What `SendEmail` and its callers return: a log and no error, or an error with
-- the log written so far, if any.
inductive SendResult where
  | sent (log : EmailLog)
  | failed (log : Option EmailLog) (e : DetailedError)

def SendResult.log? : SendResult → Option EmailLog
  | .sent log => some log
  | .failed log _ => log

namespace SendEmailRequest

def message (req : SendEmailRequest) : Message :=
  ⟨"demo@example.com", req.toEmails, req.ccEmails, req.bccEmails, req.subject,
    if req.contentType = "text/html" then "" else req.content,
    if req.contentType = "text/html" then req.content else "", req.attachments, req.headers⟩

-- The log SendEmail writes first, before it hands the message to the client.
def pendingLog (req : SendEmailRequest) (headers : Option Fields) : EmailLog :=
  { (default : EmailLog) with
    toEmails := req.toEmails, ccEmails := req.ccEmails, bccEmails := req.bccEmails,
    subject := req.subject, content := req.content,
    status := emailStatusPending, requestID := req.requestID, headers := headers,
    provider := req.provider, totalRecipients := req.toEmails.length + req.ccEmails.length + req.bccEmails.length,
    contentType := req.contentType, attachmentCount := req.attachments.length,
    messageSize := req.content.utf8ByteSize }

end SendEmailRequest

namespace EmailState

def createLog (s : EmailState) (log : EmailLog) : EmailLog × EmailState :=
  let created := { log with id := s.nextID }
  (created, { s with logs := s.logs ++ [created], nextID := s.nextID + 1 })

def saveLog (s : EmailState) (log : EmailLog) : EmailState :=
  { s with logs := SQLHandler.update s.logs log (fun _ new => new) }

def deliver (env : EmailEnv) (s : EmailState) (message : Message) : Option String × EmailState :=
  let answer := env.send s.outbox.length message
  (answer, { s with outbox := s.outbox ++ [(message, answer)] })

def sendEmail (env : EmailEnv) (s : EmailState) (req : SendEmailRequest) (now : Int) :
    SendResult × EmailState :=
  let scanned : Except String (Option Fields) :=
    if req.headers.isEmpty then .ok none else (JSONB.scanMap req.headers).map some
  match scanned with
  | .error _ => (.failed none errEmailSendFailed, s)
  | .ok headers =>
      let created := s.createLog (req.pendingLog headers)
      let delivered := created.2.deliver env req.message
      match delivered.1 with
      | some err =>
          let log := { created.1 with status := emailStatusFailed, errorMsg := err }
          (.failed (some log) errEmailSendFailed, delivered.2.saveLog log)
      | none =>
          let log := { created.1 with status := emailStatusSuccess, sentAt := unixMilli now }
          (.sent log, delivered.2.saveLog log)

def sendEmailWithTemplate (env : EmailEnv) (s : EmailState) (req : SendEmailWithTemplateRequest)
    (now : Int) : SendResult × EmailState :=
  match s.templates.findByCodeAndLocale req.templateCode (localeOrDefault req.locale) with
  | .error _ => (.failed none (errNotFound.withError "email template not found"), s)
  | .ok template =>
      if !template.isActive then
        (.failed none (errNotFound.withError "email template is not active"), s)
      else
        match env.render template req.data with
        | .error _ => (.failed none (errEmailSendFailed.withError "failed to render template"), s)
        | .ok (subject, content) =>
            let sendReq : SendEmailRequest := ⟨req.toEmails, req.ccEmails, req.bccEmails, subject, content,
              "text/html", req.attachments, req.headers, req.provider, req.requestID⟩
            match s.sendEmail env sendReq now with
            | (.failed log e, s) => (.failed log e, s)
            | (.sent log, s) =>
                let data := if req.data.isEmpty then log.data else
                  match JSONB.scanMap req.data with
                  | .ok data => some data
                  | .error _ => log.data
                let log := { log with template := req.templateCode, data := data }
                (.sent log, s.saveLog log)

-- One turn of SendBulkEmail's loop: the recipient's own request, whose log is kept
-- whenever there is one, failed or not.
def bulkStep (env : EmailEnv) (req : SendBulkEmailRequest) (now : Int)
    (acc : List EmailLog × EmailState) (recipient : BulkEmailRecipient) : List EmailLog × EmailState :=
  let r := acc.2.sendEmailWithTemplate env (req.recipientRequest recipient) now
  (acc.1 ++ r.1.log?.toList, r.2)

-- `SendBulkEmail`: one SendEmailWithTemplate per recipient; its error is always nil.
def sendBulkEmail (env : EmailEnv) (s : EmailState) (req : SendBulkEmailRequest) (now : Int) :
    List EmailLog × EmailState :=
  req.recipients.foldl (bulkStep env req now) ([], s)

-- `ResendEmail`: a template log is sent again from its template, with the default
-- locale and no data; any other log from its subject and content.
def resendEmail (env : EmailEnv) (s : EmailState) (emailLogID : Nat) (now : Int) :
    SendResult × EmailState :=
  match SQLHandler.findByID s.logs emailLogID with
  | (_, some _) => (.failed none errNotFound, s)
  | (original, none) =>
      if original.template ≠ "" then
        s.sendEmailWithTemplate env ⟨original.toEmails, original.ccEmails, original.bccEmails,
          original.template, "",
          resendData original.data, [], [], original.provider, original.requestID⟩ now
      else
        s.sendEmail env ⟨original.toEmails, original.ccEmails, original.bccEmails, original.subject,
          original.content,
          original.contentType, [], [], original.provider, original.requestID⟩ now

end EmailState

/-! ### Calls -/

inductive EmailOp where
  | sendEmail (req : SendEmailRequest)
  | sendEmailWithTemplate (req : SendEmailWithTemplateRequest)
  | sendBulkEmail (req : SendBulkEmailRequest)
  | resendEmail (emailLogID : Nat)

inductive EmailReply where
  | send (result : SendResult)
  | bulk (logs : List EmailLog)

namespace EmailState

def init (templates : TemplateStore) : EmailState := ⟨[], 1, templates, []⟩

def apply (env : EmailEnv) (s : EmailState) (now : Int) : EmailOp → EmailReply × EmailState
  | .sendEmail req => let r := s.sendEmail env req now; (.send r.1, r.2)
  | .sendEmailWithTemplate req => let r := s.sendEmailWithTemplate env req now; (.send r.1, r.2)
  | .sendBulkEmail req => let r := s.sendBulkEmail env req now; (.bulk r.1, r.2)
  | .resendEmail emailLogID => let r := s.resendEmail env emailLogID now; (.send r.1, r.2)

def serve (env : EmailEnv) (s : EmailState) : List (EmailOp × Int) → List EmailReply × EmailState
  | [] => ([], s)
  | (op, now) :: rest =>
      let first := s.apply env now op
      let later := serve env first.2 rest
      (first.1 :: later.1, later.2)

end EmailState

/-! ### Statistics -/

structure EmailStatsFilter where
  provider : Option String
  template : Option String
  status : Option String
  dateFrom : Option Int
  dateTo : Option Int

-- The counts of `domain.EmailStats`; the rates are these counts' quotients.
structure EmailStats where
  totalSent : Nat
  totalSuccess : Nat
  totalFailed : Nat
  totalPending : Nat
  deriving DecidableEq, Repr

-- The conditions the filter's `Where`s put on the statement.
def EmailStatsFilter.conditions (filter : EmailStatsFilter) : List (EmailLog → Bool) :=
  (filter.provider.map fun p (l : EmailLog) => l.provider == p).toList ++
  (filter.template.map fun t (l : EmailLog) => l.template == t).toList ++
  (filter.status.map fun st (l : EmailLog) => l.status == st).toList ++
  (filter.dateFrom.map fun d (l : EmailLog) => decide (d ≤ l.sentAt)).toList ++
  (filter.dateTo.map fun d (l : EmailLog) => decide (l.sentAt ≤ d)).toList

-- `Count` on a statement: the rows that meet all its conditions.
def countWhere (logs : List EmailLog) (conditions : List (EmailLog → Bool)) : Nat :=
  (logs.filter fun l => conditions.all fun c => c l).length

-- `GetStats`: `query` is one statement, not a new session, so each
-- `query.Where(...)` adds its condition to it and the counts after the first see
-- every status condition before them.
def getStats (logs : List EmailLog) (filter : EmailStatsFilter) : EmailStats :=
  let query := filter.conditions
  let totalSent := countWhere logs query
  let query := query ++ [fun l => l.status == emailStatusSuccess]
  let totalSuccess := countWhere logs query
  let query := query ++ [fun l => l.status == emailStatusFailed]
  let totalFailed := countWhere logs query
  let query := query ++ [fun l => l.status == emailStatusPending]
  let totalPending := countWhere logs query
  ⟨totalSent, totalSuccess, totalFailed, totalPending⟩

end GoCleanArch
