import ApiBoilerplate.Queue.Transport
import ApiBoilerplate.Scheduler.Runner

/-!
# The jobs of the application

Mails and heartbeats, the registry that a worker finds their handlers in and the schedule
that heartbeats are dispatched by. How a job becomes a JSON value and is read back is left
to the derived code, and the mail library answers for itself.
-/

namespace ApiBoilerplate.Jobs

structure Mail where
  to_ : String
  subject : String
  text : String
  html : Option String
  deriving DecidableEq, Repr

/-- How the sending of a message ends. The server may have taken a message although its
reply is lost, which the library reports as an error like any other. -/
inductive Transmission where
  | accepted
  | takenUnconfirmed
  | refused
  deriving DecidableEq, Repr

/-- What the mail library answers. Its errors are only seen through their contexts. -/
structure Lettre (Mailbox Message : Type) where
  parse : String → Option Mailbox
  plain : Mailbox → Mailbox → String → String → Option Message
  multipart : Mailbox → Mailbox → String → String → String → Option Message
  send : Message → Transmission

structure EmailClient (Mailbox Message : Type) where
  mailer : Lettre Mailbox Message
  fromAddress : String
  fromName : String

section Client
variable {Mailbox Message : Type}

/-- `with_context`. -/
def context {α : Type} (text : String) : Option α → Except String α
  | some a => .ok a
  | none => .error text

namespace EmailClient

def message (client : EmailClient Mailbox Message) (mail : Mail) : Except String Message := do
  let from_ ← context "Invalid from address"
    (client.mailer.parse (client.fromName ++ " <" ++ client.fromAddress ++ ">"))
  let toAddr ← context "Invalid to address" (client.mailer.parse mail.to_)
  match mail.html with
  | some htmlBody =>
    context "Failed to build multipart email"
      (client.mailer.multipart from_ toAddr mail.subject mail.text htmlBody)
  | none =>
    context "Failed to build plain-text email"
      (client.mailer.plain from_ toAddr mail.subject mail.text)

def send (client : EmailClient Mailbox Message) (mail : Mail) : Except String Unit := do
  let email ← client.message mail
  match client.mailer.send email with
  | .accepted => pure ()
  | .takenUnconfirmed | .refused => throw "SMTP send failed"

/-- Every way `send` may fail. -/
def reasons : List String :=
  ["Invalid from address", "Invalid to address", "Failed to build multipart email",
    "Failed to build plain-text email", "SMTP send failed"]

theorem context_bind_error {α β : Type} {text e : String} {o : Option α}
    {next : α → Except String β} (failed : context text o >>= next = .error e) :
    e = text ∨ ∃ a, next a = .error e := by
  cases o with
  | some a => exact Or.inr ⟨a, failed⟩
  | none => exact Or.inl (Except.error.inj failed).symm

theorem context_error {α : Type} {text e : String} {o : Option α}
    (failed : context text o = .error e) : e = text := by
  cases o with
  | some a => cases failed
  | none => exact (Except.error.inj failed).symm

theorem message_error {client : EmailClient Mailbox Message} {mail : Mail} {e : String}
    (failed : client.message mail = .error e) : e ∈ reasons := by
  unfold message at failed
  obtain rfl | ⟨from_, failed⟩ := context_bind_error failed
  · decide
  obtain rfl | ⟨toAddr, failed⟩ := context_bind_error failed
  · decide
  split at failed
  · rw [context_error failed]
    decide
  · rw [context_error failed]
    decide

theorem send_error {client : EmailClient Mailbox Message} {mail : Mail} {e : String}
    (failed : client.send mail = .error e) : e ∈ reasons := by
  unfold send at failed
  cases built : client.message mail with
  | error e' =>
    rw [built] at failed
    obtain rfl := Except.error.inj failed
    exact message_error built
  | ok email =>
    rw [built] at failed
    cases ended : client.mailer.send email with
    | accepted => simp [bind, Except.bind, ended, pure, Except.pure] at failed
    | takenUnconfirmed | refused =>
      simp only [bind, Except.bind, ended] at failed
      obtain rfl := Except.error.inj failed
      decide

end EmailClient
end Client

/-- What the jobs read of their context. -/
structure JobContext (Mailbox Message : Type) where
  email : Option (EmailClient Mailbox Message)

structure EmailJob where
  type : String
  to_ : String
  subject : String
  body : String
  html : Option String
  deriving DecidableEq, Repr

structure HeartbeatJob where
  type : String
  scheduledAt : DateTime
  deriving DecidableEq, Repr

variable {Mailbox Message : Type}

namespace EmailJob

def jobType : String := "email"

def new (to_ subject body : String) : EmailJob := ⟨jobType, to_, subject, body, none⟩

def withHtml (job : EmailJob) (html : String) : EmailJob := { job with html := some html }

/-- The arguments of `send`. -/
def mail (job : EmailJob) : Mail := ⟨job.to_, job.subject, job.body, job.html⟩

def notConfigured : String :=
  "Email client is not configured — set email.enabled = true in config"

def execute (job : EmailJob) (ctx : JobContext Mailbox Message) : Except QueueError Unit :=
  match ctx.email with
  | none => .error (.execution notConfigured)
  | some client => (client.send job.mail).mapError fun e => .execution ("Email send failed: " ++ e)

/-- A mail job is done exactly when the client reports its mail as sent. -/
theorem execute_ok_iff {job : EmailJob} {ctx : JobContext Mailbox Message} :
    job.execute ctx = .ok () ↔
      ∃ client, ctx.email = some client ∧ client.send job.mail = .ok () := by
  unfold execute
  cases configured : ctx.email with
  | none => exact iff_of_false nofun (by rintro ⟨_, ⟨⟩, _⟩)
  | some client =>
    dsimp only
    cases sent : client.send job.mail with
    | ok => exact iff_of_true rfl ⟨client, rfl, sent⟩
    | error e =>
      refine iff_of_false nofun ?_
      rintro ⟨_, ⟨⟩, same⟩
      cases sent.symm.trans same

/-- There is no mail client, or it could not send. -/
def Failure (e : QueueError) : Prop :=
  e = .execution notConfigured ∨
    ∃ reason ∈ EmailClient.reasons, e = .execution ("Email send failed: " ++ reason)

theorem execute_error {job : EmailJob} {ctx : JobContext Mailbox Message} {e : QueueError}
    (failed : job.execute ctx = .error e) : Failure e := by
  unfold execute at failed
  cases configured : ctx.email with
  | none =>
    rw [configured] at failed
    exact Or.inl (Except.error.inj failed).symm
  | some client =>
    rw [configured] at failed
    cases sent : client.send job.mail with
    | ok =>
      simp only [sent] at failed
      cases failed
    | error reason =>
      simp only [sent] at failed
      exact Or.inr ⟨reason, EmailClient.send_error sent, (Except.error.inj failed).symm⟩

end EmailJob

namespace HeartbeatJob

def jobType : String := "heartbeat"

def new (now : DateTime) : HeartbeatJob := ⟨jobType, now⟩

def execute (_job : HeartbeatJob) (_ctx : JobContext Mailbox Message) : Except QueueError Unit :=
  .ok ()

end HeartbeatJob

/-- The derived code of the two types. -/
structure Serde where
  emailToValue : EmailJob → Except String Json
  emailFromValue : Json → Except String EmailJob
  heartbeatToValue : HeartbeatJob → Except String Json
  heartbeatFromValue : Json → Except String HeartbeatJob

/-- What is serialised has the field `type` of the job, and is read back. -/
structure Serde.Faithful (serde : Serde) : Prop where
  email : ∀ job value, serde.emailToValue job = .ok value →
    value.typeField = some job.type ∧ serde.emailFromValue value = .ok job
  heartbeat : ∀ job value, serde.heartbeatToValue job = .ok value →
    value.typeField = some job.type ∧ serde.heartbeatFromValue value = .ok job

inductive AppJob where
  | email (job : EmailJob)
  | heartbeat (job : HeartbeatJob)

namespace AppJob

def toValue (serde : Serde) : AppJob → Except String Json
  | .email job => serde.emailToValue job
  | .heartbeat job => serde.heartbeatToValue job

/-- The field `type` is that of the constructors. -/
def Made : AppJob → Prop
  | .email job => job.type = EmailJob.jobType
  | .heartbeat job => job.type = HeartbeatJob.jobType

end AppJob

section Registry
variable (serde : Serde)

def emailJob : RegisteredJob (JobContext Mailbox Message) :=
  ⟨EmailJob, EmailJob.jobType, serde.emailFromValue, EmailJob.execute⟩

def heartbeatJob : RegisteredJob (JobContext Mailbox Message) :=
  ⟨HeartbeatJob, HeartbeatJob.jobType, serde.heartbeatFromValue, HeartbeatJob.execute⟩

def buildRegistry : JobRegistry (JobContext Mailbox Message) :=
  (JobRegistry.new.register (emailJob serde)).register (heartbeatJob serde)

/-- `build_dispatcher` and the worker of `bootstrap::worker::run`. -/
def jobApp (maxRetries : UInt32) (retryDelaySeconds : UInt64) :
    JobApp AppJob (JobContext Mailbox Message) where
  dispatcher := ⟨maxRetries⟩
  toValue := AppJob.toValue serde
  jobs := [emailJob serde, heartbeatJob serde]
  retryDelaySeconds := retryDelaySeconds

variable {serde} {maxRetries : UInt32} {retryDelaySeconds : UInt64}

theorem jobApp_registry : (jobApp serde maxRetries retryDelaySeconds :
    JobApp AppJob (JobContext Mailbox Message)).registry = buildRegistry serde := rfl

theorem call_email {envelope : JobEnvelope Json} (type : envelope.jobType = EmailJob.jobType)
    (ctx : JobContext Mailbox Message) :
    (buildRegistry serde).call envelope ctx = (emailJob serde).handler envelope.payload ctx := by
  have last : JobRegistry.Last [emailJob serde, heartbeatJob serde]
      (emailJob serde : RegisteredJob (JobContext Mailbox Message)) := by
    refine ⟨[], [heartbeatJob serde], rfl, fun later listed => ?_⟩
    obtain rfl := List.mem_singleton.mp listed
    change HeartbeatJob.jobType ≠ EmailJob.jobType
    decide
  exact JobRegistry.call_of_last last type.symm ctx

theorem call_heartbeat {envelope : JobEnvelope Json}
    (type : envelope.jobType = HeartbeatJob.jobType) (ctx : JobContext Mailbox Message) :
    (buildRegistry serde).call envelope ctx =
      (heartbeatJob serde).handler envelope.payload ctx := by
  have last : JobRegistry.Last [emailJob serde, heartbeatJob serde]
      (heartbeatJob serde : RegisteredJob (JobContext Mailbox Message)) :=
    ⟨[emailJob serde], [], rfl, nofun⟩
  exact JobRegistry.call_of_last last type.symm ctx

end Registry

section Schedule
variable {Schedule : Type}

/-- An entry of the schedule; the payload is built anew each time. -/
structure ScheduledPayload (Schedule : Type) extends Scheduler.CronEntry Schedule where
  buildPayload : DateTime → Except QueueError Json

/-- `CronRegistry`, with the library that reads cron expressions. -/
def register (parse : String → Option Schedule) (entries : List (ScheduledPayload Schedule))
    (jobType expr : String) (factory : DateTime → Except String Json) :
    Except String (List (ScheduledPayload Schedule)) :=
  match parse expr with
  | none => .error
    ("invalid cron expression '" ++ expr ++ "' for scheduled job '" ++ jobType ++ "'")
  | some schedule => .ok (entries ++
    [⟨⟨jobType, expr, schedule⟩, fun now => (factory now).mapError .serialization⟩])

def buildSchedule (parse : String → Option Schedule) (serde : Serde) :
    Except String (List (ScheduledPayload Schedule)) :=
  register parse [] HeartbeatJob.jobType "0 */5 * * * *"
    fun now => serde.heartbeatToValue (HeartbeatJob.new now)

/-- What is scheduled are heartbeats. -/
theorem buildSchedule_payload {parse : String → Option Schedule} {serde : Serde}
    {entries : List (ScheduledPayload Schedule)} (built : buildSchedule parse serde = .ok entries)
    {entry : ScheduledPayload Schedule} (listed : entry ∈ entries) {now : DateTime} {value : Json}
    (payload : entry.buildPayload now = .ok value) :
    serde.heartbeatToValue (HeartbeatJob.new now) = .ok value := by
  unfold buildSchedule register at built
  split at built
  · cases built
  · obtain rfl := Except.ok.inj built
    obtain rfl := List.mem_singleton.mp listed
    dsimp only at payload
    cases made : serde.heartbeatToValue (HeartbeatJob.new now) with
    | error e =>
      rw [made] at payload
      cases payload
    | ok value' =>
      rw [made] at payload
      exact congrArg _ (Except.ok.inj payload)

end Schedule

end ApiBoilerplate.Jobs
