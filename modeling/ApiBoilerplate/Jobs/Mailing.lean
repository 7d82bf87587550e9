import ApiBoilerplate.Jobs.Application
import ApiBoilerplate.Queue.Executions

/-!
# Mails are sent once

Jobs are dispatched, queued, executed by any number of workers and retried, while tasks
panic, processes crash and calls fail. A mail job that is completed has had its mail
accepted by the server, no mail is reported as accepted twice, and nothing but the mail
client makes a job fail. A mail that the server has taken without its reply coming
through counts as failed, and is tried again.
-/

namespace ApiBoilerplate.Jobs

open Foundation
open Lifecycle (View Tracking Ledger)

section Jobs
variable {σ ℓ π ρ Place Mailbox Message : Type}

/-- The application around a backend. -/
abbrev App (Mailbox Message : Type) := JobApp AppJob (JobContext Mailbox Message)

abbrev Sent := List (Dispatch AppJob × JobOrder Json)

variable {serde : Serde} {maxRetries : UInt32} {retryDelaySeconds : UInt64}

/-- The mail of an execution whose sending was reported as accepted. -/
def mailOf (serde : Serde) (e : JobEnvelope Json × JobContext Mailbox Message) :
    Option (Uuid × Mail) :=
  if e.1.jobType = EmailJob.jobType then
    match serde.emailFromValue e.1.payload with
    | .ok job => some (e.1.id, job.mail)
    | .error _ => none
  else none

def outbox (serde : Serde) (done : Transport.Done (JobContext Mailbox Message)) :
    List (Uuid × Mail) :=
  done.filterMap (mailOf serde)

theorem mailOf_eq_some {e : JobEnvelope Json × JobContext Mailbox Message} {m : Uuid × Mail} :
    mailOf serde e = some m ↔ e.1.jobType = EmailJob.jobType ∧ ∃ job,
      serde.emailFromValue e.1.payload = .ok job ∧ m = (e.1.id, job.mail) := by
  unfold mailOf
  split
  · rename_i type
    cases read : serde.emailFromValue e.1.payload with
    | error reason =>
      refine iff_of_false nofun ?_
      rintro ⟨_, _, ⟨⟩, _⟩
    | ok job =>
      refine ⟨fun same => ⟨type, job, rfl, (Option.some.inj same).symm⟩, ?_⟩
      rintro ⟨_, job', same, rfl⟩
      rw [Except.ok.inj same]
  · rename_i other
    exact iff_of_false nofun fun mail => other mail.1

theorem outbox_count_le (done : Transport.Done (JobContext Mailbox Message)) (i : Uuid) :
    ((outbox serde done).map Prod.fst).count i ≤ (done.map fun e => e.1.id).count i := by
  induction done with
  | nil => exact Nat.le_refl 0
  | cons e done ih =>
    cases mail : mailOf serde e with
    | none =>
      rw [outbox, List.filterMap_cons_none mail, List.map_cons]
      exact ih.trans List.count_le_count_cons
    | some m =>
      obtain ⟨_, job, _, rfl⟩ := mailOf_eq_some.mp mail
      rw [outbox, List.filterMap_cons_some mail, List.map_cons, List.map_cons, List.count_cons,
        List.count_cons]
      exact Nat.add_le_add_right ih _

/-- What a run of the application has sent, as far as the client reports it. -/
structure MailedOnce (serde : Serde) (v : View σ TaskId ρ)
    (p : (σ × Sent) × Transport.Done (JobContext Mailbox Message)) : Prop where
  /-- A mail is that of a job that was dispatched, as it was dispatched. -/
  dispatched : ∀ i mail, (i, mail) ∈ outbox serde p.2 → ∃ entry order job,
    (entry, order) ∈ p.1.2 ∧ order.id = i ∧ order.jobType = EmailJob.jobType ∧
      serde.emailFromValue order.payload = .ok job ∧ job.mail = mail
  /-- The client has reported it as sent. -/
  accepted : ∀ e ∈ p.2, ∀ i mail, mailOf serde e = some (i, mail) →
    ∃ client, e.2.email = some client ∧ client.send mail = .ok ()
  once : ∀ i, ((outbox serde p.2).map Prod.fst).count i ≤ 1
  completed : ∀ entry order job, (entry, order) ∈ p.1.2 →
    entry.value (AppJob.toValue serde) = serde.emailToValue job → job.type = EmailJob.jobType →
      v.status p.1.1 order.id .completed → (order.id, job.mail) ∈ outbox serde p.2

section Runs
variable {T : Transport σ ℓ π} {v : View σ TaskId ρ} {disturbs : σ → ℓ → Prop}
  {relates : σ → Ledger Place TaskId → Prop}

/-- Only what was read from its payload is executed. -/
theorem email_call {envelope : JobEnvelope Json} {ctx : JobContext Mailbox Message}
    {r : Except QueueError Unit} (type : envelope.jobType = EmailJob.jobType) {job : EmailJob}
    (read : serde.emailFromValue envelope.payload = .ok job)
    (called : (jobApp serde maxRetries retryDelaySeconds).registry.call envelope ctx = r) :
    job.execute ctx = r := by
  rw [jobApp_registry, call_email type] at called
  change (serde.emailFromValue envelope.payload).mapError QueueError.serialization >>=
    (fun parsed => EmailJob.execute parsed ctx) = r at called
  rwa [read] at called

theorem heartbeat_call {envelope : JobEnvelope Json} {ctx : JobContext Mailbox Message}
    (type : envelope.jobType = HeartbeatJob.jobType) {job : HeartbeatJob}
    (read : serde.heartbeatFromValue envelope.payload = .ok job) :
    (jobApp serde maxRetries retryDelaySeconds).registry.call envelope ctx = .ok () := by
  rw [jobApp_registry, call_heartbeat type]
  change (serde.heartbeatFromValue envelope.payload).mapError QueueError.serialization >>=
    (fun parsed => HeartbeatJob.execute parsed ctx) = _
  rw [read]
  rfl

theorem mailedOnce (faithful : serde.Faithful)
    (law : T.Law (jobApp serde maxRetries retryDelaySeconds : App Mailbox Message).worker)
    (reports : T.Reports (jobApp serde maxRetries retryDelaySeconds : App Mailbox Message).worker v)
    (tracking : Tracking (T.machine
      (jobApp serde maxRetries retryDelaySeconds : App Mailbox Message).worker) v disturbs relates)
    {p : (σ × Sent) × Transport.Done (JobContext Mailbox Message)}
    (reach : (T.executing (jobApp serde maxRetries retryDelaySeconds)).Reachable p) :
    MailedOnce serde v p := by
  obtain ⟨consistent, executed⟩ := law.executed reports reach
  have settled := fun i => tracking.succeeds_once consistent.reachable i
  refine ⟨?_, ?_, fun i => ?_, ?_⟩
  · intro i mail listed
    obtain ⟨e, done, mailed⟩ := List.mem_filterMap.mp listed
    obtain ⟨type, job, read, same⟩ := mailOf_eq_some.mp mailed
    obtain ⟨rfl, rfl⟩ := Prod.mk.inj same
    obtain ⟨entry, order, sent, carries⟩ := executed.carried e done
    exact ⟨entry, order, job, sent, carries.id.symm, carries.jobType ▸ type, carries.payload ▸ read,
      rfl⟩
  · intro e done i mail mailed
    obtain ⟨type, job, read, same⟩ := mailOf_eq_some.mp mailed
    obtain ⟨rfl, rfl⟩ := Prod.mk.inj same
    exact EmailJob.execute_ok_iff.mp (email_call type read (executed.succeeded e done))
  · refine (outbox_count_le p.2 i).trans ?_
    rw [executed.counted i]
    exact (settled i).1
  · intro entry order job sent serialised type completed
    have counted := executed.counted order.id
    rw [(settled order.id).2 completed] at counted
    have listed : order.id ∈ p.2.map fun e => e.1.id := List.count_pos_iff.mp (by omega)
    obtain ⟨e, done, same⟩ := List.mem_map.mp listed
    obtain ⟨entry', order', sent', carries⟩ := executed.carried e done
    obtain rfl : order = order' := List.inj_on_of_nodup_map (law.distinct consistent.keeps)
      (List.mem_map_of_mem sent) (List.mem_map_of_mem sent') (same.symm.trans carries.id)
    obtain ⟨stamp, ordered⟩ := consistent.handed entry order sent
    obtain ⟨value, jobType, serialised', typed, rfl⟩ := Dispatcher.typed_of_order ordered
    obtain ⟨field, read⟩ := faithful.email job value (serialised.symm.trans serialised')
    refine List.mem_filterMap.mpr ⟨e, done, mailOf_eq_some.mpr ⟨?_, job, ?_, ?_⟩⟩
    · rw [carries.jobType, ← type]
      exact Option.some.inj (typed.symm.trans field)
    · rw [carries.payload]
      exact read
    · rw [same]

end Runs

/-- The call is of a job that a constructor made, or of what the schedule built. -/
def CallMade {Schedule : Type} (entries : List (ScheduledPayload Schedule)) :
    Dispatch AppJob → Prop
  | .dispatch job | .dispatchAt job _ | .dispatchWithRetries job _ => job.Made
  | .dispatchValue value => ∃ entry ∈ entries, ∃ now, entry.buildPayload now = .ok value

def LabelMade {Schedule : Type} (entries : List (ScheduledPayload Schedule)) :
    AppLabel AppJob (JobContext Mailbox Message) ℓ π → Prop
  | .call _ _ entry => CallMade entries entry
  | _ => True

section Failures
variable {Schedule : Type} {entries : List (ScheduledPayload Schedule)}
  {parse : String → Option Schedule} {T : Transport σ ℓ π} {v : View σ TaskId ρ}

theorem CallMade.job (built : buildSchedule parse serde = .ok entries) {entry : Dispatch AppJob}
    (made : CallMade entries entry) {value : Json}
    (serialised : entry.value (AppJob.toValue serde) = .ok value) :
    ∃ job : AppJob, job.Made ∧ job.toValue serde = .ok value := by
  cases entry with
  | dispatch job | dispatchAt job | dispatchWithRetries job => exact ⟨job, made, serialised⟩
  | dispatchValue value' =>
    obtain rfl := Except.ok.inj serialised
    obtain ⟨scheduled, listed, now, payload⟩ := made
    exact ⟨.heartbeat (.new now), rfl, buildSchedule_payload built listed payload⟩

/-- A handler that finds what a made job was serialised to fails in the mail client. -/
theorem AppJob.Made.call_error (faithful : serde.Faithful) {job : AppJob} (made : job.Made)
    {envelope : JobEnvelope Json} (serialised : job.toValue serde = .ok envelope.payload)
    (typed : envelope.payload.typeField = some envelope.jobType)
    {ctx : JobContext Mailbox Message} {error : QueueError}
    (failed : (jobApp serde maxRetries retryDelaySeconds).registry.call envelope ctx =
      .error error) : envelope.jobType = EmailJob.jobType ∧ EmailJob.Failure error := by
  cases job with
  | email job =>
    obtain ⟨field, read⟩ := faithful.email job _ serialised
    have type : envelope.jobType = EmailJob.jobType :=
      (Option.some.inj (typed.symm.trans field)).trans made
    exact ⟨type, EmailJob.execute_error (email_call type read failed)⟩
  | heartbeat job =>
    obtain ⟨field, read⟩ := faithful.heartbeat job _ serialised
    have type : envelope.jobType = HeartbeatJob.jobType :=
      (Option.some.inj (typed.symm.trans field)).trans made
    cases (heartbeat_call type read).symm.trans failed

/-- Along runs whose calls are made, so are the accepted ones. -/
theorem sent_made {app : App Mailbox Message} {p : σ × Sent}
    (reach : (T.system app).ReachableWhere (fun _ l => LabelMade entries l) p)
    {entry : Dispatch AppJob} {order : JobOrder Json} (sent : (entry, order) ∈ p.2) :
    CallMade entries entry := by
  refine Machine.ReachableWhere.invariant
    (I := fun p : σ × Sent => ∀ entry order, (entry, order) ∈ p.2 → CallMade entries entry)
    (fun _ _ listed => absurd listed List.not_mem_nil) ?_ reach entry order sent
  rintro ⟨s, before⟩ l ⟨t, after⟩ old made stepped entry order listed
  obtain ⟨_, rfl⟩ := Transport.system_step.mp stepped
  dsimp only [Transport.record] at listed
  split at listed
  · split at listed
    · exact old entry order listed
    · split at listed
      · rcases List.mem_append.mp listed with kept | new
        · exact old entry order kept
        · obtain ⟨rfl, -⟩ := Prod.mk.inj (List.mem_singleton.mp new)
          exact made
      · exact old entry order listed
  · exact old entry order listed

/-- The only failures that are ever reported are those of the mail client. -/
def OnlyMailsFail (T : Transport σ ℓ π) (s : σ) : Prop :=
  ∀ task envelope error, T.tasks s task = some ⟨envelope, some (.error error)⟩ →
    envelope.jobType = EmailJob.jobType ∧ EmailJob.Failure error

theorem onlyMailsFail (faithful : serde.Faithful) (built : buildSchedule parse serde = .ok entries)
    (law : T.Law (jobApp serde maxRetries retryDelaySeconds : App Mailbox Message).worker)
    (reports : T.Reports (jobApp serde maxRetries retryDelaySeconds : App Mailbox Message).worker v)
    {p : σ × Sent} (reach : (T.system (jobApp serde maxRetries retryDelaySeconds :
      App Mailbox Message)).ReachableWhere (fun _ l => LabelMade entries l) p) :
    OnlyMailsFail T p.1 := by
  intro task envelope error live
  have consistent := law.consistent reach.reachable
  obtain ⟨ctx, called⟩ := reports.called reach.reachable live
  obtain ⟨_, listed, carries⟩ := law.carried consistent.keeps live
  obtain ⟨⟨entry, order⟩, sent, rfl⟩ := List.mem_map.mp listed
  obtain ⟨stamp, ordered⟩ := consistent.handed entry order sent
  obtain ⟨value, jobType, serialised, typed, rfl⟩ := Dispatcher.typed_of_order ordered
  obtain ⟨job, made, same⟩ := (sent_made reach sent).job built serialised
  refine made.call_error faithful ?_ ?_ called.symm
  · rw [carries.payload]
    exact same
  · rw [carries.payload, carries.jobType]
    exact typed

end Failures
end Jobs

section Backends
variable {Mailbox Message : Type} {codec : Codec Json} {serde : Serde}

/-- Whatever panics, crashes or fails: no mail is reported as accepted twice, and that of a
completed job was accepted as it was dispatched. -/
theorem mails_sent_once (faithful : serde.Faithful)
    (written : ∀ v text v', codec.toText v = .ok text → codec.fromText text = .ok v' → v' = v)
    (parse_hyphenated : ∀ u : Uuid, codec.parseStr u.hyphenated = .ok u)
    (maxRetries : UInt32) (retryDelaySeconds : UInt64) (capacity : Nat) :
    (∀ p, ((DatabaseQueue.transport codec).executing (jobApp serde maxRetries retryDelaySeconds :
        App Mailbox Message)).Reachable p → MailedOnce serde DatabaseQueue.view p) ∧
      ∀ p, ((ChannelQueue.transport capacity).executing (jobApp serde maxRetries retryDelaySeconds :
        App Mailbox Message)).Reachable p → MailedOnce serde ChannelQueue.view p := by
  constructor
  · intro p reach
    exact mailedOnce faithful (DatabaseQueue.law _ written parse_hyphenated)
      (DatabaseQueue.reports codec _) (DatabaseQueue.tracking codec _ parse_hyphenated) reach
  · intro p reach
    exact mailedOnce faithful (ChannelQueue.law _ capacity) (ChannelQueue.reports _ capacity)
      (ChannelQueue.tracking _ capacity) reach

/-- Every job that the application or its schedule dispatches finds its handler, which reads it
back: only the mail client makes a job fail. -/
theorem only_mails_fail {Schedule : Type} {parse : String → Option Schedule}
    {entries : List (ScheduledPayload Schedule)} (faithful : serde.Faithful)
    (built : buildSchedule parse serde = .ok entries)
    (written : ∀ v text v', codec.toText v = .ok text → codec.fromText text = .ok v' → v' = v)
    (parse_hyphenated : ∀ u : Uuid, codec.parseStr u.hyphenated = .ok u)
    (maxRetries : UInt32) (retryDelaySeconds : UInt64) (capacity : Nat) :
    (∀ p, ((DatabaseQueue.transport codec).system (jobApp serde maxRetries retryDelaySeconds :
        App Mailbox Message)).ReachableWhere (fun _ l => LabelMade entries l) p →
          OnlyMailsFail (DatabaseQueue.transport codec) p.1) ∧
      ∀ p, ((ChannelQueue.transport capacity).system (jobApp serde maxRetries retryDelaySeconds :
        App Mailbox Message)).ReachableWhere (fun _ l => LabelMade entries l) p →
          OnlyMailsFail (ChannelQueue.transport capacity) p.1 := by
  constructor
  · intro p reach
    exact onlyMailsFail faithful built (DatabaseQueue.law _ written parse_hyphenated)
      (DatabaseQueue.reports codec _) reach
  · intro p reach
    exact onlyMailsFail faithful built (ChannelQueue.law _ capacity)
      (ChannelQueue.reports _ capacity) reach

end Backends

def welcome : EmailJob := .new "ada@example.com" "Welcome!" "Hello!"

/-- The value of the mail above. -/
def welcomeValue : Json :=
  .object {"type", "to", "subject", "body", "html"} fun key =>
    if key.1 = "type" then .string welcome.type
    else if key.1 = "to" then .string welcome.to_
    else if key.1 = "subject" then .string welcome.subject
    else if key.1 = "body" then .string welcome.body
    else .null

/-- The value of a heartbeat at the epoch. -/
def epochValue : Json :=
  .object {"type", "scheduled_at"} fun key =>
    if key.1 = "type" then .string "heartbeat" else .string "1970-01-01T00:00:00Z"

/-- Only the mail and the heartbeat above are written and read. -/
def sampleSerde : Serde where
  emailToValue job := if job = welcome then .ok welcomeValue else .error "another mail"
  emailFromValue value :=
    if value.typeField = some "email" then .ok welcome else .error "not a mail"
  heartbeatToValue job := if job = .new 0 then .ok epochValue else .error "another time"
  heartbeatFromValue value :=
    if value.typeField = some "heartbeat" then .ok (.new 0) else .error "not a heartbeat"

theorem sampleSerde_faithful : sampleSerde.Faithful where
  email := by
    intro job value written
    simp only [sampleSerde] at written ⊢
    split at written
    · rename_i same
      obtain rfl := Except.ok.inj written
      subst same
      exact ⟨by decide, by decide⟩
    · cases written
  heartbeat := by
    intro job value written
    simp only [sampleSerde] at written ⊢
    split at written
    · rename_i same
      obtain rfl := Except.ok.inj written
      subst same
      exact ⟨by decide, by decide⟩
    · cases written

/-- A server that takes every message, or none. -/
def sampleMailer (takes : Bool) : Lettre String (List String) where
  parse := some
  plain from_ toAddr subject text := some [from_, toAddr, subject, text]
  multipart from_ toAddr subject text html := some [from_, toAddr, subject, text, html]
  send _ := if takes then .accepted else .refused

def sampleContext (takes : Bool) : JobContext String (List String) :=
  ⟨some ⟨sampleMailer takes, "noreply@example.com", "App"⟩⟩

def sampleApp : App String (List String) := jobApp sampleSerde 3 60

def sampleRun : List (AppLabel AppJob (JobContext String (List String)) (ChannelQueue.Label Json)
    Nat) :=
  [.call 0 ⟨1, 0⟩ (.dispatch (.email welcome)), .internal (.sendCompletes (.producer 0)),
    .internal (.dequeue ⟨0, 0⟩), .run ⟨0, 0⟩ (sampleContext false), .internal (.fail ⟨0, 0⟩ 5),
    .internal (.sendCompletes (.task ⟨0, 0⟩)), .internal (.dequeue ⟨0, 1⟩),
    .run ⟨0, 1⟩ (sampleContext true), .internal (.acknowledge ⟨0, 1⟩)]

theorem mails_sent_once_sample :
    ∃ p, ((ChannelQueue.transport 1).executing sampleApp).Reachable p ∧
      MailedOnce sampleSerde ChannelQueue.view p ∧
      outbox sampleSerde p.2 = [(1, welcome.mail)] := by
  obtain ⟨p, reach, sent⟩ := Machine.reachable_of_replay
    (M := (ChannelQueue.transport 1).executing sampleApp)
    (p := fun p => outbox sampleSerde p.2 = [(1, welcome.mail)]) sampleRun (by decide)
  exact ⟨p, reach, (mails_sent_once sampleSerde_faithful beats_faithful strokes_parse 3 60 1).2 p
    reach, of_decide_eq_true sent⟩

/-- Only mails are dispatched, and they are made. -/
def mailCall (_ : ChannelQueue Json × Sent) :
    AppLabel AppJob (JobContext String (List String)) (ChannelQueue.Label Json) Nat → Bool
  | .call _ _ (.dispatch (.email job)) => job.type = EmailJob.jobType
  | .call _ _ _ => false
  | _ => true

theorem labelMade_of_mailCall {Schedule : Type} (entries : List (ScheduledPayload Schedule))
    (s : ChannelQueue Json × Sent)
    (l : AppLabel AppJob (JobContext String (List String)) (ChannelQueue.Label Json) Nat)
    (mail : mailCall s l = true) : LabelMade entries l := by
  cases l with
  | call port stamp entry =>
    cases entry with
    | dispatch job =>
      cases job with
      | email job =>
        have type : job.type = EmailJob.jobType := of_decide_eq_true mail
        exact type
      | heartbeat job => cases mail
    | _ => cases mail
  | run | internal => trivial

theorem only_mails_fail_sample :
    ∃ p, ((ChannelQueue.transport 1).system sampleApp).Reachable p ∧
      OnlyMailsFail (ChannelQueue.transport 1) p.1 ∧
      ∃ job, p.1.tasks ⟨0, 0⟩ = some job ∧ job.result =
        some (.error (.execution "Email send failed: SMTP send failed")) := by
  obtain ⟨entries, built⟩ : ∃ entries, buildSchedule (fun _ => some ()) sampleSerde = .ok entries :=
    ⟨_, rfl⟩
  obtain ⟨p, reach, failed⟩ := Machine.reachableWhere_of_replay
    (M := (ChannelQueue.transport 1).system sampleApp) (labelMade_of_mailCall entries)
    (p := fun p => (p.1.tasks ⟨0, 0⟩).any fun job => job.result =
      some (.error (.execution "Email send failed: SMTP send failed")))
    (sampleRun.take 4) (by decide)
  obtain ⟨job, live, result⟩ := (Option.any_eq_true _ _).mp failed
  exact ⟨p, reach.reachable, (only_mails_fail sampleSerde_faithful built beats_faithful
    strokes_parse 3 60 1).2 p reach, job, live, of_decide_eq_true result⟩

end ApiBoilerplate.Jobs
