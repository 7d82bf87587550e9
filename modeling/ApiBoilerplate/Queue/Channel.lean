import ApiBoilerplate.Foundation.ReverseIndex
import ApiBoilerplate.Queue.Tracking

/-!
# The channel backend

A bounded in-process channel with a map of the jobs handed out. A send waits
while the channel is full, both in `enqueue` and in the second half of `fail`,
and any waiting send may be the next to complete. `dequeue` takes an envelope
off the channel and files it as in flight in one step: in between, only the
caller has it.
-/

namespace ApiBoilerplate

open Foundation

structure ChannelBackend (Value : Type) where
  capacity : Nat
  buffer : List (JobEnvelope Value)
  inFlight : FinMap Uuid (JobEnvelope Value)

namespace ChannelBackend
variable {Value : Type}

def new (capacity : Nat) : ChannelBackend Value := ⟨capacity, [], ∅⟩

/-- `sender.send`; `none` while the channel is full. -/
def send (b : ChannelBackend Value) (envelope : JobEnvelope Value) :
    Option (ChannelBackend Value) :=
  if b.buffer.length < b.capacity then some { b with buffer := b.buffer ++ [envelope] } else none

def dequeue (b : ChannelBackend Value) : Option (JobEnvelope Value × ChannelBackend Value) :=
  match b.buffer with
  | [] => none
  | envelope :: rest =>
    let running := { envelope with attempts := envelope.attempts + 1, status := .running }
    some (running, { b with buffer := rest, inFlight := b.inFlight.insert running.id running })

def acknowledge (b : ChannelBackend Value) (id : Uuid) : ChannelBackend Value :=
  { b with inFlight := b.inFlight.erase id }

/-- `fail` up to its send: the envelope to re-enqueue, if any. -/
def fail (b : ChannelBackend Value) (id : Uuid) (error : String) (retryAt : Option DateTime) :
    ChannelBackend Value × Option (JobEnvelope Value) :=
  match b.inFlight.lookup id with
  | none => (b, none)
  | some envelope =>
    ({ b with inFlight := b.inFlight.erase id },
      if retryAt.isSome ∧ envelope.attempts < envelope.maxAttempts then
        some { envelope with status := .retrying, error := some error }
      else none)

/-! What a half that went through has done. -/

section Effects
variable {b b' : ChannelBackend Value} {e : JobEnvelope Value}

theorem send_some (accepted : b.send e = some b') :
    b.buffer.length < b.capacity ∧ b' = { b with buffer := b.buffer ++ [e] } := by
  rw [send] at accepted
  split at accepted
  · rename_i room
    exact ⟨room, (Option.some.inj accepted).symm⟩
  · cases accepted

theorem dequeue_some (taken : b.dequeue = some (e, b')) :
    ∃ first rest, b.buffer = first :: rest ∧
      e = { first with attempts := first.attempts + 1, status := .running } ∧
      b' = { b with buffer := rest, inFlight := b.inFlight.insert e.id e } := by
  rw [dequeue] at taken
  split at taken
  · cases taken
  · rename_i first rest buffer
    obtain ⟨rfl, rfl⟩ := Prod.mk.inj (Option.some.inj taken)
    exact ⟨first, rest, buffer, rfl, rfl⟩

theorem fail_buffer {id : Uuid} {error : String} {retryAt : Option DateTime}
    {again : Option (JobEnvelope Value)} (half : b.fail id error retryAt = (b', again)) :
    b'.buffer = b.buffer ∧ b'.capacity = b.capacity := by
  rw [fail] at half
  split at half
  · obtain ⟨rfl, _⟩ := Prod.mk.inj half
    exact ⟨rfl, rfl⟩
  · obtain ⟨rfl, _⟩ := Prod.mk.inj half
    exact ⟨rfl, rfl⟩

end Effects

end ChannelBackend

/-- Who waits in a send: a caller of `enqueue`, or a task inside `fail`. -/
inductive Sender where
  | producer (n : Nat)
  | task (id : TaskId)
  deriving DecidableEq, Repr

/-- The backend with the sends waiting on it and the job tasks of its process.
`submitted`, `finished` and `history` record which ids were enqueued, which jobs
ended and how, and what was executed. -/
structure ChannelQueue (Value : Type) where
  backend : ChannelBackend Value
  sends : Sender → Option (JobEnvelope Value)
  tasks : TaskId → Option (JobTask Value)
  submitted : FinMap Uuid UInt32
  finished : FinMap Uuid JobStatus
  history : List (Uuid × Lifecycle.Event)

namespace ChannelQueue
variable {Value : Type}

inductive Label (Value : Type) where
  | enqueue (producer : Nat) (order : JobOrder Value)
  | sendCompletes (sender : Sender)
  | dequeue (task : TaskId)
  | handlerReturns (task : TaskId) (result : Except QueueError Unit)
  | acknowledge (task : TaskId)
  | fail (task : TaskId) (now : DateTime)
  /-- A task ends without a call: its handler panics or it is cancelled. -/
  | vanish (task : TaskId)
  /-- The future of a waiting send is dropped. -/
  | cancel (sender : Sender)

def finish (s : ChannelQueue Value) (id : Uuid) (status : JobStatus) : FinMap Uuid JobStatus :=
  if id ∈ s.backend.inFlight then s.finished.insert id status else s.finished

section Step
variable (worker : WorkerConfig)

/-- One step. Ids are fresh: `enqueue` never sees one twice. -/
def step (s : ChannelQueue Value) : Label Value → Option (ChannelQueue Value)
  | .enqueue producer order =>
    if order.id ∉ s.submitted ∧ (s.sends (.producer producer)).isNone then some { s with
      sends := Function.update s.sends (.producer producer) (some order.envelope)
      submitted := s.submitted.insert order.id order.maxAttempts }
    else none
  | .sendCompletes sender =>
    match s.sends sender with
    | some envelope => (s.backend.send envelope).map (fun backend =>
        { s with backend := backend, sends := Function.update s.sends sender none })
    | none => none
  | .dequeue task =>
    if (s.tasks task).isNone ∧ (s.sends (.task task)).isNone then
      s.backend.dequeue.map (fun r => { s with
        backend := r.2
        tasks := Function.update s.tasks task (some ⟨r.1, none⟩)
        history := s.history ++ [(r.1.id, .started r.1.attempts.toNat)] })
    else none
  | .handlerReturns task result =>
    match s.tasks task with
    | some ⟨envelope, none⟩ =>
      let outcome := Worker.outcome worker.registered envelope.jobType result
      some { s with
        tasks := Function.update s.tasks task (some ⟨envelope, some outcome⟩)
        history := s.history ++ [(envelope.id, .returned outcome.isOk)] }
    | _ => none
  | .acknowledge task =>
    match s.tasks task with
    | some ⟨envelope, some (.ok ())⟩ => some { s with
        backend := s.backend.acknowledge envelope.id
        tasks := Function.update s.tasks task none
        finished := s.finish envelope.id .completed }
    | _ => none
  | .fail task now =>
    match s.tasks task with
    | some ⟨envelope, some (.error e)⟩ =>
      let retryAt :=
        Worker.retryAt worker.retryDelaySeconds envelope.attempts envelope.maxAttempts now
      match s.backend.fail envelope.id e.text retryAt with
      | (backend, some again) => some { s with
          backend := backend
          tasks := Function.update s.tasks task none
          sends := Function.update s.sends (.task task) (some again) }
      | (backend, none) => some { s with
          backend := backend
          tasks := Function.update s.tasks task none
          finished := s.finish envelope.id .failed }
    | _ => none
  | .vanish task =>
    match s.tasks task with
    | some _ => some { s with tasks := Function.update s.tasks task none }
    | none => none
  | .cancel sender =>
    match s.sends sender with
    | some _ => some { s with sends := Function.update s.sends sender none }
    | none => none

def machine (capacity : Nat) : Machine (ChannelQueue Value) (Label Value) where
  init := ⟨.new capacity, fun _ => none, fun _ => none, ∅, ∅, []⟩
  step := step worker

end Step

/-- What one step does, label by label. -/
inductive Moves (worker : WorkerConfig) (s : ChannelQueue Value) :
    Label Value → ChannelQueue Value → Prop where
  | enqueued {producer : Nat} {order : JobOrder Value} (fresh : order.id ∉ s.submitted)
      (idle : s.sends (.producer producer) = none) :
      Moves worker s (.enqueue producer order) { s with
        sends := Function.update s.sends (.producer producer) (some order.envelope)
        submitted := s.submitted.insert order.id order.maxAttempts }
  | sent {sender : Sender} {e : JobEnvelope Value} (waits : s.sends sender = some e)
      {backend : ChannelBackend Value} (accepted : s.backend.send e = some backend) :
      Moves worker s (.sendCompletes sender)
        { s with backend := backend, sends := Function.update s.sends sender none }
  | dequeued {task : TaskId} {e : JobEnvelope Value} {backend : ChannelBackend Value}
      (vacant : s.tasks task = none) (idle : s.sends (.task task) = none)
      (taken : s.backend.dequeue = some (e, backend)) :
      Moves worker s (.dequeue task) { s with
        backend := backend
        tasks := Function.update s.tasks task (some ⟨e, none⟩)
        history := s.history ++ [(e.id, .started e.attempts.toNat)] }
  | returned {task : TaskId} {e : JobEnvelope Value} (live : s.tasks task = some ⟨e, none⟩)
      (result : Except QueueError Unit) {outcome : Except QueueError Unit}
      (decided : outcome = Worker.outcome worker.registered e.jobType result) :
      Moves worker s (.handlerReturns task result) { s with
        tasks := Function.update s.tasks task (some ⟨e, some outcome⟩)
        history := s.history ++ [(e.id, .returned outcome.isOk)] }
  | acknowledged {task : TaskId} {e : JobEnvelope Value}
      (live : s.tasks task = some ⟨e, some (.ok ())⟩) :
      Moves worker s (.acknowledge task) { s with
        backend := s.backend.acknowledge e.id
        tasks := Function.update s.tasks task none
        finished := s.finish e.id .completed }
  | resending {task : TaskId} {e again : JobEnvelope Value} {error : QueueError}
      (live : s.tasks task = some ⟨e, some (.error error)⟩) (now : DateTime)
      {backend : ChannelBackend Value}
      (half : s.backend.fail e.id error.text
        (Worker.retryAt worker.retryDelaySeconds e.attempts e.maxAttempts now) =
          (backend, some again)) :
      Moves worker s (.fail task now) { s with
        backend := backend
        tasks := Function.update s.tasks task none
        sends := Function.update s.sends (.task task) (some again) }
  | failed {task : TaskId} {e : JobEnvelope Value} {error : QueueError}
      (live : s.tasks task = some ⟨e, some (.error error)⟩) (now : DateTime)
      {backend : ChannelBackend Value}
      (half : s.backend.fail e.id error.text
        (Worker.retryAt worker.retryDelaySeconds e.attempts e.maxAttempts now) =
          (backend, none)) :
      Moves worker s (.fail task now) { s with
        backend := backend
        tasks := Function.update s.tasks task none
        finished := s.finish e.id .failed }
  | vanished {task : TaskId} {job : JobTask Value} (live : s.tasks task = some job) :
      Moves worker s (.vanish task) { s with tasks := Function.update s.tasks task none }
  | cancelled {sender : Sender} {e : JobEnvelope Value} (waits : s.sends sender = some e) :
      Moves worker s (.cancel sender) { s with sends := Function.update s.sends sender none }

theorem step_moves {worker : WorkerConfig} {s t : ChannelQueue Value} {l : Label Value}
    (stepped : step worker s l = some t) : Moves worker s l t := by
  cases l with
  | enqueue producer order =>
    simp only [step] at stepped
    split at stepped
    · rename_i open_
      obtain rfl := Option.some.inj stepped
      exact .enqueued open_.1 (Option.isNone_iff_eq_none.mp open_.2)
    · cases stepped
  | sendCompletes sender =>
    simp only [step] at stepped
    split at stepped
    · rename_i waits
      obtain ⟨backend, accepted, rfl⟩ := Option.map_eq_some_iff.mp stepped
      exact .sent waits accepted
    · cases stepped
  | dequeue task =>
    simp only [step] at stepped
    split at stepped
    · rename_i open_
      obtain ⟨⟨e, backend⟩, taken, rfl⟩ := Option.map_eq_some_iff.mp stepped
      exact .dequeued (Option.isNone_iff_eq_none.mp open_.1)
        (Option.isNone_iff_eq_none.mp open_.2) taken
    · cases stepped
  | handlerReturns task result =>
    simp only [step] at stepped
    split at stepped
    · rename_i live
      obtain rfl := Option.some.inj stepped
      exact .returned live result rfl
    · cases stepped
  | acknowledge task =>
    simp only [step] at stepped
    split at stepped
    · rename_i live
      obtain rfl := Option.some.inj stepped
      exact .acknowledged live
    · cases stepped
  | fail task now =>
    simp only [step] at stepped
    split at stepped
    · rename_i live
      split at stepped
      · rename_i half
        obtain rfl := Option.some.inj stepped
        exact .resending live now half
      · rename_i half
        obtain rfl := Option.some.inj stepped
        exact .failed live now half
    · cases stepped
  | vanish task =>
    simp only [step] at stepped
    split at stepped
    · rename_i live
      obtain rfl := Option.some.inj stepped
      exact .vanished live
    · cases stepped
  | cancel sender =>
    simp only [step] at stepped
    split at stepped
    · rename_i waits
      obtain rfl := Option.some.inj stepped
      exact .cancelled waits
    · cases stepped

/-- A step that takes a job from its task, or drops a send. -/
def Disturbs (_ : ChannelQueue Value) : Label Value → Prop
  | .vanish _ => True
  | .cancel _ => True
  | _ => False

/-- An envelope somewhere in the backend: about to be sent, queued, or in flight. -/
inductive Located (s : ChannelQueue Value) : JobEnvelope Value → Prop where
  | sending {sender : Sender} {e : JobEnvelope Value} : s.sends sender = some e → Located s e
  | buffered {e : JobEnvelope Value} : e ∈ s.backend.buffer → Located s e
  | inFlight {i : Uuid} {e : JobEnvelope Value} :
      s.backend.inFlight.lookup i = some e → Located s e

/-- The status of a job is that of its envelope; of a job that is in no place any
more, how it ended. -/
def view : Lifecycle.View (ChannelQueue Value) TaskId (Option JobStatus) where
  holds s task i := ∃ job, s.tasks task = some job ∧ job.envelope.id = i
  status s i x := (∃ e, Located s e ∧ e.id = i ∧ e.status = x) ∨ s.finished.lookup i = some x
  record s i := s.finished.lookup i
  events s i := Lifecycle.eventsOf s.history i
  budget s i := (s.submitted.lookup i).map UInt32.toNat
  counter s i a := ∃ e, Located s e ∧ e.id = i ∧ (e.attempts.toNat : Int) = a

end ChannelQueue
end ApiBoilerplate
