import ApiBoilerplate.Foundation.Machine
import ApiBoilerplate.Queue.Job
import Mathlib.Order.Lattice.Nat

/-!
# The cron scheduler

The scheduler loop, one pass at a time: it sleeps until the soonest fire time,
reads the clock again and goes through its jobs. A schedule is known by what
`schedule.after(t).next()` answers. What building a payload and enqueueing it
come to is told by the environment.
-/

namespace ApiBoilerplate.Scheduler

open Foundation

/-- Nanoseconds since the epoch. -/
abbrev Instant := Int

def second : Int := 1000000000

structure CronEntry (Schedule : Type) where
  name : String
  expr : String
  schedule : Schedule

structure ScheduledJob (Schedule : Type) where
  entry : CronEntry Schedule
  nextRun : Instant

/-- What happens when a job is due: its payload is built, and then enqueued. -/
structure Answer (Value : Type) where
  payload : Except QueueError Value
  id : Uuid
  created : DateTime
  enqueued : Except QueueError Unit

/-- How `dispatch_and_log` ends. -/
inductive Logged (Value : Type) where
  | payloadFailed (error : QueueError)
  | dispatchFailed (error : QueueError)
  | dispatched (envelope : JobEnvelope Value)

/-- The clock reading of the pass, and the occurrence that the job was due for. -/
structure Dispatch (Value : Type) where
  job : Nat
  served : Instant
  now : Instant
  logged : Logged Value

structure Dispatcher (Value : Type) where
  defaultMaxAttempts : UInt32
  /-- The string under the key `type` of a payload. -/
  payloadType : Value → Option String

section Dispatching
variable {Value : Type} (dispatcher : Dispatcher Value)

def extractType (payload : Value) : Except QueueError String :=
  match dispatcher.payloadType payload with
  | some jobType => .ok jobType
  | none => .error (.execution "Job payload must contain a string field named \"type\"")

def dispatchValue (answer : Answer Value) (payload : Value) :
    Except QueueError (JobEnvelope Value) := do
  let jobType ← extractType dispatcher payload
  let envelope :=
    JobEnvelope.new answer.id answer.created jobType payload dispatcher.defaultMaxAttempts
  answer.enqueued
  return envelope

/-- A failure of one job ends nothing but its own dispatch. -/
def dispatchAndLog (answer : Answer Value) : Logged Value :=
  match answer.payload with
  | .error e => .payloadFailed e
  | .ok payload =>
    match dispatchValue dispatcher answer payload with
    | .ok envelope => .dispatched envelope
    | .error e => .dispatchFailed e

end Dispatching

section Loop
variable {Schedule Value : Type} (after : Schedule → Instant → Option Instant)

/-- Entries without an upcoming occurrence are skipped. -/
def new (now : Instant) (entries : List (CronEntry Schedule)) : List (ScheduledJob Schedule) :=
  entries.filterMap (fun entry =>
    (after entry.schedule now).map (fun nextRun => ⟨entry, nextRun⟩))

/-- The soonest scheduled job, an hour away if there is none. -/
def soonest (jobs : List (ScheduledJob Schedule)) (now : Instant) : Instant :=
  ((jobs.map (fun j => j.nextRun)).min?).getD (now + 3600 * second)

/-- How long to sleep, in nanoseconds: a time that has passed is no time. -/
def wait (jobs : List (ScheduledJob Schedule)) (now : Instant) : Int :=
  min (max 0 (soonest jobs now - now)) (3600 * second)

/-- Pushed a hundred times 52 weeks ahead when no occurrence follows. -/
def nextRun (schedule : Schedule) (now : Instant) : Instant :=
  (after schedule now).getD (now + 52 * 100 * 7 * 86400 * second)

/-- The jobs from `position` on, in a pass with the clock at `now`. -/
def passFrom (dispatcher : Dispatcher Value) (now : Instant) (answers : Nat → Answer Value) :
    Nat → List (ScheduledJob Schedule) → List (ScheduledJob Schedule) × List (Dispatch Value)
  | _, [] => ([], [])
  | position, job :: jobs =>
    let rest := passFrom dispatcher now answers (position + 1) jobs
    if now < job.nextRun then (job :: rest.1, rest.2)
    else
      ({ job with nextRun := nextRun after job.entry.schedule now } :: rest.1,
        ⟨position, job.nextRun, now, dispatchAndLog dispatcher (answers position)⟩ :: rest.2)

def pass (dispatcher : Dispatcher Value) (now : Instant) (answers : Nat → Answer Value)
    (jobs : List (ScheduledJob Schedule)) : List (ScheduledJob Schedule) × List (Dispatch Value) :=
  passFrom after dispatcher now answers 0 jobs

/-- The running scheduler, with every dispatch it has made. -/
structure State (Schedule Value : Type) where
  jobs : List (ScheduledJob Schedule)
  dispatches : List (Dispatch Value)
  /-- The times slept, each with the reading it was computed from. -/
  slept : List (Instant × Int)
  stopped : Bool

inductive Label (Value : Type) where
  /-- The clock is read, the loop sleeps, and the clock is read again. -/
  | pass (before now : Instant) (answers : Nat → Answer Value)
  | shutdown

def step (dispatcher : Dispatcher Value) (s : State Schedule Value) :
    Label Value → Option (State Schedule Value)
  | .pass before now answers =>
    if s.stopped ∨ s.jobs.isEmpty then none
    else
      let passed := pass after dispatcher now answers s.jobs
      some { s with
        jobs := passed.1
        dispatches := s.dispatches ++ passed.2
        slept := s.slept ++ [(before, wait s.jobs before)] }
  | .shutdown => if s.stopped then none else some { s with stopped := true }

def machine (dispatcher : Dispatcher Value) (start : Instant)
    (entries : List (CronEntry Schedule)) : Machine (State Schedule Value) (Label Value) where
  init :=
    { jobs := new after start entries
      dispatches := []
      slept := []
      stopped := false }
  step := step after dispatcher

end Loop
end ApiBoilerplate.Scheduler
