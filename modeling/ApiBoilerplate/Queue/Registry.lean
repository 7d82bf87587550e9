import ApiBoilerplate.Foundation.ReverseIndex
import ApiBoilerplate.Queue.Dispatcher

/-!
# The registry of job handlers

A handler is filed under the job type of the implementation it was made from, over
whatever was there. A worker looks the handler of an envelope up and gives it the
payload; what the handler does beyond that depends on its context.
-/

namespace ApiBoilerplate

open Foundation

/-- A type that implements the trait `Job` and can be deserialised. -/
structure RegisteredJob (Context : Type) where
  Payload : Type
  jobType : String
  fromValue : Json → Except String Payload
  execute : Payload → Context → Except QueueError Unit

abbrev JobHandlerFn (Context : Type) := Json → Context → Except QueueError Unit

structure JobRegistry (Context : Type) where
  handlers : FinMap String (JobHandlerFn Context)

variable {Context : Type}

/-- The closure made by `register`. -/
def RegisteredJob.handler (job : RegisteredJob Context) : JobHandlerFn Context :=
  fun payload ctx => do
    let parsed ← (job.fromValue payload).mapError QueueError.serialization
    job.execute parsed ctx

namespace JobRegistry

def new : JobRegistry Context := ⟨∅⟩

def register (registry : JobRegistry Context) (job : RegisteredJob Context) :
    JobRegistry Context :=
  ⟨registry.handlers.insert job.jobType job.handler⟩

def get (registry : JobRegistry Context) (jobType : String) : Option (JobHandlerFn Context) :=
  registry.handlers.lookup jobType

/-- The registry after a sequence of registrations. -/
def registerAll (jobs : List (RegisteredJob Context)) : JobRegistry Context :=
  jobs.foldl register new

/-- What the task of an envelope has in hand before it reports to the backend. -/
def call (registry : JobRegistry Context) (envelope : JobEnvelope Json) (ctx : Context) :
    Except QueueError Unit :=
  match registry.get envelope.jobType with
  | some handler => handler envelope.payload ctx
  | none => .error (.unknownJobType envelope.jobType)

/-- A worker with this registry. -/
def worker (registry : JobRegistry Context) (retryDelaySeconds : UInt64) : WorkerConfig where
  registered jobType := (registry.get jobType).isSome
  retryDelaySeconds := retryDelaySeconds

theorem outcome_call (registry : JobRegistry Context) (retryDelaySeconds : UInt64)
    (envelope : JobEnvelope Json) (ctx : Context) :
    Worker.outcome (registry.worker retryDelaySeconds).registered envelope.jobType
      (registry.call envelope ctx) = registry.call envelope ctx := by
  have known : (registry.worker retryDelaySeconds).registered envelope.jobType =
      (registry.get envelope.jobType).isSome := rfl
  rw [Worker.outcome, known, call]
  cases registry.get envelope.jobType <;> rfl

/-- This one was registered last under its job type. -/
def Last (jobs : List (RegisteredJob Context)) (job : RegisteredJob Context) : Prop :=
  ∃ before after, jobs = before ++ job :: after ∧
    ∀ later ∈ after, later.jobType ≠ job.jobType

theorem handlers_registerAll (jobs : List (RegisteredJob Context)) : (registerAll jobs).handlers =
    FinMap.insertAll RegisteredJob.jobType RegisteredJob.handler ∅ jobs := by
  have each : ∀ (jobs : List (RegisteredJob Context)) (registry : JobRegistry Context),
      (jobs.foldl register registry).handlers = FinMap.insertAll RegisteredJob.jobType
        RegisteredJob.handler registry.handlers jobs := by
    intro jobs
    induction jobs with
    | nil => exact fun _ => rfl
    | cons job rest ih => exact fun registry => ih (registry.register job)
  exact each jobs new

section Calls
variable {jobs : List (RegisteredJob Context)} {envelope : JobEnvelope Json}

theorem call_of_last {job : RegisteredJob Context} (last : Last jobs job)
    (same : job.jobType = envelope.jobType) (ctx : Context) :
    (registerAll jobs).call envelope ctx = job.handler envelope.payload ctx := by
  obtain ⟨before, after, rfl, later⟩ := last
  have found : (registerAll (before ++ job :: after)).get envelope.jobType = some job.handler := by
    rw [get, handlers_registerAll, ← same]
    exact FinMap.lookup_insertAll_of_last _ _ _ before job later
  rw [call, found]

end Calls

end JobRegistry
end ApiBoilerplate
