import ApiBoilerplate.Foundation.Machine
import ApiBoilerplate.Foundation.Semaphore
import ApiBoilerplate.Queue.Job

/-!
# The poll loop of a worker

The loop takes a permit, awaits `dequeue` and moves the permit into the task it
spawns for the envelope; without an envelope it drops the permit and sleeps. The
backend may answer anything, and a task may end in any way at any time. Once the
loop has seen the shutdown signal it waits for all permits at once and returns.
-/

namespace ApiBoilerplate

open Foundation

/-- Errors of a broadcast receiver's `try_recv`. -/
inductive TryRecvError where
  | empty
  | closed
  | lagged (missed : Nat)
  deriving DecidableEq, Repr

/-- Where `Worker::run` is. -/
inductive PollStage (Value : Type) where
  /-- At the top of the loop. -/
  | checking
  /-- No signal was seen. -/
  | acquiring
  /-- `dequeue` is awaited. -/
  | polling
  /-- `dequeue` returned an envelope. -/
  | dispatching (envelope : JobEnvelope Value)
  /-- `dequeue` returned no envelope, or an error. -/
  | yielding
  /-- The polling sleep. -/
  | sleeping
  /-- `acquire_many` is awaited. -/
  | draining
  | returned

/-- The permits the loop itself holds. -/
def PollStage.permits {Value : Type} : PollStage Value → Nat
  | .polling => 1
  | .dispatching _ => 1
  | .yielding => 1
  | _ => 0

def PollStage.inHand {Value : Type} : PollStage Value → List (JobEnvelope Value)
  | .dispatching envelope => [envelope]
  | _ => []

/-- The loop has seen the shutdown signal. -/
def PollStage.isOver {Value : Type} : PollStage Value → Bool
  | .draining => true
  | .returned => true
  | _ => false

/-- The loop with its semaphore and the tasks it spawned. Tasks are numbered in
the order they are spawned: `handed` lists the envelope each was given, `tasks`
those that have not ended. -/
structure WorkerRun (Value : Type) where
  stage : PollStage Value
  semaphore : Semaphore
  tasks : FinMap Nat (JobTask Value)
  handed : List (JobEnvelope Value)

inductive WorkerLabel (Value : Type) where
  | tryRecv (signal : Except TryRecvError Unit)
  | tryAcquire
  | dequeue (reply : Except QueueError (Option (JobEnvelope Value)))
  | spawn
  | dropPermit
  | wake
  | drained
  | handlerReturns (task : Nat) (result : Except QueueError Unit)
  /-- The task's `acknowledge` or `fail` answered; an error is only logged. -/
  | reported (task : Nat) (reply : Except QueueError Unit)
  | panics (task : Nat)

/-- The envelope a label takes off the backend. -/
def WorkerLabel.dequeued {Value : Type} : WorkerLabel Value → List (JobEnvelope Value)
  | .dequeue (.ok (some envelope)) => [envelope]
  | _ => []

def WorkerLabel.isDequeue {Value : Type} : WorkerLabel Value → Bool
  | .dequeue _ => true
  | _ => false

namespace WorkerRun
variable {Value : Type}

/-- What the loop does with the answer of `dequeue`. -/
def afterDequeue : Except QueueError (Option (JobEnvelope Value)) → PollStage Value
  | .ok (some envelope) => .dispatching envelope
  | .ok none => .yielding
  | .error _ => .yielding

/-- A task ends: its permit is dropped with it. -/
def finish (s : WorkerRun Value) (task : Nat) : WorkerRun Value :=
  { s with tasks := s.tasks.erase task, semaphore := s.semaphore.release }

section Step
variable (worker : WorkerConfig) (concurrency : Nat)

/-- `drained` waits for `concurrency as u32` permits, which are dropped where they are
acquired. -/
def step (s : WorkerRun Value) : WorkerLabel Value → Option (WorkerRun Value)
  | .tryRecv signal =>
    match s.stage with
    | .checking => some { s with stage := if signal.isOk then .draining else .acquiring }
    | _ => none
  | .tryAcquire =>
    match s.stage with
    | .acquiring =>
      match s.semaphore.tryAcquire with
      | some semaphore => some { s with stage := .polling, semaphore := semaphore }
      | none => some { s with stage := .sleeping }
    | _ => none
  | .dequeue reply =>
    match s.stage with
    | .polling => some { s with stage := afterDequeue reply }
    | _ => none
  | .spawn =>
    match s.stage with
    | .dispatching envelope => some { s with
        stage := .checking
        tasks := s.tasks.insert s.handed.length ⟨envelope, none⟩
        handed := s.handed ++ [envelope] }
    | _ => none
  | .dropPermit =>
    match s.stage with
    | .yielding => some { s with stage := .sleeping, semaphore := s.semaphore.release }
    | _ => none
  | .wake =>
    match s.stage with
    | .sleeping => some { s with stage := .checking }
    | _ => none
  | .drained =>
    match s.stage with
    | .draining =>
      if s.semaphore.Grants (UInt32.ofNat concurrency).toNat then
        some { s with stage := .returned }
      else none
    | _ => none
  | .handlerReturns task result =>
    match s.tasks.lookup task with
    | some ⟨envelope, none⟩ =>
      let outcome := Worker.outcome worker.registered envelope.jobType result
      some { s with tasks := s.tasks.insert task ⟨envelope, some outcome⟩ }
    | _ => none
  | .reported task _ =>
    match s.tasks.lookup task with
    | some ⟨_, some _⟩ => some (s.finish task)
    | _ => none
  | .panics task =>
    match s.tasks.lookup task with
    | some _ => some (s.finish task)
    | none => none

def machine : Machine (WorkerRun Value) (WorkerLabel Value) where
  init := ⟨.checking, .new concurrency, ∅, []⟩
  step := step worker concurrency

end Step

/-- What one step does, label by label. -/
inductive Moves (worker : WorkerConfig) (concurrency : Nat) (s : WorkerRun Value) :
    WorkerLabel Value → WorkerRun Value → Prop where
  | signalled (here : s.stage = .checking) :
      Moves worker concurrency s (.tryRecv (.ok ())) { s with stage := .draining }
  | unsignalled (here : s.stage = .checking) (e : TryRecvError) :
      Moves worker concurrency s (.tryRecv (.error e)) { s with stage := .acquiring }
  | acquired (here : s.stage = .acquiring) {semaphore : Semaphore}
      (taken : s.semaphore.tryAcquire = some semaphore) :
      Moves worker concurrency s .tryAcquire { s with stage := .polling, semaphore := semaphore }
  | busy (here : s.stage = .acquiring) (taken : s.semaphore.tryAcquire = none) :
      Moves worker concurrency s .tryAcquire { s with stage := .sleeping }
  | dequeued (here : s.stage = .polling) (envelope : JobEnvelope Value) :
      Moves worker concurrency s (.dequeue (.ok (some envelope)))
        { s with stage := .dispatching envelope }
  | empty (here : s.stage = .polling) :
      Moves worker concurrency s (.dequeue (.ok none)) { s with stage := .yielding }
  | failed (here : s.stage = .polling) (e : QueueError) :
      Moves worker concurrency s (.dequeue (.error e)) { s with stage := .yielding }
  | spawned {envelope : JobEnvelope Value} (here : s.stage = .dispatching envelope) :
      Moves worker concurrency s .spawn { s with
        stage := .checking
        tasks := s.tasks.insert s.handed.length ⟨envelope, none⟩
        handed := s.handed ++ [envelope] }
  | dropped (here : s.stage = .yielding) :
      Moves worker concurrency s .dropPermit
        { s with stage := .sleeping, semaphore := s.semaphore.release }
  | woken (here : s.stage = .sleeping) :
      Moves worker concurrency s .wake { s with stage := .checking }
  | drained (here : s.stage = .draining)
      (grants : s.semaphore.Grants (UInt32.ofNat concurrency).toNat) :
      Moves worker concurrency s .drained { s with stage := .returned }
  | returned {n : Nat} {envelope : JobEnvelope Value}
      (live : s.tasks.lookup n = some ⟨envelope, none⟩) (result : Except QueueError Unit)
      {outcome : Except QueueError Unit}
      (decided : outcome = Worker.outcome worker.registered envelope.jobType result) :
      Moves worker concurrency s (.handlerReturns n result)
        { s with tasks := s.tasks.insert n ⟨envelope, some outcome⟩ }
  | reported {n : Nat} {envelope : JobEnvelope Value} {outcome : Except QueueError Unit}
      (live : s.tasks.lookup n = some ⟨envelope, some outcome⟩) (reply : Except QueueError Unit) :
      Moves worker concurrency s (.reported n reply) (s.finish n)
  | panicked {n : Nat} {task : JobTask Value} (live : s.tasks.lookup n = some task) :
      Moves worker concurrency s (.panics n) (s.finish n)

section Inversion
variable {worker : WorkerConfig} {concurrency : Nat} {s t : WorkerRun Value}
  {l : WorkerLabel Value}

theorem step_moves (stepped : step worker concurrency s l = some t) :
    Moves worker concurrency s l t := by
  cases l with
  | tryRecv signal =>
    simp only [step] at stepped
    split at stepped
    · rename_i here
      obtain rfl := Option.some.inj stepped
      rcases signal with e | ⟨⟩
      · exact .unsignalled here e
      · exact .signalled here
    · cases stepped
  | tryAcquire =>
    simp only [step] at stepped
    split at stepped
    · rename_i here
      split at stepped
      · rename_i taken
        obtain rfl := Option.some.inj stepped
        exact .acquired here taken
      · rename_i taken
        obtain rfl := Option.some.inj stepped
        exact .busy here taken
    · cases stepped
  | dequeue reply =>
    simp only [step] at stepped
    split at stepped
    · rename_i here
      obtain rfl := Option.some.inj stepped
      rcases reply with e | _ | envelope
      · exact .failed here e
      · exact .empty here
      · exact .dequeued here envelope
    · cases stepped
  | spawn =>
    simp only [step] at stepped
    split at stepped
    · rename_i here
      obtain rfl := Option.some.inj stepped
      exact .spawned here
    · cases stepped
  | dropPermit =>
    simp only [step] at stepped
    split at stepped
    · rename_i here
      obtain rfl := Option.some.inj stepped
      exact .dropped here
    · cases stepped
  | wake =>
    simp only [step] at stepped
    split at stepped
    · rename_i here
      obtain rfl := Option.some.inj stepped
      exact .woken here
    · cases stepped
  | drained =>
    simp only [step] at stepped
    split at stepped
    · rename_i here
      split at stepped
      · rename_i grants
        obtain rfl := Option.some.inj stepped
        exact .drained here grants
      · cases stepped
    · cases stepped
  | handlerReturns n result =>
    simp only [step] at stepped
    split at stepped
    · rename_i live
      obtain rfl := Option.some.inj stepped
      exact .returned live result rfl
    · cases stepped
  | reported n reply =>
    simp only [step] at stepped
    split at stepped
    · rename_i live
      obtain rfl := Option.some.inj stepped
      exact .reported live reply
    · cases stepped
  | panics n =>
    simp only [step] at stepped
    split at stepped
    · rename_i live
      obtain rfl := Option.some.inj stepped
      exact .panicked live
    · cases stepped

end Inversion

end WorkerRun
end ApiBoilerplate
