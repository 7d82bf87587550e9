import ApiBoilerplate.Uuid

/-!
# Jobs

The envelope a job travels in, the error texts the queue records, and what a
`Worker` decides once a handler has returned. `Value` is the JSON payload.
-/

namespace ApiBoilerplate

inductive JobStatus where
  | pending
  | running
  | completed
  | failed
  | retrying
  deriving DecidableEq, Repr

inductive QueueError where
  | channel (detail : String)
  | database (detail : String)
  | serialization (detail : String)
  | execution (detail : String)
  | unknownJobType (jobType : String)
  deriving DecidableEq, Repr

def QueueError.text : QueueError → String
  | .channel detail => "Channel error: " ++ detail
  | .database detail => "Database error: " ++ detail
  | .serialization detail => "Serialization error: " ++ detail
  | .execution detail => "Job execution error: " ++ detail
  | .unknownJobType jobType => "Unknown job type: " ++ jobType

structure JobEnvelope (Value : Type) where
  id : Uuid
  jobType : String
  payload : Value
  status : JobStatus
  attempts : UInt32
  maxAttempts : UInt32
  runAt : DateTime
  createdAt : DateTime
  error : Option String

/-- A new envelope; the id and the clock reading are drawn by the caller. -/
def JobEnvelope.new {Value : Type} (id : Uuid) (now : DateTime) (jobType : String)
    (payload : Value) (maxAttempts : UInt32) : JobEnvelope Value where
  id := id
  jobType := jobType
  payload := payload
  status := .pending
  attempts := 0
  maxAttempts := maxAttempts
  runAt := now
  createdAt := now
  error := none

/-- What the dispatcher hands to a backend: `JobEnvelope::new`, with the start
time replaced by `dispatch_at`. -/
structure JobOrder (Value : Type) where
  id : Uuid
  now : DateTime
  jobType : String
  payload : Value
  maxAttempts : UInt32
  startAt : Option DateTime

def JobOrder.envelope {Value : Type} (order : JobOrder Value) : JobEnvelope Value :=
  let fresh := JobEnvelope.new order.id order.now order.jobType order.payload order.maxAttempts
  match order.startAt with
  | some at_ => { fresh with runAt := at_ }
  | none => fresh

section Order
variable {Value : Type} (order : JobOrder Value)

@[simp] theorem JobOrder.envelope_id : order.envelope.id = order.id := by
  rcases order with ⟨_, _, _, _, _, _ | _⟩ <;> rfl

@[simp] theorem JobOrder.envelope_jobType : order.envelope.jobType = order.jobType := by
  rcases order with ⟨_, _, _, _, _, _ | _⟩ <;> rfl

@[simp] theorem JobOrder.envelope_payload : order.envelope.payload = order.payload := by
  rcases order with ⟨_, _, _, _, _, _ | _⟩ <;> rfl

@[simp] theorem JobOrder.envelope_status : order.envelope.status = .pending := by
  rcases order with ⟨_, _, _, _, _, _ | _⟩ <;> rfl

@[simp] theorem JobOrder.envelope_attempts : order.envelope.attempts = 0 := by
  rcases order with ⟨_, _, _, _, _, _ | _⟩ <;> rfl

@[simp] theorem JobOrder.envelope_maxAttempts :
    order.envelope.maxAttempts = order.maxAttempts := by
  rcases order with ⟨_, _, _, _, _, _ | _⟩ <;> rfl

end Order

/-- What `Worker::run` is configured with: the job types of its registry and the
first retry delay. -/
structure WorkerConfig where
  registered : String → Bool
  retryDelaySeconds : UInt64

namespace Worker

def saturatingMul (a b : UInt64) : UInt64 :=
  UInt64.ofNat (min (a.toNat * b.toNat) (2 ^ 64 - 1))

def saturatingPow (base : UInt64) : Nat → UInt64
  | 0 => 1
  | n + 1 => saturatingMul (saturatingPow base n) base

/-- `delay * 2^(attempt-1)` seconds, capped at one hour. -/
def backoff (retryDelay : UInt64) (attempts : UInt32) : UInt64 :=
  min (saturatingMul retryDelay (saturatingPow 2 (attempts.toNat - 1))) 3600

def shouldRetry (attempts maxAttempts : UInt32) : Bool := attempts < maxAttempts

def retryAt (retryDelay : UInt64) (attempts maxAttempts : UInt32) (now : DateTime) :
    Option DateTime :=
  if shouldRetry attempts maxAttempts then
    some (now + 1000000000 * ((backoff retryDelay attempts).toNat : Int))
  else none

/-- The handler's own result, or an error when no handler is registered. -/
def outcome (registered : String → Bool) (jobType : String)
    (result : Except QueueError Unit) : Except QueueError Unit :=
  if registered jobType then result else .error (.unknownJobType jobType)

end Worker

/-- The task spawned for a dequeued job; `result` once the handler returned. -/
structure JobTask (Value : Type) where
  envelope : JobEnvelope Value
  result : Option (Except QueueError Unit)

/-- The number of a task within the process that spawned it. -/
structure TaskId where
  process : Nat
  number : Nat
  deriving DecidableEq, Repr

end ApiBoilerplate
