import ApiBoilerplate.Queue.Job
import Mathlib.Data.Finset.Insert

/-!
# The dispatcher

Four entry points turn a payload into the one envelope that the backend is given.
Three of them serialise the payload first; all read the job type out of the value.
The id and the clock are drawn when the envelope is built.
-/

namespace ApiBoilerplate

/-- `serde_json::Number`; a float is given by its bits. -/
inductive JsonNumber where
  | posInt (n : UInt64)
  | negInt (n : Int64)
  | float (bits : UInt64)
  deriving DecidableEq, Repr

/-- `serde_json::Value`; an object is a family over its keys, so none occurs twice. -/
inductive Json where
  | null
  | bool (b : Bool)
  | number (n : JsonNumber)
  | string (s : String)
  | array (items : List Json)
  | object (keys : Finset String) (values : {k // k ∈ keys} → Json)

namespace Json

def get : Json → String → Option Json
  | .object keys values, key => if listed : key ∈ keys then some (values ⟨key, listed⟩) else none
  | _, _ => none

def asStr : Json → Option String
  | .string s => some s
  | _ => none

/-- The string field `type`. -/
def typeField (value : Json) : Option String := (value.get "type").bind asStr

theorem typeField_eq_some {value : Json} {s : String} : value.typeField = some s ↔
    ∃ keys values, value = .object keys values ∧
      ∃ listed : "type" ∈ keys, values ⟨"type", listed⟩ = .string s := by
  constructor
  · intro typed
    obtain ⟨field, got, text⟩ := Option.bind_eq_some_iff.mp typed
    cases value with
    | object keys values =>
      simp only [get] at got
      split at got
      · rename_i listed
        obtain rfl := Option.some.inj got
        cases found : values ⟨"type", listed⟩ with
        | string s' =>
          rw [found] at text
          obtain rfl := Option.some.inj text
          exact ⟨keys, values, rfl, listed, found⟩
        | _ => rw [found] at text; cases text
      · cases got
    | _ => cases got
  · rintro ⟨keys, values, rfl, listed, found⟩
    simp only [typeField, get, dif_pos listed, Option.bind_some, found, asStr]

end Json

/-- What `JobEnvelope::new` draws. -/
structure Stamp where
  id : Uuid
  now : DateTime
  deriving DecidableEq, Repr

structure Dispatcher where
  defaultMaxAttempts : UInt32

namespace Dispatcher
variable {J : Type}

def extractType (value : Json) : Except QueueError String :=
  match (value.get "type").bind Json.asStr with
  | some s => .ok s
  | none => .error (.execution "Job payload must contain a string field named \"type\"")

section Entries
variable (d : Dispatcher) (toValue : J → Except String Json) (stamp : Stamp)

def prepare (payload : J) : Except QueueError (String × Json) := do
  let value ← (toValue payload).mapError QueueError.serialization
  let jobType ← extractType value
  return (jobType, value)

def dispatchWithRetries (payload : J) (maxAttempts : UInt32) :
    Except QueueError (JobOrder Json) := do
  let (jobType, value) ← prepare toValue payload
  return ⟨stamp.id, stamp.now, jobType, value, maxAttempts, none⟩

def dispatch (payload : J) : Except QueueError (JobOrder Json) :=
  dispatchWithRetries toValue stamp payload d.defaultMaxAttempts

def dispatchAt (payload : J) (runAt : DateTime) : Except QueueError (JobOrder Json) := do
  let (jobType, value) ← prepare toValue payload
  return ⟨stamp.id, stamp.now, jobType, value, d.defaultMaxAttempts, some runAt⟩

def dispatchValue (value : Json) : Except QueueError (JobOrder Json) := do
  let jobType ← extractType value
  return ⟨stamp.id, stamp.now, jobType, value, d.defaultMaxAttempts, none⟩

end Entries

theorem extractType_eq (value : Json) : extractType value =
    match value.typeField with
    | some s => .ok s
    | none => .error (.execution "Job payload must contain a string field named \"type\"") := rfl

end Dispatcher

/-- A call of one of the entry points. -/
inductive Dispatch (J : Type) where
  | dispatch (payload : J)
  | dispatchAt (payload : J) (runAt : DateTime)
  | dispatchWithRetries (payload : J) (maxAttempts : UInt32)
  | dispatchValue (value : Json)

namespace Dispatch
variable {J : Type}

/-- The value that is dispatched. -/
def value (toValue : J → Except String Json) : Dispatch J → Except String Json
  | .dispatch payload => toValue payload
  | .dispatchAt payload _ => toValue payload
  | .dispatchWithRetries payload _ => toValue payload
  | .dispatchValue value => .ok value

def maxAttempts (d : Dispatcher) : Dispatch J → UInt32
  | .dispatchWithRetries _ maxAttempts => maxAttempts
  | _ => d.defaultMaxAttempts

def startAt : Dispatch J → Option DateTime
  | .dispatchAt _ runAt => some runAt
  | _ => none

end Dispatch

namespace Dispatcher
variable {J : Type} (d : Dispatcher) (toValue : J → Except String Json)

/-- What a call hands to the backend. -/
def order (stamp : Stamp) : Dispatch J → Except QueueError (JobOrder Json)
  | .dispatch payload => d.dispatch toValue stamp payload
  | .dispatchAt payload runAt => d.dispatchAt toValue stamp payload runAt
  | .dispatchWithRetries payload maxAttempts =>
    dispatchWithRetries toValue stamp payload maxAttempts
  | .dispatchValue value => d.dispatchValue stamp value

/-- All entry points do the same with their value. -/
theorem order_eq (stamp : Stamp) (entry : Dispatch J) : d.order toValue stamp entry =
    (entry.value toValue).mapError QueueError.serialization >>= fun value =>
      extractType value >>= fun jobType =>
        pure ⟨stamp.id, stamp.now, jobType, value, entry.maxAttempts d, entry.startAt⟩ := by
  cases entry with
  | dispatch payload | dispatchAt payload | dispatchWithRetries payload =>
    simp only [order, dispatch, dispatchAt, dispatchWithRetries, prepare, Dispatch.value,
      Dispatch.maxAttempts, Dispatch.startAt, bind_assoc, pure_bind]
  | dispatchValue value => rfl

section Orders
variable {d toValue} {stamp : Stamp} {entry : Dispatch J} {value : Json} {jobType : String}

theorem order_of_typed (serialised : entry.value toValue = .ok value)
    (typed : value.typeField = some jobType) : d.order toValue stamp entry =
      .ok ⟨stamp.id, stamp.now, jobType, value, entry.maxAttempts d, entry.startAt⟩ := by
  rw [order_eq, serialised]
  change extractType value >>= _ = _
  rw [extractType_eq, typed]
  rfl

/-- A payload that cannot be serialised, or a value without a type, is refused. -/
theorem order_of_untyped
    (untyped : ∀ value, entry.value toValue = .ok value → value.typeField = none) :
    ∃ e, d.order toValue stamp entry = .error e := by
  rw [order_eq]
  cases serialised : entry.value toValue with
  | error e => exact ⟨.serialization e, rfl⟩
  | ok value =>
    refine ⟨.execution "Job payload must contain a string field named \"type\"", ?_⟩
    change extractType value >>= _ = _
    rw [extractType_eq, untyped value serialised]
    rfl

theorem typed_of_order {made : JobOrder Json} (ordered : d.order toValue stamp entry = .ok made) :
    ∃ value jobType, entry.value toValue = .ok value ∧ value.typeField = some jobType ∧
      made = ⟨stamp.id, stamp.now, jobType, value, entry.maxAttempts d, entry.startAt⟩ := by
  cases serialised : entry.value toValue with
  | error e =>
    rw [order_eq, serialised] at ordered
    cases ordered
  | ok value =>
    cases typed : value.typeField with
    | none =>
      have untyped : ∀ value', entry.value toValue = .ok value' → value'.typeField = none := by
        intro value' same
        obtain rfl := Except.ok.inj (serialised.symm.trans same)
        exact typed
      obtain ⟨e, refused⟩ : ∃ e, d.order toValue stamp entry = .error e := order_of_untyped untyped
      rw [refused] at ordered
      cases ordered
    | some jobType =>
      rw [order_of_typed serialised typed] at ordered
      exact ⟨value, jobType, rfl, typed, (Except.ok.inj ordered).symm⟩

end Orders

end Dispatcher
end ApiBoilerplate
