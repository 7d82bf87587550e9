import ApiBoilerplate.Foundation.Machine
import ApiBoilerplate.Http.AppError
import ApiBoilerplate.Uuid
import Mathlib.Logic.Function.Basic

/-!
# The user service and its cache

`find_by_id`, `update` and `delete` of one user id, cut at every cache and
database operation, so that any number of calls may interleave. The cache may
drop its entry at any time, the database may fail any operation, and a call may
be dropped while it waits.
-/

namespace ApiBoilerplate.Users

open Foundation Http

/-- A row of the `users` table. -/
structure Model where
  id : Uuid
  email : String
  name : String
  passwordHash : String
  createdAt : DateTime
  updatedAt : DateTime
  deriving DecidableEq

structure UserResponse where
  id : Uuid
  email : String
  name : String
  createdAt : DateTime
  updatedAt : DateTime
  deriving DecidableEq

def Model.response (m : Model) : UserResponse where
  id := m.id
  email := m.email
  name := m.name
  createdAt := m.createdAt
  updatedAt := m.updatedAt

structure UpdateUserDto where
  name : Option String
  deriving DecidableEq

/-- What `serde_json` makes of a `UserResponse`, and `validator` of an
`UpdateUserDto`. -/
structure UserCodec where
  toJson : UserResponse → Except String String
  fromJson : String → Except String UserResponse
  validate : UpdateUserDto → Except String Unit

/-- The columns that `update` sets, on the row as it is then. -/
def Model.updated (m : Model) (dto : UpdateUserDto) (now : DateTime) : Model :=
  { m with
    name := dto.name.getD m.name
    updatedAt := now }

inductive Request where
  | findById
  | update (dto : UpdateUserDto)
  | delete
  deriving DecidableEq

inductive Outcome where
  | user (result : Except AppError UserResponse)
  | deleted (result : Except AppError Unit)
  deriving DecidableEq

/-- Where a call stands: the operation it does next, with what it holds. -/
inductive Stage where
  | idle
  /-- `find_by_id`: `cache.get`. -/
  | finding
  /-- `find_by_id`: the row is read. -/
  | reading
  /-- `find_by_id`: `cache.insert`. -/
  | caching (response : UserResponse)
  /-- `update`: the row is read. -/
  | loading (dto : UpdateUserDto)
  /-- `update`: the row is written. -/
  | writing (dto : UpdateUserDto)
  /-- `update`: the written row is read back, the database returns no rows. -/
  | reloading
  /-- `update`: `cache.invalidate`. -/
  | invalidating (updated : Model)
  /-- `delete`: the row is deleted. -/
  | deleting
  /-- `delete`: `cache.invalidate`. -/
  | forgetting
  /-- Nothing is left but to return. -/
  | finishing (outcome : Outcome)
  | returned (outcome : Outcome)
  | dropped
  deriving DecidableEq

def Stage.atDatabase : Stage → Bool
  | .reading | .loading _ | .writing _ | .reloading | .deleting => true
  | _ => false

/-- A call that may be dropped: it waits for the cache or the database. -/
def Stage.waits : Stage → Bool
  | .idle | .finishing _ | .returned _ | .dropped => false
  | _ => true

/-- The outcome of a call whose database operation failed. -/
def Stage.failed (stage : Stage) (error : AppError) : Outcome :=
  match stage with
  | .deleting => .deleted (.error error)
  | _ => .user (.error error)

structure Service where
  /-- The row of the user id in the database. -/
  row : Option Model
  /-- A row with this id has been created; ids are never reused. -/
  issued : Bool
  /-- The cache entry under `user:<id>`. -/
  cached : Option String
  calls : Nat → Stage

inductive Label where
  | start (call : Nat) (request : Request)
  /-- The call does its next operation; `now` is the clock where it reads it. -/
  | advance (call : Nat) (now : DateTime)
  | databaseError (call : Nat) (error : String)
  /-- The write takes effect, and the call gets an error all the same. -/
  | lostReply (call : Nat) (now : DateTime) (error : String)
  | cancel (call : Nat)
  /-- The cache drops its entry. -/
  | expire
  | create (model : Model)

def userNotFound (id : Uuid) : AppError := .notFound ("User " ++ id.hyphenated ++ " not found")

/-- SeaORM's error for an `UPDATE` that matched no row. -/
def recordNotUpdated : AppError := .ormError "None of the records are updated"

/-- SeaORM's error for an updated row that is gone when it is read back. -/
def updatedRowGone : AppError := .ormError "RecordNotFound Error: Failed to find updated item"

namespace Service

def setCall (s : Service) (call : Nat) (stage : Stage) : Service :=
  { s with calls := Function.update s.calls call stage }

section Operations
variable (codec : UserCodec) (id : Uuid) (s : Service) (call : Nat)

def start : Request → Service
  | .findById => s.setCall call .finding
  | .update dto =>
    match codec.validate dto with
    | .error e => s.setCall call (.returned (.user (.error (.validation e))))
    | .ok () => s.setCall call (.loading dto)
  | .delete => s.setCall call .deleting

def cacheGet : Service :=
  match s.cached.map codec.fromJson with
  | some (.ok user) => s.setCall call (.returned (.user (.ok user)))
  | some (.error _) | none => s.setCall call .reading

def readUser : Service :=
  match s.row with
  | none => s.setCall call (.returned (.user (.error (userNotFound id))))
  | some model => s.setCall call (.caching model.response)

def cacheInsert (response : UserResponse) : Service :=
  let done := s.setCall call (.returned (.user (.ok response)))
  match codec.toJson response with
  | .ok json => { done with cached := some json }
  | .error _ => done

def loadUser (dto : UpdateUserDto) : Service :=
  match s.row with
  | none => s.setCall call (.returned (.user (.error (userNotFound id))))
  | some _ => s.setCall call (.writing dto)

/-- Only the changed columns are written, to whatever the row holds by now. -/
def writeUser (dto : UpdateUserDto) (now : DateTime) : Service :=
  match s.row with
  | none => s.setCall call (.returned (.user (.error recordNotUpdated)))
  | some model => { s.setCall call .reloading with row := some (model.updated dto now) }

def reloadUser : Service :=
  match s.row with
  | none => s.setCall call (.returned (.user (.error updatedRowGone)))
  | some model => s.setCall call (.invalidating model)

def invalidate (outcome : Outcome) : Service :=
  { s.setCall call (.finishing outcome) with cached := none }

def deleteUser : Service :=
  match s.row with
  | none => s.setCall call (.returned (.deleted (.error (userNotFound id))))
  | some _ => { s.setCall call .forgetting with row := none }

def advance (now : DateTime) : Option Service :=
  match s.calls call with
  | .finding => some (s.cacheGet codec call)
  | .reading => some (s.readUser id call)
  | .caching response => some (s.cacheInsert codec call response)
  | .loading dto => some (s.loadUser id call dto)
  | .writing dto => some (s.writeUser call dto now)
  | .reloading => some (s.reloadUser call)
  | .invalidating updated => some (s.invalidate call (.user (.ok updated.response)))
  | .deleting => some (s.deleteUser id call)
  | .forgetting => some (s.invalidate call (.deleted (.ok ())))
  | .finishing outcome => some (s.setCall call (.returned outcome))
  | .idle | .returned _ | .dropped => none

/-- What a write leaves in the row, if there is one. -/
def written (now : DateTime) : Option (Option Model) :=
  match s.calls call, s.row with
  | .writing dto, some model => some (some (model.updated dto now))
  | .deleting, some _ => some none
  | _, _ => none

end Operations

def step (codec : UserCodec) (id : Uuid) (s : Service) : Label → Option Service
  | .start call request =>
    match s.calls call with
    | .idle => some (s.start codec call request)
    | _ => none
  | .advance call now => s.advance codec id call now
  | .databaseError call error =>
    if (s.calls call).atDatabase then
      some (s.setCall call (.returned ((s.calls call).failed (.ormError error))))
    else none
  | .lostReply call now error =>
    (s.written call now).map (fun row =>
      { s.setCall call (.returned ((s.calls call).failed (.ormError error))) with row := row })
  | .cancel call => if (s.calls call).waits then some (s.setCall call .dropped) else none
  | .expire => some { s with cached := none }
  | .create model => if s.issued then none else some { s with row := some model, issued := true }

/-- One user id, with or without a row, and nothing cached yet. -/
def machine (codec : UserCodec) (id : Uuid) (row : Option Model) : Machine Service Label where
  init :=
    { row := row
      issued := row.isSome
      cached := none
      calls := fun _ => .idle }
  step := step codec id

end Service
end ApiBoilerplate.Users
