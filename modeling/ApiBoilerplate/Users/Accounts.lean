import ApiBoilerplate.Foundation.KeyedTable
import ApiBoilerplate.Http.TokenLifetime
import ApiBoilerplate.Users.Service

/-!
# The user service over the whole table

All calls of the service on one `users` table and one cache, cut at every statement
of the database and every operation on the cache: `create` with the handler that
announces the new user, `login`, and the calls on one user id of `Users.Service`.
Emails are compared as the column's collation compares them.
-/

namespace ApiBoilerplate.Users

open Foundation Http

structure CreateUserDto where
  email : String
  name : String
  password : String
  deriving DecidableEq

structure LoginDto where
  email : String
  password : String
  deriving DecidableEq

structure LoginResponse where
  token : String
  user : UserResponse
  deriving DecidableEq

/-- A field that failed its check, with the message of the check. -/
structure FieldError where
  field : String
  message : String
  deriving DecidableEq

/-- What other code gives the service: how the database compares emails and words its
refusals, `validator`, `argon2`, `jsonwebtoken` and `serde_json`. -/
structure Libraries (κ : Type) where
  collate : String → κ
  duplicateEntry : String → String
  dataTooLong : String → String
  isEmail : String → Bool
  display : List FieldError → String
  hashPassword : (salt : String) → (password : String) → Except String String
  verifyPassword : (password : String) → (hash : String) → Bool
  jwt : Jwt
  toJson : UserResponse → Except String String
  fromJson : String → Except String UserResponse

def check (holds : Bool) (field message : String) : List FieldError :=
  if holds then [] else [⟨field, message⟩]

def goodName (name : String) : Bool := 2 ≤ name.length && name.length ≤ 100

def goodPassword (password : String) : Bool := 8 ≤ password.length

def checkName (name : String) : List FieldError :=
  check (goodName name) "name" "must be between 2 and 100 characters"

section Validation
variable {κ : Type} (lib : Libraries κ)

def CreateUserDto.failures (dto : CreateUserDto) : List FieldError :=
  check (lib.isEmail dto.email) "email" "must be a valid email address" ++
    checkName dto.name ++
    check (goodPassword dto.password) "password" "must be at least 8 characters"

def UpdateUserDto.failures (dto : UpdateUserDto) : List FieldError :=
  (dto.name.map checkName).getD []

/-- `validate`, with its errors printed. -/
def validated (failures : List FieldError) : Except String Unit :=
  if failures.isEmpty then .ok () else .error (lib.display failures)

def Libraries.codec : UserCodec where
  toJson := lib.toJson
  fromJson := lib.fromJson
  validate := fun dto => validated lib dto.failures

end Validation

/-- A row as it was inserted, and the password it was made from. -/
structure Account where
  model : Model
  password : String
  deriving DecidableEq

inductive Call where
  | idle
  /-- `find_by_id`, `update` or `delete`. -/
  | onUser (id : Uuid) (stage : Stage)
  /-- `create`: the row is inserted. -/
  | inserting (account : Account)
  /-- `create`: the inserted row is read back, the database returns no rows. -/
  | readingBack (id : Uuid)
  | created (result : Except AppError UserResponse)
  /-- `login`: the row is looked up by its email. -/
  | selecting (dto : LoginDto)
  /-- The outer error is the message of a panic. -/
  | loggedIn (result : Except String (Except AppError LoginResponse))
  | dropped
  deriving DecidableEq

/-- A call that may be dropped: it waits for the cache or the database. -/
def Call.waits : Call → Bool
  | .onUser _ stage => stage.waits
  | .inserting _ | .readingBack _ | .selecting _ => true
  | .idle | .created _ | .loggedIn _ | .dropped => false

/-- A call whose database operation failed. -/
def Call.failed (error : AppError) : Call → Option Call
  | .onUser id stage =>
    if stage.atDatabase then some (.onUser id (.returned (stage.failed error))) else none
  | .inserting _ | .readingBack _ => some (.created (.error error))
  | .selecting _ => some (.loggedIn (.ok (.error error)))
  | .idle | .created _ | .loggedIn _ | .dropped => none

structure Accounts where
  rows : List Model
  cache : String → Option String
  calls : Nat → Call
  /-- The users of the `user.created` events handed to the hub. -/
  announced : List UserResponse
  /-- The ids drawn so far; no id is drawn twice. -/
  drawn : List Uuid
  /-- Every account ever inserted, whatever became of it. -/
  ledger : List Account

inductive AccountLabel where
  | find (call : Nat) (id : Uuid)
  | update (call : Nat) (id : Uuid) (dto : UpdateUserDto)
  | delete (call : Nat) (id : Uuid)
  | create (call : Nat) (dto : CreateUserDto) (salt : String) (id : Uuid) (now : Nat)
  | login (call : Nat) (dto : LoginDto)
  /-- The call does its next operation; `now` is the clock where it reads it. -/
  | advance (call : Nat) (now : Nat)
  | databaseError (call : Nat) (error : String)
  /-- The write takes effect, and the call gets an error all the same. -/
  | lostReply (call : Nat) (now : Nat) (error : String)
  | cancel (call : Nat)
  /-- The cache drops an entry. -/
  | expire (key : String)

/-- The clock as the database keeps it. -/
def millis (now : Nat) : DateTime := DateTime.stored now

def cacheKey (id : Uuid) : String := "user:" ++ id.hyphenated

/-- SeaORM's error for an inserted row that is gone when it is read back. -/
def insertedRowGone : AppError := .ormError "RecordNotFound Error: Failed to find inserted item"

def invalidCredentials : AppError := .unauthorized "Invalid credentials"

namespace Accounts

/-- No users, nothing cached and no calls. -/
def empty : Accounts where
  rows := []
  cache := fun _ => none
  calls := fun _ => .idle
  announced := []
  drawn := []
  ledger := []

def setCall (s : Accounts) (call : Nat) (c : Call) : Accounts :=
  { s with calls := Function.update s.calls call c }

section Operations
variable {κ : Type} [DecidableEq κ] (lib : Libraries κ) (cfg : TokenConfig) (s : Accounts)
  (call : Nat)

section OnUser
variable (id : Uuid)

def selectUser : Option Model := Table.select Model.id id s.rows

def stay (stage : Stage) : Accounts := s.setCall call (.onUser id stage)

def startUpdate (dto : UpdateUserDto) : Accounts :=
  match validated lib dto.failures with
  | .error e => s.stay call id (.returned (.user (.error (.validation e))))
  | .ok () => s.stay call id (.loading dto)

def cacheGet : Accounts :=
  match (s.cache (cacheKey id)).map lib.fromJson with
  | some (.ok user) => s.stay call id (.returned (.user (.ok user)))
  | some (.error _) | none => s.stay call id .reading

def readUser : Accounts :=
  match s.selectUser id with
  | none => s.stay call id (.returned (.user (.error (userNotFound id))))
  | some model => s.stay call id (.caching model.response)

def cacheInsert (response : UserResponse) : Accounts :=
  let done := s.stay call id (.returned (.user (.ok response)))
  match lib.toJson response with
  | .ok json => { done with cache := Function.update s.cache (cacheKey id) (some json) }
  | .error _ => done

def loadUser (dto : UpdateUserDto) : Accounts :=
  match s.selectUser id with
  | none => s.stay call id (.returned (.user (.error (userNotFound id))))
  | some _ => s.stay call id (.writing dto)

def updateRow (dto : UpdateUserDto) (now : Nat) : List Model :=
  Table.modify Model.id id (fun m => m.updated dto (millis now)) s.rows

def writeUser (dto : UpdateUserDto) (now : Nat) : Accounts :=
  match s.selectUser id with
  | none => s.stay call id (.returned (.user (.error recordNotUpdated)))
  | some _ => { s.stay call id .reloading with rows := s.updateRow id dto now }

def reloadUser : Accounts :=
  match s.selectUser id with
  | none => s.stay call id (.returned (.user (.error updatedRowGone)))
  | some model => s.stay call id (.invalidating model)

def invalidate (outcome : Outcome) : Accounts :=
  { s.stay call id (.finishing outcome) with
    cache := Function.update s.cache (cacheKey id) none }

def deleteRow : List Model := Table.delete Model.id id s.rows

def deleteUser : Accounts :=
  match s.selectUser id with
  | none => s.stay call id (.returned (.deleted (.error (userNotFound id))))
  | some _ => { s.stay call id .forgetting with rows := s.deleteRow id }

def advanceUser (now : Nat) : Stage → Option Accounts
  | .finding => some (s.cacheGet lib call id)
  | .reading => some (s.readUser call id)
  | .caching response => some (s.cacheInsert lib call id response)
  | .loading dto => some (s.loadUser call id dto)
  | .writing dto => some (s.writeUser call id dto now)
  | .reloading => some (s.reloadUser call id)
  | .invalidating updated => some (s.invalidate call id (.user (.ok updated.response)))
  | .deleting => some (s.deleteUser call id)
  | .forgetting => some (s.invalidate call id (.deleted (.ok ())))
  | .finishing outcome => some (s.stay call id (.returned outcome))
  | .idle | .returned _ | .dropped => none

end OnUser

def startCreate (dto : CreateUserDto) (salt : String) (id : Uuid) (now : Nat) : Accounts :=
  match validated lib (dto.failures lib) with
  | .error e => s.setCall call (.created (.error (.validation e)))
  | .ok () =>
    match lib.hashPassword salt dto.password with
    | .error e => s.setCall call (.created (.error (.internal ("Password hashing failed: " ++ e))))
    | .ok passwordHash =>
      let model : Model := ⟨id, dto.email, dto.name, passwordHash, millis now, millis now⟩
      { s.setCall call (.inserting ⟨model, dto.password⟩) with drawn := s.drawn ++ [id] }

def selectByEmail (email : String) : Option Model :=
  Table.select (fun m => lib.collate m.email) (lib.collate email) s.rows

/-- Why the table does not take a row: the column's length and its two keys. -/
def refused (model : Model) : Option String :=
  if 255 < model.email.length then some (lib.dataTooLong "email")
  else if (s.selectUser model.id).isSome then some (lib.duplicateEntry model.id.hyphenated)
  else if (s.selectByEmail lib model.email).isSome then some (lib.duplicateEntry model.email)
  else none

/-- The table with the row in it. -/
def inserted (account : Account) : Accounts :=
  { s with
    rows := s.rows ++ [account.model]
    ledger := s.ledger ++ [account] }

def insertUser (account : Account) : Accounts :=
  match s.refused lib account.model with
  | some e => s.setCall call (.created (.error (.ormError e)))
  | none => (s.inserted account).setCall call (.readingBack account.model.id)

/-- From here on the handler waits for nothing: it announces the user and returns. -/
def readBack (id : Uuid) : Accounts :=
  match s.selectUser id with
  | none => s.setCall call (.created (.error insertedRowGone))
  | some model =>
    { s.setCall call (.created (.ok model.response)) with
      announced := s.announced ++ [model.response] }

/-- `login` on the row that was found. -/
def loginResult (now : Nat) (dto : LoginDto) (found : Option Model) :
    Except String (Except AppError LoginResponse) :=
  match found with
  | none => .ok (.error invalidCredentials)
  | some model =>
    if lib.verifyPassword dto.password model.passwordHash then
      match generateToken lib.jwt now model.id model.email cfg with
      | .error panic => .error panic
      | .ok (.error e) => .ok (.error e)
      | .ok (.ok token) => .ok (.ok ⟨token, model.response⟩)
    else .ok (.error invalidCredentials)

def loginUser (dto : LoginDto) (now : Nat) : Accounts :=
  s.setCall call (.loggedIn (loginResult lib cfg now dto (s.selectByEmail lib dto.email)))

def advance (now : Nat) : Option Accounts :=
  match s.calls call with
  | .onUser id stage => s.advanceUser lib call id now stage
  | .inserting account => some (s.insertUser lib call account)
  | .readingBack id => some (s.readBack call id)
  | .selecting dto => some (s.loginUser lib cfg call dto now)
  | .idle | .created _ | .loggedIn _ | .dropped => none

/-- What a write of the call leaves behind. -/
def written (now : Nat) : Option Accounts :=
  match s.calls call with
  | .onUser id (.writing dto) =>
    (s.selectUser id).map fun _ => { s with rows := s.updateRow id dto now }
  | .onUser id .deleting => (s.selectUser id).map fun _ => { s with rows := s.deleteRow id }
  | .inserting account =>
    if (s.refused lib account.model).isNone then some (s.inserted account) else none
  | _ => none

end Operations

variable {κ : Type} [DecidableEq κ]

def step (lib : Libraries κ) (cfg : TokenConfig) (s : Accounts) : AccountLabel → Option Accounts
  | .find call id => if s.calls call = .idle then some (s.stay call id .finding) else none
  | .update call id dto =>
    if s.calls call = .idle then some (s.startUpdate lib call id dto) else none
  | .delete call id => if s.calls call = .idle then some (s.stay call id .deleting) else none
  | .create call dto salt id now =>
    if s.calls call = .idle ∧ id ∉ s.drawn then some (s.startCreate lib call dto salt id now)
    else none
  | .login call dto => if s.calls call = .idle then some (s.setCall call (.selecting dto)) else none
  | .advance call now => s.advance lib cfg call now
  | .databaseError call error =>
    ((s.calls call).failed (.ormError error)).map fun c => s.setCall call c
  | .lostReply call now error =>
    (s.written lib call now).bind fun t =>
      ((s.calls call).failed (.ormError error)).map fun c => t.setCall call c
  | .cancel call =>
    match s.calls call with
    | .onUser id stage => if stage.waits then some (s.stay call id .dropped) else none
    | c => if c.waits then some (s.setCall call .dropped) else none
  | .expire key => some { s with cache := Function.update s.cache key none }

def machine (lib : Libraries κ) (cfg : TokenConfig) : Machine Accounts AccountLabel where
  init := empty
  step := step lib cfg

end Accounts
end ApiBoilerplate.Users
