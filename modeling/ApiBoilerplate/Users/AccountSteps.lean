import ApiBoilerplate.Users.Accounts

/-!
# What a step of the user service does

A step moves one call, and either leaves the table alone or draws an id, inserts,
updates or deletes one row, or announces a user. Everything proved of the service goes
through this list.
-/

namespace ApiBoilerplate.Users

open Foundation Http

section
variable {κ : Type} (lib : Libraries κ)

/-- What `create` has checked of an account. -/
structure Account.Admitted (a : Account) : Prop where
  email : lib.isEmail a.model.email = true
  name : goodName a.model.name = true
  password : goodPassword a.password = true
  hashed : ∃ salt, lib.hashPassword salt a.password = .ok a.model.passwordHash

end

section Checks
variable {κ : Type} {lib : Libraries κ}

theorem check_eq_nil {holds : Bool} {field message : String} :
    check holds field message = [] ↔ holds = true := by
  cases holds <;> simp [check]

theorem validated_ok {failures : List FieldError} :
    validated lib failures = .ok () ↔ failures = [] := by
  cases failures <;> simp [validated]

theorem CreateUserDto.failures_eq_nil {dto : CreateUserDto} : dto.failures lib = [] ↔
    lib.isEmail dto.email = true ∧ goodName dto.name = true ∧ goodPassword dto.password = true := by
  simp [failures, checkName, check_eq_nil]

theorem goodName_updated {m : Model} {dto : UpdateUserDto} (valid : dto.failures = [])
    (good : goodName m.name = true) (now : DateTime) :
    goodName (m.updated dto now).name = true := by
  cases given : dto.name with
  | none => simpa [Model.updated, given] using good
  | some name =>
    have checked : checkName name = [] := by simpa [UpdateUserDto.failures, given] using valid
    simpa [Model.updated, given] using check_eq_nil.mp checked

end Checks

/-- The outcome of a creation, which nothing changes any more. -/
def Call.settled : Call → Bool
  | .created _ => true
  | _ => false

/-- Stages a call may take up without drawing, inserting or announcing anything. -/
def Call.Plain (before : Call) : Call → Prop
  | .onUser _ (.loading dto) => dto.failures = []
  | .onUser id (.writing dto) => before = .onUser id (.loading dto)
  | .inserting _ | .readingBack _ | .created (.ok _) => False
  | _ => True

namespace Accounts
variable {κ : Type} [DecidableEq κ]

/-- The table, the ledger, the draws and the announcements stay as they are. -/
structure Keeps (s t : Accounts) : Prop where
  rows : t.rows = s.rows
  ledger : t.ledger = s.ledger
  drawn : t.drawn = s.drawn
  announced : t.announced = s.announced

/-- Only one call moves, to the given stage. -/
structure Moves (s t : Accounts) (call : Nat) (after : Call) : Prop where
  live : (s.calls call).settled = false
  calls : t.calls = Function.update s.calls call after

inductive Effect (lib : Libraries κ) (s t : Accounts) : Prop where
  | expired (keeps : Keeps s t) (calls : t.calls = s.calls)
  | moved (call : Nat) (after : Call) (keeps : Keeps s t) (moves : s.Moves t call after)
      (plain : (s.calls call).Plain after)
  | drew (call : Nat) (account : Account) (admitted : account.Admitted lib)
      (fresh : account.model.id ∉ s.drawn) (rows : t.rows = s.rows) (ledger : t.ledger = s.ledger)
      (announced : t.announced = s.announced) (drawn : t.drawn = s.drawn ++ [account.model.id])
      (moves : s.Moves t call (.inserting account))
  | inserted (call : Nat) (account : Account) (after : Call)
      (before : s.calls call = .inserting account) (accepted : s.refused lib account.model = none)
      (rows : t.rows = s.rows ++ [account.model]) (ledger : t.ledger = s.ledger ++ [account])
      (announced : t.announced = s.announced) (drawn : t.drawn = s.drawn)
      (moves : s.Moves t call after)
      (next : after = .readingBack account.model.id ∨ ∃ e, after = .created (.error e))
  | updated (call : Nat) (id : Uuid) (dto : UpdateUserDto) (now : Nat) (after : Call)
      (before : s.calls call = .onUser id (.writing dto))
      (rows : t.rows = s.updateRow id dto now) (ledger : t.ledger = s.ledger)
      (announced : t.announced = s.announced) (drawn : t.drawn = s.drawn)
      (moves : s.Moves t call after) (plain : (s.calls call).Plain after)
  | deleted (call : Nat) (id : Uuid) (after : Call) (rows : t.rows = s.deleteRow id)
      (ledger : t.ledger = s.ledger) (announced : t.announced = s.announced)
      (drawn : t.drawn = s.drawn) (moves : s.Moves t call after)
      (plain : (s.calls call).Plain after)
  | announced (call : Nat) (id : Uuid) (model : Model) (before : s.calls call = .readingBack id)
      (found : s.selectUser id = some model) (rows : t.rows = s.rows) (ledger : t.ledger = s.ledger)
      (announced : t.announced = s.announced ++ [model.response]) (drawn : t.drawn = s.drawn)
      (moves : s.Moves t call (.created (.ok model.response)))

variable {lib : Libraries κ} {cfg : TokenConfig} {s t : Accounts} {call : Nat} {id : Uuid}
  {now : Nat}

theorem setCall_effect {after : Call} (live : (s.calls call).settled = false)
    (plain : (s.calls call).Plain after) : Effect lib s (s.setCall call after) :=
  .moved call after ⟨rfl, rfl, rfl, rfl⟩ ⟨live, rfl⟩ plain

theorem startUpdate_effect (dto : UpdateUserDto) (live : (s.calls call).settled = false) :
    Effect lib s (s.startUpdate lib call id dto) := by
  unfold startUpdate
  cases checked : validated lib dto.failures with
  | error e => exact setCall_effect live trivial
  | ok _ => exact setCall_effect live (validated_ok.mp checked)

theorem startCreate_effect {dto : CreateUserDto} {salt : String}
    (live : (s.calls call).settled = false) (fresh : id ∉ s.drawn) :
    Effect lib s (s.startCreate lib call dto salt id now) := by
  unfold startCreate
  cases checked : validated lib (dto.failures lib) with
  | error e => exact setCall_effect live trivial
  | ok _ =>
    cases hashed : lib.hashPassword salt dto.password with
    | error e => exact setCall_effect live trivial
    | ok passwordHash =>
      obtain ⟨email, name, password⟩ := CreateUserDto.failures_eq_nil.mp (validated_ok.mp checked)
      exact .drew call _ ⟨email, name, password, salt, hashed⟩ fresh rfl rfl rfl rfl ⟨live, rfl⟩

theorem insertUser_effect {account : Account} (before : s.calls call = .inserting account) :
    Effect lib s (s.insertUser lib call account) := by
  have live : (s.calls call).settled = false := by rw [before]; rfl
  unfold insertUser
  cases accepted : s.refused lib account.model with
  | some e => exact setCall_effect live trivial
  | none => exact .inserted call account _ before accepted rfl rfl rfl rfl ⟨live, rfl⟩ (Or.inl rfl)

theorem readBack_effect (before : s.calls call = .readingBack id) :
    Effect lib s (s.readBack call id) := by
  have live : (s.calls call).settled = false := by rw [before]; rfl
  unfold readBack
  cases found : s.selectUser id with
  | none => exact setCall_effect live trivial
  | some model => exact .announced call id model before found rfl rfl rfl rfl ⟨live, rfl⟩

theorem advanceUser_effect {stage : Stage} (before : s.calls call = .onUser id stage)
    (moved : s.advanceUser lib call id now stage = some t) : Effect lib s t := by
  have live : (s.calls call).settled = false := by rw [before]; rfl
  cases stage with
  | finding =>
    obtain rfl := Option.some.inj moved
    unfold cacheGet
    split <;> exact setCall_effect live trivial
  | reading =>
    obtain rfl := Option.some.inj moved
    unfold readUser
    split <;> exact setCall_effect live trivial
  | caching response =>
    obtain rfl := Option.some.inj moved
    simp only [cacheInsert]
    split
    · exact .moved call _ ⟨rfl, rfl, rfl, rfl⟩ ⟨live, rfl⟩ trivial
    · exact setCall_effect live trivial
  | loading dto =>
    obtain rfl := Option.some.inj moved
    unfold loadUser
    split
    · exact setCall_effect live trivial
    · exact setCall_effect live before
  | writing dto =>
    obtain rfl := Option.some.inj moved
    unfold writeUser
    split
    · exact setCall_effect live trivial
    · exact .updated call id dto now _ before rfl rfl rfl rfl ⟨live, rfl⟩ trivial
  | reloading =>
    obtain rfl := Option.some.inj moved
    unfold reloadUser
    split <;> exact setCall_effect live trivial
  | deleting =>
    obtain rfl := Option.some.inj moved
    unfold deleteUser
    split
    · exact setCall_effect live trivial
    · exact .deleted call id _ rfl rfl rfl rfl ⟨live, rfl⟩ trivial
  | invalidating _ | forgetting =>
    obtain rfl := Option.some.inj moved
    exact .moved call _ ⟨rfl, rfl, rfl, rfl⟩ ⟨live, rfl⟩ trivial
  | finishing outcome =>
    obtain rfl := Option.some.inj moved
    exact setCall_effect live trivial
  | idle | returned _ | dropped => cases moved

theorem advance_effect (moved : s.advance lib cfg call now = some t) : Effect lib s t := by
  unfold advance at moved
  cases before : s.calls call with
  | onUser id stage =>
    rw [before] at moved
    exact advanceUser_effect before moved
  | inserting account =>
    rw [before] at moved
    obtain rfl := Option.some.inj moved
    exact insertUser_effect before
  | readingBack id =>
    rw [before] at moved
    obtain rfl := Option.some.inj moved
    exact readBack_effect before
  | selecting dto =>
    rw [before] at moved
    obtain rfl := Option.some.inj moved
    exact setCall_effect (by rw [before]; rfl) trivial
  | idle | created _ | loggedIn _ | dropped =>
    rw [before] at moved
    cases moved

theorem failed_plain {before after : Call} {error : AppError}
    (failed : before.failed error = some after) :
    before.settled = false ∧ before.Plain after ∧
      ∀ account, before = .inserting account → after = .created (.error error) := by
  cases before with
  | onUser id stage =>
    simp only [Call.failed] at failed
    split at failed
    · obtain rfl := Option.some.inj failed
      exact ⟨rfl, trivial, fun _ same => by cases same⟩
    · cases failed
  | inserting _ | readingBack _ | selecting _ =>
    obtain rfl := Option.some.inj failed
    exact ⟨rfl, trivial, fun _ same => by cases same <;> rfl⟩
  | idle | created _ | loggedIn _ | dropped => cases failed

theorem lostReply_effect {r : Accounts} {after : Call} {error : AppError}
    (wrote : s.written lib call now = some r) (failed : (s.calls call).failed error = some after) :
    Effect lib s (r.setCall call after) := by
  obtain ⟨live, plain, next⟩ := failed_plain failed
  unfold written at wrote
  split at wrote
  · rename_i id dto before
    obtain ⟨_, _, rfl⟩ := Option.map_eq_some_iff.mp wrote
    exact .updated call id dto now after before rfl rfl rfl rfl ⟨live, rfl⟩ plain
  · rename_i id before
    obtain ⟨_, _, rfl⟩ := Option.map_eq_some_iff.mp wrote
    exact .deleted call id after rfl rfl rfl rfl ⟨live, rfl⟩ plain
  · rename_i account before
    split at wrote
    · rename_i accepted
      obtain rfl := Option.some.inj wrote
      exact .inserted call account after before (Option.isNone_iff_eq_none.mp accepted) rfl rfl rfl
        rfl ⟨live, rfl⟩ (Or.inr ⟨error, next account before⟩)
    · cases wrote
  · cases wrote

/-- Everything a step may do. -/
theorem step_effect {l : AccountLabel} (step : Accounts.step lib cfg s l = some t) :
    Effect lib s t := by
  have live {call : Nat} (idle : s.calls call = .idle) : (s.calls call).settled = false := by
    rw [idle]
    rfl
  cases l with
  | find call id | delete call id =>
    obtain ⟨idle, ⟨⟩⟩ := Option.ite_none_right_eq_some.mp step
    exact setCall_effect (live idle) trivial
  | update call id dto =>
    obtain ⟨idle, ⟨⟩⟩ := Option.ite_none_right_eq_some.mp step
    exact startUpdate_effect dto (live idle)
  | create call dto salt id now =>
    obtain ⟨⟨idle, fresh⟩, ⟨⟩⟩ := Option.ite_none_right_eq_some.mp step
    exact startCreate_effect (live idle) fresh
  | login call dto =>
    obtain ⟨idle, ⟨⟩⟩ := Option.ite_none_right_eq_some.mp step
    exact setCall_effect (live idle) trivial
  | advance call now => exact advance_effect step
  | databaseError call error =>
    obtain ⟨after, failed, rfl⟩ := Option.map_eq_some_iff.mp step
    obtain ⟨live, plain, _⟩ := failed_plain failed
    exact setCall_effect live plain
  | lostReply call now error =>
    obtain ⟨r, wrote, step⟩ := Option.bind_eq_some_iff.mp step
    obtain ⟨after, failed, rfl⟩ := Option.map_eq_some_iff.mp step
    exact lostReply_effect wrote failed
  | cancel call =>
    simp only [Accounts.step] at step
    split at step
    · rename_i id stage before
      obtain ⟨_, ⟨⟩⟩ := Option.ite_none_right_eq_some.mp step
      exact setCall_effect (by rw [before]; rfl) trivial
    · rename_i c before
      obtain ⟨waits, ⟨⟩⟩ := Option.ite_none_right_eq_some.mp step
      refine setCall_effect ?_ trivial
      cases stage : s.calls call with
      | created _ =>
        rw [stage] at waits
        cases waits
      | _ => rfl
  | expire key =>
    obtain rfl := Option.some.inj step
    exact .expired ⟨rfl, rfl, rfl, rfl⟩ rfl

end Accounts
end ApiBoilerplate.Users
