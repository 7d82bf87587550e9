import ApiBoilerplate.Users.AccountSafety

/-!
# One user of the whole service

Seen from one user id, a run of the service over the whole table is a run of the
service of that id alone: the calls on other ids, the logins and the creations of other
users move nothing there. What is proved of one id is so proved of every user at once.
-/

namespace ApiBoilerplate.Users

open Foundation Http

theorem cacheKey_injective {id own : Uuid} (same : cacheKey id = cacheKey own) : id = own :=
  Uuid.hyphenated_injective ((String.append_right_inj _).mp same)

/-- Where a call stands for the user `id`. -/
def Call.onto (id : Uuid) : Call → Stage
  | .onUser own stage => if own = id then stage else .idle
  | _ => .idle

theorem Call.onto_self (id : Uuid) (stage : Stage) : (Call.onUser id stage).onto id = stage :=
  if_pos rfl

theorem Call.onto_apart {id own : Uuid} (apart : own ≠ id) (stage : Stage) :
    (Call.onUser own stage).onto id = .idle :=
  if_neg apart

namespace Accounts

/-- What the user `id` is to the service. -/
def view (s : Accounts) (id : Uuid) : Service where
  row := s.selectUser id
  issued := s.ledger.any fun a => a.model.id = id
  cached := s.cache (cacheKey id)
  calls := fun call => (s.calls call).onto id

section
variable {κ : Type} [DecidableEq κ]

/-- The step of the service of `id` alone, if it makes one. -/
def project (lib : Libraries κ) (s : Accounts) (id : Uuid) : AccountLabel → Option Label
  | .find call own => if own = id then some (.start call .findById) else none
  | .update call own dto => if own = id then some (.start call (.update dto)) else none
  | .delete call own => if own = id then some (.start call .delete) else none
  | .create .. | .login .. => none
  | .advance call now =>
    match s.calls call with
    | .onUser own _ => if own = id then some (.advance call (millis now)) else none
    | .inserting account =>
      if account.model.id = id ∧ s.refused lib account.model = none then
        some (.create account.model)
      else none
    | _ => none
  | .databaseError call error =>
    match s.calls call with
    | .onUser own _ => if own = id then some (.databaseError call error) else none
    | _ => none
  | .lostReply call now error =>
    match s.calls call with
    | .onUser own _ => if own = id then some (.lostReply call (millis now) error) else none
    | .inserting account => if account.model.id = id then some (.create account.model) else none
    | _ => none
  | .cancel call =>
    match s.calls call with
    | .onUser own _ => if own = id then some (.cancel call) else none
    | _ => none
  | .expire key => if key = cacheKey id then some .expire else none

end

variable {s t : Accounts} {call : Nat} {id own : Uuid} {now : Nat} {stage : Stage}

theorem view_setCall (s : Accounts) (call : Nat) (c : Call) (id : Uuid) :
    (s.setCall call c).view id = (s.view id).setCall call (c.onto id) := by
  have calls : (fun k => (Function.update s.calls call c k).onto id) =
      Function.update (fun k => (s.calls k).onto id) call (c.onto id) := by
    funext k
    by_cases here : k = call
    · subst here
      simp
    · simp [Function.update_of_ne here]
  exact congrArg (fun calls : Nat → Stage => { s.view id with calls := calls }) calls

theorem view_stay (s : Accounts) (call : Nat) (id : Uuid) (stage : Stage) :
    (s.stay call id stage).view id = (s.view id).setCall call stage := by
  rw [stay, view_setCall, Call.onto_self]

theorem setCall_idle (idle : (s.calls call).onto id = .idle) :
    (s.view id).setCall call .idle = s.view id := by
  have same : Function.update (s.view id).calls call .idle = (s.view id).calls := by
    rw [← idle]
    exact Function.update_eq_self ..
  exact congrArg (fun calls : Nat → Stage => { s.view id with calls := calls }) same

/-- A call that is nothing to `id` before and after. -/
theorem view_setCall_idle {c : Call} (idle : (s.calls call).onto id = .idle)
    (idle' : c.onto id = .idle) : (s.setCall call c).view id = s.view id := by
  rw [view_setCall, idle', setCall_idle idle]

theorem view_row (s : Accounts) (id : Uuid) : (s.view id).row = s.selectUser id := rfl

theorem view_cached (s : Accounts) (id : Uuid) : (s.view id).cached = s.cache (cacheKey id) := rfl

section OnUser
variable {κ : Type} (lib : Libraries κ)

theorem view_updateRow (s : Accounts) (id : Uuid) (dto : UpdateUserDto) (now : Nat) :
    ({ s with rows := s.updateRow id dto now } : Accounts).selectUser id =
      (s.selectUser id).map fun m => m.updated dto (millis now) := by
  have modified : Table.select Model.id id (s.updateRow id dto now) = _ :=
    Table.select_modify fun _ => rfl
  exact modified.trans (if_pos rfl)

theorem view_deleteRow (s : Accounts) (id : Uuid) :
    ({ s with rows := s.deleteRow id } : Accounts).selectUser id = none := by
  unfold selectUser deleteRow
  rw [Table.select_delete, if_pos rfl]

theorem view_cacheGet : (s.cacheGet lib call id).view id = (s.view id).cacheGet lib.codec call := by
  unfold cacheGet Service.cacheGet
  have codec : lib.codec.fromJson = lib.fromJson := rfl
  rw [view_cached, codec]
  cases (s.cache (cacheKey id)).map lib.fromJson with
  | none => exact view_stay ..
  | some read => cases read <;> exact view_stay ..

theorem view_readUser : (s.readUser call id).view id = (s.view id).readUser id call := by
  unfold readUser Service.readUser
  rw [view_row]
  cases s.selectUser id <;> exact view_stay ..

theorem view_cacheInsert (response : UserResponse) :
    (s.cacheInsert lib call id response).view id =
      (s.view id).cacheInsert lib.codec call response := by
  simp only [cacheInsert, Service.cacheInsert, Libraries.codec]
  cases lib.toJson response with
  | error e => exact view_stay ..
  | ok json =>
    have moved := view_stay s call id (.returned (.user (.ok response)))
    have cached : Function.update s.cache (cacheKey id) (some json) (cacheKey id) = some json :=
      Function.update_self ..
    have filled := congrArg (fun v : Service => { v with cached := some json }) moved
    refine Eq.trans ?_ filled
    exact congrArg (fun c : Option String =>
      { (s.stay call id (.returned (.user (.ok response)))).view id with cached := c }) cached

theorem view_loadUser (dto : UpdateUserDto) :
    (s.loadUser call id dto).view id = (s.view id).loadUser id call dto := by
  unfold loadUser Service.loadUser
  rw [view_row]
  cases s.selectUser id <;> exact view_stay ..

/-- A write of the row, on the table and on the one row. -/
theorem view_rows (s : Accounts) (rows : List Model) (row : Option Model)
    (selected : ({ s with rows := rows } : Accounts).selectUser id = row) :
    ({ s with rows := rows } : Accounts).view id = { s.view id with row := row } := by
  subst selected
  rfl

theorem view_writeUser (dto : UpdateUserDto) :
    (s.writeUser call id dto now).view id = (s.view id).writeUser call dto (millis now) := by
  unfold writeUser Service.writeUser
  rw [view_row]
  have written := view_updateRow s id dto now
  cases found : s.selectUser id with
  | none => exact view_stay ..
  | some model =>
    rw [found] at written
    exact (view_rows (s.stay call id .reloading) _ _ written).trans
      (congrArg (fun v : Service => { v with row := some (model.updated dto (millis now)) })
        (view_stay s call id .reloading))

theorem view_reloadUser : (s.reloadUser call id).view id = (s.view id).reloadUser call := by
  unfold reloadUser Service.reloadUser
  rw [view_row]
  cases s.selectUser id <;> exact view_stay ..

theorem view_invalidate (outcome : Outcome) :
    (s.invalidate call id outcome).view id = (s.view id).invalidate call outcome := by
  have moved := view_stay s call id (.finishing outcome)
  have cleared : Function.update s.cache (cacheKey id) none (cacheKey id) = none :=
    Function.update_self ..
  have emptied := congrArg (fun v : Service => { v with cached := none }) moved
  refine Eq.trans ?_ emptied
  exact congrArg (fun c : Option String =>
    { (s.stay call id (.finishing outcome)).view id with cached := c }) cleared

theorem view_deleteUser : (s.deleteUser call id).view id = (s.view id).deleteUser id call := by
  unfold deleteUser Service.deleteUser
  rw [view_row]
  have deleted := view_deleteRow s id
  cases s.selectUser id with
  | none => exact view_stay ..
  | some model =>
    exact (view_rows (s.stay call id .forgetting) _ _ deleted).trans
      (congrArg (fun v : Service => { v with row := none }) (view_stay s call id .forgetting))

/-- A call on the user does what it does on the user alone. -/
theorem view_advanceUser (before : s.calls call = .onUser id stage)
    (moved : s.advanceUser lib call id now stage = some t) :
    (s.view id).advance lib.codec id call (millis now) = some (t.view id) := by
  have at_ : (s.view id).calls call = stage := by
    change (s.calls call).onto id = stage
    rw [before, Call.onto_self]
  rw [Service.advance, at_]
  cases stage with
  | finding => exact Option.some.inj moved ▸ congrArg some (view_cacheGet lib).symm
  | reading => exact Option.some.inj moved ▸ congrArg some view_readUser.symm
  | caching response =>
    exact Option.some.inj moved ▸ congrArg some (view_cacheInsert lib response).symm
  | loading dto => exact Option.some.inj moved ▸ congrArg some (view_loadUser dto).symm
  | writing dto => exact Option.some.inj moved ▸ congrArg some (view_writeUser dto).symm
  | reloading => exact Option.some.inj moved ▸ congrArg some view_reloadUser.symm
  | invalidating updated => exact Option.some.inj moved ▸ congrArg some (view_invalidate _).symm
  | deleting => exact Option.some.inj moved ▸ congrArg some view_deleteUser.symm
  | forgetting => exact Option.some.inj moved ▸ congrArg some (view_invalidate _).symm
  | finishing outcome =>
    exact Option.some.inj moved ▸ congrArg some (view_stay s call id (.returned outcome)).symm
  | idle | returned _ | dropped => cases moved

end OnUser

/-- What a call on another user leaves alone. -/
structure Untouched (s t : Accounts) (id : Uuid) : Prop where
  row : t.selectUser id = s.selectUser id
  cached : t.cache (cacheKey id) = s.cache (cacheKey id)
  ledger : t.ledger = s.ledger
  calls : ∀ call, (t.calls call).onto id = (s.calls call).onto id

theorem Untouched.view (untouched : Untouched s t id) : t.view id = s.view id := by
  obtain ⟨row, cached, ledger, calls⟩ := untouched
  have same : (fun call => (t.calls call).onto id) = fun call => (s.calls call).onto id :=
    funext calls
  unfold Accounts.view
  rw [row, cached, ledger, same]

/-- Only the call moves, and it is nothing to `id`. -/
theorem onto_update {c : Call} (idle : (s.calls call).onto id = .idle) (idle' : c.onto id = .idle)
    (other : Nat) : (Function.update s.calls call c other).onto id = (s.calls other).onto id := by
  by_cases here : other = call
  · subst here
    rw [Function.update_self, idle', idle]
  · rw [Function.update_of_ne here]

section Apart
variable {κ : Type} (lib : Libraries κ)

theorem setCall_untouched {c : Call} (idle : (s.calls call).onto id = .idle)
    (idle' : c.onto id = .idle) : Untouched s (s.setCall call c) id :=
  ⟨rfl, rfl, rfl, onto_update idle idle'⟩

theorem cache_untouched (apart : own ≠ id) (value : Option String) :
    Function.update s.cache (cacheKey own) value (cacheKey id) = s.cache (cacheKey id) :=
  Function.update_of_ne (fun same => apart (cacheKey_injective same).symm) ..

theorem updateRow_untouched (apart : own ≠ id) (dto : UpdateUserDto) (now : Nat) :
    ({ s with rows := s.updateRow own dto now } : Accounts).selectUser id = s.selectUser id := by
  have modified : Table.select Model.id id (s.updateRow own dto now) = _ :=
    Table.select_modify fun _ => rfl
  exact modified.trans (if_neg apart.symm)

theorem deleteRow_untouched (apart : own ≠ id) :
    ({ s with rows := s.deleteRow own } : Accounts).selectUser id = s.selectUser id := by
  unfold selectUser deleteRow
  rw [Table.select_delete, if_neg apart.symm]

theorem advanceUser_untouched (apart : own ≠ id) (before : s.calls call = .onUser own stage)
    (moved : s.advanceUser lib call own now stage = some t) : Untouched s t id := by
  have idle : (s.calls call).onto id = .idle := by rw [before, Call.onto_apart apart]
  have stays : ∀ next, Untouched s (s.stay call own next) id := fun next =>
    setCall_untouched idle (Call.onto_apart apart next)
  have others : ∀ next k, (Function.update s.calls call (.onUser own next) k).onto id =
      (s.calls k).onto id := fun next => onto_update idle (Call.onto_apart apart next)
  cases stage with
  | finding =>
    obtain rfl := Option.some.inj moved
    unfold cacheGet
    split <;> exact stays _
  | reading =>
    obtain rfl := Option.some.inj moved
    unfold readUser
    split <;> exact stays _
  | caching response =>
    obtain rfl := Option.some.inj moved
    simp only [cacheInsert]
    split
    · exact ⟨rfl, cache_untouched apart _, rfl, others _⟩
    · exact stays _
  | loading dto =>
    obtain rfl := Option.some.inj moved
    unfold loadUser
    split <;> exact stays _
  | writing dto =>
    obtain rfl := Option.some.inj moved
    unfold writeUser
    split
    · exact stays _
    · exact ⟨updateRow_untouched apart dto now, rfl, rfl, others _⟩
  | reloading =>
    obtain rfl := Option.some.inj moved
    unfold reloadUser
    split <;> exact stays _
  | deleting =>
    obtain rfl := Option.some.inj moved
    unfold deleteUser
    split
    · exact stays _
    · exact ⟨deleteRow_untouched apart, rfl, rfl, others _⟩
  | invalidating _ | forgetting =>
    obtain rfl := Option.some.inj moved
    exact ⟨rfl, cache_untouched apart _, rfl, others _⟩
  | finishing outcome =>
    obtain rfl := Option.some.inj moved
    exact stays _
  | idle | returned _ | dropped => cases moved

end Apart

section Step
variable {κ : Type} {lib : Libraries κ} {cfg : TokenConfig} {l : AccountLabel}

/-- A label of the service of `id` alone, or none, takes its view along. -/
abbrev Follows (lib : Libraries κ) (s t : Accounts) (id : Uuid) (l : Option Label) : Prop :=
  (Service.machine lib.codec id none).move (s.view id) l = some (t.view id)

theorem Untouched.follows (untouched : Untouched s t id) : Follows lib s t id none :=
  congrArg some untouched.view.symm

/-- A call that begins, on the user or on another. -/
theorem start_follows {request : Request} {next : Stage} (idle : s.calls call = .idle)
    (starts : (s.view id).start lib.codec call request = (s.view id).setCall call next) :
    Follows lib s (s.stay call own next) id
      (if own = id then some (.start call request) else none) := by
  by_cases here : own = id
  · subst here
    rw [if_pos rfl]
    have waits : (s.view own).calls call = .idle := by
      change (s.calls call).onto own = .idle
      rw [idle]
      rfl
    change Service.step lib.codec own (s.view own) (.start call request) = _
    rw [Service.step, waits, starts, view_stay]
  · rw [if_neg here]
    refine (setCall_untouched ?_ (Call.onto_apart here next)).follows
    rw [idle]
    rfl

theorem startUpdate_follows {dto : UpdateUserDto} (idle : s.calls call = .idle) :
    Follows lib s (s.startUpdate lib call own dto) id
      (if own = id then some (.start call (.update dto)) else none) := by
  unfold startUpdate
  cases checked : validated lib dto.failures with
  | error e =>
    refine start_follows idle ?_
    simp only [Service.start, Libraries.codec, checked]
  | ok _ =>
    refine start_follows idle ?_
    simp only [Service.start, Libraries.codec, checked]

/-- A step of a call that is on no user. -/
theorem setCall_follows {c : Call} (idle : (s.calls call).onto id = .idle)
    (idle' : c.onto id = .idle) : Follows lib s (s.setCall call c) id none :=
  (setCall_untouched idle idle').follows

theorem startCreate_follows {dto : CreateUserDto} {salt : String} (idle : s.calls call = .idle) :
    Follows lib s (s.startCreate lib call dto salt own now) id none := by
  have free : (s.calls call).onto id = .idle := by
    rw [idle]
    rfl
  unfold startCreate
  cases validated lib (dto.failures lib) with
  | error e => exact setCall_follows free rfl
  | ok _ =>
    cases lib.hashPassword salt dto.password with
    | error e => exact setCall_follows free rfl
    | ok passwordHash => exact Untouched.follows ⟨rfl, rfl, rfl, onto_update free rfl⟩

variable [DecidableEq κ]

/-- The row of another user joins the table. -/
theorem inserted_untouched {account : Account} {c : Call} (apart : account.model.id ≠ id)
    (before : s.calls call = .inserting account)
    (accepted : s.refused lib account.model = none) (idle' : c.onto id = .idle) :
    ((s.inserted account).setCall call c).view id = s.view id := by
  have free : ((s.inserted account).calls call).onto id = .idle := by
    change (s.calls call).onto id = .idle
    rw [before]
    rfl
  rw [view_setCall_idle free idle']
  have row : (s.inserted account).selectUser id = s.selectUser id :=
    (Table.select_append (refused_none accepted).1).trans (if_neg apart)
  have issued : (s.ledger ++ [account]).any (fun a => a.model.id = id) =
      s.ledger.any fun a => a.model.id = id := by
    simp [apart]
  unfold view
  rw [row]
  exact congrArg (fun b : Bool => (⟨s.selectUser id, b, s.cache (cacheKey id),
    fun call => (s.calls call).onto id⟩ : Service)) issued

/-- The user's own row joins the table. -/
theorem inserted_follows {account : Account} {c : Call} (sound : Sound lib s)
    (before : s.calls call = .inserting account) (accepted : s.refused lib account.model = none)
    (idle' : c.onto account.model.id = .idle) :
    Follows lib s ((s.inserted account).setCall call c) account.model.id
      (some (.create account.model)) := by
  have free : ((s.inserted account).calls call).onto account.model.id = .idle := by
    change (s.calls call).onto account.model.id = .idle
    rw [before]
    rfl
  have fresh : (s.view account.model.id).issued = false := by
    simpa [view] using (sound.pending before).2.2
  have row : (s.inserted account).selectUser account.model.id = some account.model :=
    (Table.select_append (refused_none accepted).1).trans (if_pos rfl)
  have issued : (s.ledger ++ [account]).any (fun a => a.model.id = account.model.id) = true := by
    simp
  rw [Follows, view_setCall_idle free idle']
  change (if (s.view account.model.id).issued then none
    else some { s.view account.model.id with row := some account.model, issued := true }) = _
  rw [fresh]
  unfold view
  rw [row]
  exact congrArg (fun b : Bool => some (⟨some account.model, b, s.cache (cacheKey account.model.id),
    fun call => (s.calls call).onto account.model.id⟩ : Service)) issued.symm

theorem insert_follows {account : Account} {c : Call} (sound : Sound lib s)
    (before : s.calls call = .inserting account) (accepted : s.refused lib account.model = none)
    (idle' : ∀ id, c.onto id = .idle) :
    Follows lib s ((s.inserted account).setCall call c) id
      (if account.model.id = id then some (.create account.model) else none) := by
  by_cases here : account.model.id = id
  · subst here
    rw [if_pos rfl]
    exact inserted_follows sound before accepted (idle' _)
  · rw [if_neg here]
    exact congrArg some (inserted_untouched here before accepted (idle' id)).symm

theorem insertUser_follows {account : Account} (sound : Sound lib s)
    (before : s.calls call = .inserting account) :
    Follows lib s (s.insertUser lib call account) id
      (if account.model.id = id ∧ s.refused lib account.model = none then
        some (.create account.model)
      else none) := by
  unfold insertUser
  cases accepted : s.refused lib account.model with
  | some e =>
    rw [if_neg fun both => by cases both.2]
    refine setCall_follows ?_ rfl
    rw [before]
    rfl
  | none =>
    simp only [and_true]
    exact insert_follows sound before accepted fun _ => rfl

theorem advance_follows (sound : Sound lib s) (moved : s.advance lib cfg call now = some t) :
    Follows lib s t id (s.project lib id (.advance call now)) := by
  unfold advance at moved
  cases before : s.calls call with
  | onUser own stage =>
    rw [before] at moved
    by_cases here : own = id
    · subst here
      simp only [project, before, if_true]
      exact view_advanceUser lib before moved
    · simp only [project, before, if_neg here]
      exact (advanceUser_untouched lib here before moved).follows
  | inserting account =>
    rw [before] at moved
    obtain rfl := Option.some.inj moved
    simp only [project, before]
    exact insertUser_follows sound before
  | readingBack own =>
    rw [before] at moved
    obtain rfl := Option.some.inj moved
    have free : (s.calls call).onto id = .idle := by
      rw [before]
      rfl
    simp only [project, before]
    unfold readBack
    cases s.selectUser own with
    | none => exact setCall_follows free rfl
    | some model => exact Untouched.follows ⟨rfl, rfl, rfl, onto_update free rfl⟩
  | selecting dto =>
    rw [before] at moved
    obtain rfl := Option.some.inj moved
    simp only [project, before]
    refine setCall_follows ?_ rfl
    rw [before]
    rfl
  | idle | created _ | loggedIn _ | dropped =>
    rw [before] at moved
    cases moved

theorem failed_onUser {stage : Stage} {error : AppError} {after : Call}
    (failed : (Call.onUser own stage).failed error = some after) : stage.atDatabase = true ∧
      after = .onUser own (.returned (stage.failed error)) := by
  simp only [Call.failed] at failed
  split at failed
  · exact ⟨‹_›, (Option.some.inj failed).symm⟩
  · cases failed

/-- An error for a call that is on no user. -/
theorem failed_other {c after : Call} {error : AppError}
    (other : ∀ own stage, c ≠ .onUser own stage) (failed : c.failed error = some after) :
    after.onto id = .idle := by
  cases c with
  | onUser own stage => exact absurd rfl (other own stage)
  | inserting _ | readingBack _ | selecting _ =>
    obtain rfl := Option.some.inj failed
    rfl
  | idle | created _ | loggedIn _ | dropped => cases failed

theorem databaseError_follows {error : String} {after : Call}
    (failed : (s.calls call).failed (.ormError error) = some after) :
    Follows lib s (s.setCall call after) id (s.project lib id (.databaseError call error)) := by
  cases before : s.calls call with
  | onUser own stage =>
    rw [before] at failed
    obtain ⟨waits, rfl⟩ := failed_onUser failed
    by_cases here : own = id
    · subst here
      simp only [project, before, if_true]
      have at_ : (s.view own).calls call = stage := by
        change (s.calls call).onto own = stage
        rw [before, Call.onto_self]
      change (if ((s.view own).calls call).atDatabase then
        some ((s.view own).setCall call
          (.returned (((s.view own).calls call).failed (.ormError error)))) else none) = _
      rw [at_, if_pos waits]
      exact congrArg some (view_stay s call own _).symm
    · simp only [project, before, if_neg here]
      refine setCall_follows ?_ (Call.onto_apart here _)
      rw [before, Call.onto_apart here]
  | _ =>
    rw [before] at failed
    simp only [project, before]
    refine setCall_follows ?_ (failed_other (fun _ _ same => by cases same) failed)
    rw [before]
    rfl

theorem lostReply_follows {r : Accounts} {error : String} {after : Call} (sound : Sound lib s)
    (wrote : s.written lib call now = some r)
    (failed : (s.calls call).failed (.ormError error) = some after) :
    Follows lib s (r.setCall call after) id (s.project lib id (.lostReply call now error)) := by
  cases before : s.calls call with
  | onUser own stage =>
    rw [before] at failed
    obtain ⟨_, rfl⟩ := failed_onUser failed
    simp only [written, before] at wrote
    by_cases here : own = id
    · subst here
      simp only [project, before, if_true]
      have at_ : (s.view own).calls call = stage := by
        change (s.calls call).onto own = stage
        rw [before, Call.onto_self]
      change ((s.view own).written call (millis now)).map _ = _
      rw [Service.written, at_]
      rw [view_row]
      have moved := view_stay s call own (.returned (stage.failed (.ormError error)))
      cases stage with
      | writing dto =>
        obtain ⟨model, found, rfl⟩ := Option.map_eq_some_iff.mp wrote
        have updated := view_updateRow s own dto now
        rw [found] at updated ⊢
        exact congrArg some ((view_rows (s.stay call own _) _ _ updated).trans (congrArg
          (fun v : Service => { v with row := some (model.updated dto (millis now)) }) moved)).symm
      | deleting =>
        obtain ⟨model, found, rfl⟩ := Option.map_eq_some_iff.mp wrote
        rw [found]
        exact congrArg some ((view_rows (s.stay call own _) _ _ (view_deleteRow s own)).trans
          (congrArg (fun v : Service => { v with row := none }) moved)).symm
      | _ => cases wrote
    · simp only [project, before, if_neg here]
      have free : (s.calls call).onto id = .idle := by rw [before, Call.onto_apart here]
      have others := onto_update free
        (Call.onto_apart here (.returned (stage.failed (.ormError error))))
      cases stage with
      | writing dto =>
        obtain ⟨_, _, rfl⟩ := Option.map_eq_some_iff.mp wrote
        exact Untouched.follows ⟨updateRow_untouched here dto now, rfl, rfl, others⟩
      | deleting =>
        obtain ⟨_, _, rfl⟩ := Option.map_eq_some_iff.mp wrote
        exact Untouched.follows ⟨deleteRow_untouched here, rfl, rfl, others⟩
      | _ => cases wrote
  | inserting account =>
    rw [before] at failed
    obtain rfl := Option.some.inj failed
    simp only [written, before] at wrote
    split at wrote
    · obtain rfl := Option.some.inj wrote
      simp only [project, before]
      exact insert_follows (c := .created (.error (.ormError error))) sound before
        (Option.isNone_iff_eq_none.mp ‹_›) fun _ => rfl
    · cases wrote
  | idle | readingBack _ | created _ | selecting _ | loggedIn _ | dropped =>
    simp only [written, before] at wrote
    cases wrote

theorem cancel_follows (moved : step lib cfg s (.cancel call) = some t) :
    Follows lib s t id (s.project lib id (.cancel call)) := by
  simp only [step] at moved
  cases before : s.calls call with
  | onUser own stage =>
    simp only [before] at moved
    obtain ⟨waits, ⟨⟩⟩ := Option.ite_none_right_eq_some.mp moved
    by_cases here : own = id
    · subst here
      simp only [project, before, if_true]
      have at_ : (s.view own).calls call = stage := by
        change (s.calls call).onto own = stage
        rw [before, Call.onto_self]
      change (if ((s.view own).calls call).waits then some ((s.view own).setCall call .dropped)
        else none) = _
      rw [at_, if_pos waits]
      exact congrArg some (view_stay s call own _).symm
    · simp only [project, before, if_neg here]
      refine setCall_follows ?_ (Call.onto_apart here _)
      rw [before, Call.onto_apart here]
  | _ =>
    simp only [before] at moved
    obtain ⟨_, ⟨⟩⟩ := Option.ite_none_right_eq_some.mp moved
    simp only [project, before]
    refine setCall_follows ?_ rfl
    rw [before]
    rfl

/-- Each step of the service is a step of the user `id` alone, or none. -/
theorem step_follows (sound : Sound lib s) (moved : step lib cfg s l = some t) :
    Follows lib s t id (s.project lib id l) := by
  cases l with
  | find call own =>
    obtain ⟨idle, ⟨⟩⟩ := Option.ite_none_right_eq_some.mp moved
    exact start_follows idle rfl
  | update call own dto =>
    obtain ⟨idle, ⟨⟩⟩ := Option.ite_none_right_eq_some.mp moved
    exact startUpdate_follows idle
  | delete call own =>
    obtain ⟨idle, ⟨⟩⟩ := Option.ite_none_right_eq_some.mp moved
    exact start_follows idle rfl
  | create call dto salt own now =>
    obtain ⟨⟨idle, _⟩, ⟨⟩⟩ := Option.ite_none_right_eq_some.mp moved
    exact startCreate_follows idle
  | login call dto =>
    obtain ⟨idle, ⟨⟩⟩ := Option.ite_none_right_eq_some.mp moved
    refine setCall_follows ?_ rfl
    rw [idle]
    rfl
  | advance call now => exact advance_follows sound moved
  | databaseError call error =>
    obtain ⟨after, failed, rfl⟩ := Option.map_eq_some_iff.mp moved
    exact databaseError_follows failed
  | lostReply call now error =>
    obtain ⟨r, wrote, moved⟩ := Option.bind_eq_some_iff.mp moved
    obtain ⟨after, failed, rfl⟩ := Option.map_eq_some_iff.mp moved
    exact lostReply_follows sound wrote failed
  | cancel call => exact cancel_follows moved
  | expire key =>
    obtain rfl := Option.some.inj moved
    by_cases here : key = cacheKey id
    · subst here
      simp only [project, if_true]
      have cleared : Function.update s.cache (cacheKey id) none (cacheKey id) = none :=
        Function.update_self ..
      exact congrArg (fun c : Option String => some { s.view id with cached := c }) cleared.symm
    · simp only [project, if_neg here]
      exact Untouched.follows ⟨rfl, Function.update_of_ne (Ne.symm here) .., rfl, fun _ => rfl⟩

/-- The steps of a run that are steps of the user `id` alone. -/
def ownSteps (lib : Libraries κ) (cfg : TokenConfig) (id : Uuid) (ls : List AccountLabel) :
    List Label :=
  (machine lib cfg).notes (fun s l => (s.project lib id l).toList) empty ls

/-- Every run of the service over the whole table is, for each user, a run of the service
of that user alone. -/
theorem view_run {ls : List AccountLabel}
    (run : (machine lib cfg).Run (fun _ _ => True) ls s) (id : Uuid) :
    (Service.machine lib.codec id none).Run (fun _ _ => True) (ownSteps lib cfg id ls)
      (s.view id) := by
  have followed : Sound lib s ∧ (Service.machine lib.codec id none).Run (fun _ _ => True)
      (ownSteps lib cfg id ls) (s.view id) := by
    refine run.noted (I := fun past s => Sound lib s ∧
      (Service.machine lib.codec id none).Run (fun _ _ => True) past (s.view id))
      ⟨empty_sound lib, .start⟩ ?_
    rintro past s l t ⟨sound, past⟩ _ moved
    refine ⟨(step_effect moved).sound sound, ?_⟩
    have follows : Follows lib s t id (s.project lib id l) := step_follows sound moved
    cases label : s.project lib id l with
    | none =>
      rw [label] at follows
      have same : s.view id = t.view id := Option.some.inj follows
      rw [← same, Option.toList_none, List.append_nil]
      exact past
    | some l' =>
      rw [label] at follows
      exact past.next trivial follows
  exact followed.2

theorem view_run_sample : (Service.machine sampleLibraries.codec 7 none).Run (fun _ _ => True)
    (ownSteps sampleLibraries oneDay 7 adaRenamed) ((sample adaRenamed).view 7) ∧
      (ownSteps sampleLibraries oneDay 7 adaRenamed).length = 5 :=
  ⟨view_run adaRenamed_run 7, by decide +kernel⟩

end Step

end Accounts
end ApiBoilerplate.Users
