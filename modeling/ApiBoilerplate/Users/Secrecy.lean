import ApiBoilerplate.Users.Login

/-!
# Password hashes are not told

Two services that differ in how they hash passwords, and in nothing else that a caller
could notice: run side by side they give every caller the same answers, cache the same
texts and announce the same users. What a hash looks like reaches nobody.
-/

namespace ApiBoilerplate.Users

open Foundation Http

section
variable {κ : Type} (lib : Libraries κ) (hash : String → String → Except String String)
  (verify : String → String → Bool)

/-- The same libraries with another way to hash. -/
def Libraries.rehashed : Libraries κ :=
  { lib with
    hashPassword := hash
    verifyPassword := verify }

/-- The same passwords are verified by the two rows, which differ in the hash only. -/
structure Model.Twin (m m' : Model) : Prop where
  response : m.response = m'.response
  verified : ∀ password,
    lib.verifyPassword password m.passwordHash = verify password m'.passwordHash

/-- Both ways fail alike, or make hashes of which one verifies what the other does. -/
inductive HashedAlike : Except String String → Except String String → Prop where
  | error (e : String) : HashedAlike (.error e) (.error e)
  | ok {made made' : String}
      (verified : ∀ password, lib.verifyPassword password made = verify password made') :
      HashedAlike (.ok made) (.ok made')

/-- The row that a call has in hand. -/
def Call.model : Call → Option Model
  | .onUser _ (.invalidating updated) => some updated
  | .inserting account => some account.model
  | _ => none

inductive Call.Twin : Call → Call → Prop where
  | same {c : Call} (bare : c.model = none) : Twin c c
  | invalidating {id : Uuid} {m m' : Model} (twin : m.Twin lib verify m') :
      Twin (.onUser id (.invalidating m)) (.onUser id (.invalidating m'))
  | inserting {a a' : Account} (twin : a.model.Twin lib verify a'.model) :
      Twin (.inserting a) (.inserting a')

/-- What the caller has been told. -/
def Call.told : Call → Option (Outcome ⊕ Except AppError UserResponse ⊕
    Except String (Except AppError LoginResponse))
  | .onUser _ (.returned outcome) => some (.inl outcome)
  | .created result => some (.inr (.inl result))
  | .loggedIn result => some (.inr (.inr result))
  | _ => none

namespace Accounts

structure Twin (s s' : Accounts) : Prop where
  rows : List.Forall₂ (Model.Twin lib verify) s.rows s'.rows
  cache : s.cache = s'.cache
  calls : ∀ call, (s.calls call).Twin lib verify (s'.calls call)
  announced : s.announced = s'.announced
  drawn : s.drawn = s'.drawn

end Accounts
end

section Twins
variable {κ : Type} {lib : Libraries κ} {hash : String → String → Except String String}
  {verify : String → String → Bool}

theorem isSome_of_rel {α β : Type} {R : α → β → Prop} {a : Option α} {b : Option β}
    (related : Option.Rel R a b) : a.isSome = b.isSome := by
  cases related <;> rfl

theorem validated_rehashed (failures : List FieldError) :
    validated (lib.rehashed hash verify) failures = validated lib failures := rfl

theorem failures_rehashed (dto : CreateUserDto) :
    dto.failures (lib.rehashed hash verify) = dto.failures lib := rfl

theorem rehashed_fromJson : (lib.rehashed hash verify).fromJson = lib.fromJson := rfl

theorem rehashed_toJson : (lib.rehashed hash verify).toJson = lib.toJson := rfl

theorem rehashed_hashPassword : (lib.rehashed hash verify).hashPassword = hash := rfl

namespace Model.Twin
variable {m m' : Model} (twin : m.Twin lib verify m')
include twin

theorem id : m.id = m'.id := congrArg UserResponse.id twin.response

theorem email : m.email = m'.email := congrArg UserResponse.email twin.response

theorem updated (dto : UpdateUserDto) (now : DateTime) :
    (m.updated dto now).Twin lib verify (m'.updated dto now) where
  response := by
    have name : m.name = m'.name := congrArg UserResponse.name twin.response
    have created : m.createdAt = m'.createdAt := congrArg UserResponse.createdAt twin.response
    simp [Model.response, Model.updated, twin.id, twin.email, name, created]
  verified := twin.verified

end Model.Twin

namespace Call.Twin
variable {c c' : Call}

theorem eq_of_bare (twin : c.Twin lib verify c') (bare : c.model = none) : c' = c := by
  cases twin with
  | same _ => rfl
  | invalidating _ | inserting _ => cases bare

theorem told (twin : c.Twin lib verify c') : c.told = c'.told := by
  cases twin <;> rfl

end Call.Twin

namespace Accounts
variable {s s' t : Accounts} {call : Nat} {id : Uuid}

theorem Twin.setCall (twin : Twin lib verify s s') {c c' : Call} (after : c.Twin lib verify c') :
    Twin lib verify (s.setCall call c) (s'.setCall call c') := by
  refine ⟨twin.rows, twin.cache, fun k => ?_, twin.announced, twin.drawn⟩
  change Call.Twin lib verify (Function.update s.calls call c k)
    (Function.update s'.calls call c' k)
  by_cases here : k = call
  · subst here
    simpa using after
  · simpa [here] using twin.calls k

theorem Twin.bare (twin : Twin lib verify s s') {c : Call} (before : s.calls call = c)
    (bare : c.model = none) : s'.calls call = c := by
  have here := twin.calls call
  rw [before] at here
  exact here.eq_of_bare bare

theorem Twin.select (twin : Twin lib verify s s') (id : Uuid) :
    Option.Rel (Model.Twin lib verify) (s.selectUser id) (s'.selectUser id) :=
  Table.select_related (fun _ _ both => both.id) twin.rows

section OnUser
variable (twin : Twin lib verify s s')
include twin

theorem stay_twin {stage : Stage} (bare : (Call.onUser id stage).model = none) :
    Twin lib verify (s.stay call id stage) (s'.stay call id stage) :=
  twin.setCall (.same bare)

theorem startUpdate_twin (dto : UpdateUserDto) :
    Twin lib verify (s.startUpdate lib call id dto)
      (s'.startUpdate (lib.rehashed hash verify) call id dto) := by
  unfold startUpdate
  rw [validated_rehashed]
  cases validated lib dto.failures with
  | error e => exact stay_twin twin rfl
  | ok _ => exact stay_twin twin rfl

theorem cacheGet_twin : Twin lib verify (s.cacheGet lib call id)
    (s'.cacheGet (lib.rehashed hash verify) call id) := by
  unfold cacheGet
  rw [← twin.cache, rehashed_fromJson]
  cases (s.cache (cacheKey id)).map lib.fromJson with
  | none => exact stay_twin twin rfl
  | some read =>
    cases read with
    | error e => exact stay_twin twin rfl
    | ok user => exact stay_twin twin rfl

theorem readUser_twin : Twin lib verify (s.readUser call id) (s'.readUser call id) := by
  have found := twin.select id
  unfold readUser
  generalize s.selectUser id = row at found ⊢
  generalize s'.selectUser id = row' at found ⊢
  cases found with
  | none => exact stay_twin twin rfl
  | some both =>
    dsimp only
    rw [both.response]
    exact stay_twin twin rfl

theorem cacheInsert_twin (response : UserResponse) :
    Twin lib verify (s.cacheInsert lib call id response)
      (s'.cacheInsert (lib.rehashed hash verify) call id response) := by
  have done : Twin lib verify (s.stay call id (.returned (.user (.ok response))))
      (s'.stay call id (.returned (.user (.ok response)))) := stay_twin twin rfl
  unfold cacheInsert
  rw [rehashed_toJson]
  cases lib.toJson response with
  | error e => exact done
  | ok json => exact { done with cache := by simp only [twin.cache] }

theorem loadUser_twin (dto : UpdateUserDto) :
    Twin lib verify (s.loadUser call id dto) (s'.loadUser call id dto) := by
  have found := twin.select id
  unfold loadUser
  generalize s.selectUser id = row at found ⊢
  generalize s'.selectUser id = row' at found ⊢
  cases found with
  | none => exact stay_twin twin rfl
  | some both => exact stay_twin twin rfl

theorem updateRow_twin (dto : UpdateUserDto) (now : Nat) :
    List.Forall₂ (Model.Twin lib verify) (s.updateRow id dto now) (s'.updateRow id dto now) :=
  Table.modify_related (fun _ _ both => both.id) (fun _ _ both => both.updated dto (millis now))
    twin.rows

theorem deleteRow_twin :
    List.Forall₂ (Model.Twin lib verify) (s.deleteRow id) (s'.deleteRow id) :=
  Table.delete_related (fun _ _ both => both.id) twin.rows

theorem writeUser_twin (dto : UpdateUserDto) (now : Nat) :
    Twin lib verify (s.writeUser call id dto now) (s'.writeUser call id dto now) := by
  have found := twin.select id
  unfold writeUser
  generalize s.selectUser id = row at found ⊢
  generalize s'.selectUser id = row' at found ⊢
  cases found with
  | none => exact stay_twin twin rfl
  | some both =>
    have moved : Twin lib verify (s.stay call id .reloading) (s'.stay call id .reloading) :=
      stay_twin twin rfl
    exact { moved with rows := updateRow_twin twin dto now }

theorem reloadUser_twin : Twin lib verify (s.reloadUser call id) (s'.reloadUser call id) := by
  have found := twin.select id
  unfold reloadUser
  generalize s.selectUser id = row at found ⊢
  generalize s'.selectUser id = row' at found ⊢
  cases found with
  | none => exact stay_twin twin rfl
  | some both => exact twin.setCall (.invalidating both)

theorem invalidate_twin (outcome : Outcome) :
    Twin lib verify (s.invalidate call id outcome) (s'.invalidate call id outcome) := by
  have moved : Twin lib verify (s.stay call id (.finishing outcome))
      (s'.stay call id (.finishing outcome)) := stay_twin twin rfl
  exact { moved with cache := by simp only [invalidate, twin.cache] }

theorem deleteUser_twin : Twin lib verify (s.deleteUser call id) (s'.deleteUser call id) := by
  have found := twin.select id
  unfold deleteUser
  generalize s.selectUser id = row at found ⊢
  generalize s'.selectUser id = row' at found ⊢
  cases found with
  | none => exact stay_twin twin rfl
  | some both =>
    have moved : Twin lib verify (s.stay call id .forgetting) (s'.stay call id .forgetting) :=
      stay_twin twin rfl
    exact { moved with rows := deleteRow_twin twin }

/-- A call that has no row in hand. -/
theorem advanceUser_twin {stage : Stage} (now : Nat) (bare : (Call.onUser id stage).model = none) :
    Option.Rel (Twin lib verify) (s.advanceUser lib call id now stage)
      (s'.advanceUser (lib.rehashed hash verify) call id now stage) := by
  cases stage with
  | finding => exact .some (cacheGet_twin twin)
  | reading => exact .some (readUser_twin twin)
  | caching response => exact .some (cacheInsert_twin twin response)
  | loading dto => exact .some (loadUser_twin twin dto)
  | writing dto => exact .some (writeUser_twin twin dto now)
  | reloading => exact .some (reloadUser_twin twin)
  | invalidating updated => cases bare
  | deleting => exact .some (deleteUser_twin twin)
  | forgetting => exact .some (invalidate_twin twin _)
  | finishing outcome => exact .some (stay_twin twin rfl)
  | idle | returned _ | dropped => exact .none

end OnUser

section Others
variable (twin : Twin lib verify s s')
  (alike : ∀ salt password,
    HashedAlike lib verify (lib.hashPassword salt password) (hash salt password))

include twin alike in
theorem startCreate_twin (dto : CreateUserDto) (salt : String) (now : Nat) :
    Twin lib verify (s.startCreate lib call dto salt id now)
      (s'.startCreate (lib.rehashed hash verify) call dto salt id now) := by
  have hashed := alike salt dto.password
  unfold startCreate
  rw [validated_rehashed, failures_rehashed, rehashed_hashPassword]
  cases validated lib (dto.failures lib) with
  | error e => exact twin.setCall (.same rfl)
  | ok _ =>
    dsimp only
    generalize lib.hashPassword salt dto.password = made at hashed ⊢
    generalize hash salt dto.password = made' at hashed ⊢
    cases hashed with
    | error e => exact twin.setCall (.same rfl)
    | @ok made made' verified =>
      have made_alike : Call.Twin lib verify
        (.inserting ⟨⟨id, dto.email, dto.name, made, millis now, millis now⟩, dto.password⟩)
        (.inserting ⟨⟨id, dto.email, dto.name, made', millis now, millis now⟩, dto.password⟩) :=
        .inserting ⟨rfl, verified⟩
      exact { twin.setCall made_alike with drawn := by rw [twin.drawn] }

variable [DecidableEq κ]
include twin

theorem selectByEmail_twin (email : String) : Option.Rel (Model.Twin lib verify)
    (s.selectByEmail lib email) (s'.selectByEmail (lib.rehashed hash verify) email) :=
  Table.select_related (fun _ _ both => congrArg lib.collate both.email) twin.rows

theorem refused_twin {m m' : Model} (both : m.Twin lib verify m') :
    s'.refused (lib.rehashed hash verify) m' = s.refused lib m := by
  have ids : (s'.selectUser m.id).isSome = (s.selectUser m.id).isSome :=
    (isSome_of_rel (twin.select m.id)).symm
  have emails : (s'.selectByEmail (lib.rehashed hash verify) m.email).isSome =
      (s.selectByEmail lib m.email).isSome := (isSome_of_rel (selectByEmail_twin twin m.email)).symm
  unfold refused
  rw [← both.email, ← both.id, ids, emails]
  rfl

theorem insertUser_twin {a a' : Account} (both : a.model.Twin lib verify a'.model) :
    Twin lib verify (s.insertUser lib call a)
      (s'.insertUser (lib.rehashed hash verify) call a') := by
  unfold insertUser
  rw [refused_twin twin both]
  cases s.refused lib a.model with
  | some e => exact twin.setCall (.same rfl)
  | none =>
    have moved : Twin lib verify (s.setCall call (.readingBack a.model.id))
        (s'.setCall call (.readingBack a'.model.id)) := by
      rw [both.id]
      exact twin.setCall (.same rfl)
    exact { moved with rows := List.rel_append twin.rows (.cons both .nil) }

omit [DecidableEq κ] in
theorem readBack_twin : Twin lib verify (s.readBack call id) (s'.readBack call id) := by
  have found := twin.select id
  unfold readBack
  generalize s.selectUser id = row at found ⊢
  generalize s'.selectUser id = row' at found ⊢
  cases found with
  | none => exact twin.setCall (.same rfl)
  | @some m m' both =>
    dsimp only
    rw [both.response, twin.announced]
    have moved : Twin lib verify (s.setCall call (.created (.ok m'.response)))
        (s'.setCall call (.created (.ok m'.response))) := twin.setCall (.same rfl)
    exact { moved with announced := rfl }

omit twin [DecidableEq κ] in
theorem loginResult_twin {cfg : TokenConfig} {now : Nat} {dto : LoginDto} {row row' : Option Model}
    (found : Option.Rel (Model.Twin lib verify) row row') :
    loginResult (lib.rehashed hash verify) cfg now dto row' = loginResult lib cfg now dto row := by
  cases found with
  | none => rfl
  | some both =>
    unfold loginResult
    simp only [both.verified, both.id, both.email, both.response]
    rfl

theorem loginUser_twin {cfg : TokenConfig} (dto : LoginDto) (now : Nat) :
    Twin lib verify (s.loginUser lib cfg call dto now)
      (s'.loginUser (lib.rehashed hash verify) cfg call dto now) := by
  unfold loginUser
  rw [loginResult_twin (selectByEmail_twin twin dto.email)]
  exact twin.setCall (.same rfl)

theorem advance_twin {cfg : TokenConfig} (now : Nat) :
    Option.Rel (Twin lib verify) (s.advance lib cfg call now)
      (s'.advance (lib.rehashed hash verify) cfg call now) := by
  have here := twin.calls call
  unfold advance
  generalize s.calls call = c at here ⊢
  generalize s'.calls call = c' at here ⊢
  cases here with
  | same bare =>
    cases c with
    | onUser id stage => exact advanceUser_twin twin now bare
    | readingBack id => exact .some (readBack_twin twin)
    | selecting dto => exact .some (loginUser_twin twin dto now)
    | inserting account => cases bare
    | idle | created _ | loggedIn _ | dropped => exact .none
  | @invalidating id m m' both =>
    have same : m.response = m'.response := both.response
    refine .some ?_
    rw [same]
    exact invalidate_twin twin _
  | inserting both => exact .some (insertUser_twin twin both)

omit twin [DecidableEq κ] in
/-- A failed database operation is told alike. -/
theorem failed_twin {c c' : Call} (both : c.Twin lib verify c') (error : AppError) :
    c.failed error = c'.failed error ∧
      ∀ after, c.failed error = some after → after.model = none := by
  cases both with
  | same bare =>
    refine ⟨rfl, fun after failed => ?_⟩
    cases c with
    | onUser id stage =>
      simp only [Call.failed] at failed
      split at failed
      · obtain rfl := Option.some.inj failed
        rfl
      · cases failed
    | readingBack _ | selecting _ =>
      obtain rfl := Option.some.inj failed
      rfl
    | inserting _ => cases bare
    | idle | created _ | loggedIn _ | dropped => cases failed
  | invalidating _ => exact ⟨rfl, fun _ failed => by cases failed⟩
  | inserting _ =>
    refine ⟨rfl, fun after failed => ?_⟩
    obtain rfl := Option.some.inj failed
    rfl

theorem written_twin (now : Nat) : Option.Rel (Twin lib verify) (s.written lib call now)
    (s'.written (lib.rehashed hash verify) call now) := by
  have here := twin.calls call
  unfold written
  generalize s.calls call = c at here ⊢
  generalize s'.calls call = c' at here ⊢
  cases here with
  | same bare =>
    cases c with
    | onUser id stage =>
      have found := twin.select id
      cases stage with
      | writing dto =>
        dsimp only
        generalize s.selectUser id = row at found ⊢
        generalize s'.selectUser id = row' at found ⊢
        cases found with
        | none => exact .none
        | some both => exact .some { twin with rows := updateRow_twin twin dto now }
      | deleting =>
        dsimp only
        generalize s.selectUser id = row at found ⊢
        generalize s'.selectUser id = row' at found ⊢
        cases found with
        | none => exact .none
        | some both => exact .some { twin with rows := deleteRow_twin twin }
      | _ => exact .none
    | inserting account => cases bare
    | _ => exact .none
  | invalidating _ => exact .none
  | @inserting a a' both =>
    dsimp only
    rw [refused_twin twin both]
    split
    · exact .some { twin with rows := List.rel_append twin.rows (.cons both .nil) }
    · exact .none

omit [DecidableEq κ] in
theorem idle_twin : s'.calls call = .idle ↔ s.calls call = .idle := by
  constructor
  · intro idle
    have here := twin.calls call
    rw [idle] at here
    generalize s.calls call = c at here ⊢
    cases here with
    | same _ => rfl
  · exact fun idle => twin.bare idle rfl

omit [DecidableEq κ] in
theorem failedStep_twin (error : AppError) :
    Option.Rel (Twin lib verify) (((s.calls call).failed error).map fun c => s.setCall call c)
      (((s'.calls call).failed error).map fun c => s'.setCall call c) := by
  obtain ⟨same, bare⟩ := failed_twin (twin.calls call) error
  rw [← same]
  cases failed : (s.calls call).failed error with
  | none => exact .none
  | some after => exact .some (twin.setCall (.same (bare after failed)))

theorem lostReply_twin (now : Nat) (error : AppError) :
    Option.Rel (Twin lib verify)
      ((s.written lib call now).bind fun t =>
        ((s.calls call).failed error).map fun c => t.setCall call c)
      ((s'.written (lib.rehashed hash verify) call now).bind fun t =>
        ((s'.calls call).failed error).map fun c => t.setCall call c) := by
  have wrote : Option.Rel (Twin lib verify) (s.written lib call now)
      (s'.written (lib.rehashed hash verify) call now) := written_twin twin now
  obtain ⟨same, bare⟩ := failed_twin (twin.calls call) error
  rw [← same]
  generalize s.written lib call now = t at wrote ⊢
  generalize s'.written (lib.rehashed hash verify) call now = t' at wrote ⊢
  cases wrote with
  | none => exact .none
  | some both =>
    cases failed : (s.calls call).failed error with
    | none => exact .none
    | some after => exact .some (both.setCall (.same (bare after failed)))

theorem cancel_twin {cfg : TokenConfig} :
    Option.Rel (Twin lib verify) (step lib cfg s (.cancel call))
      (step (lib.rehashed hash verify) cfg s' (.cancel call)) := by
  have here := twin.calls call
  simp only [step]
  generalize s.calls call = c at here ⊢
  generalize s'.calls call = c' at here ⊢
  cases here with
  | same bare =>
    cases c with
    | onUser id stage =>
      dsimp only
      split
      · exact .some (stay_twin twin rfl)
      · exact .none
    | _ =>
      dsimp only
      split
      · exact .some (twin.setCall (.same rfl))
      · exact .none
  | invalidating _ => exact .some (stay_twin twin rfl)
  | inserting _ => exact .some (twin.setCall (.same rfl))

include alike in
/-- Either service can do a step exactly when the other can, and stays its twin. -/
theorem step_twin {cfg : TokenConfig} (l : AccountLabel) :
    Option.Rel (Twin lib verify) (step lib cfg s l) (step (lib.rehashed hash verify) cfg s' l) := by
  cases l with
  | find call id | delete call id =>
    simp only [step, idle_twin twin]
    split
    · exact .some (stay_twin twin rfl)
    · exact .none
  | update call id dto =>
    simp only [step, idle_twin twin]
    split
    · exact .some (startUpdate_twin twin dto)
    · exact .none
  | create call dto salt id now =>
    simp only [step, idle_twin twin, ← twin.drawn]
    split
    · exact .some (startCreate_twin twin alike dto salt now)
    · exact .none
  | login call dto =>
    simp only [step, idle_twin twin]
    split
    · exact .some (twin.setCall (.same rfl))
    · exact .none
  | advance call now => exact advance_twin twin now
  | databaseError call error => exact failedStep_twin twin _
  | lostReply call now error => exact lostReply_twin twin now _
  | cancel call => exact cancel_twin twin
  | expire key => exact .some { twin with cache := by rw [twin.cache] }

end Others

variable [DecidableEq κ] {cfg : TokenConfig} {ls : List AccountLabel}

theorem run_twin
    (alike : ∀ salt password,
      HashedAlike lib verify (lib.hashPassword salt password) (hash salt password))
    (run : (machine lib cfg).Run (fun _ _ => True) ls s) :
    ∃ s', (machine (lib.rehashed hash verify) cfg).Run (fun _ _ => True) ls s' ∧
      Twin lib verify s s' := by
  have start : Twin lib verify empty empty := ⟨.nil, rfl, fun _ => .same rfl, rfl, rfl⟩
  refine run.followed (R := Twin lib verify) start fun s s' l t twin moved => ?_
  have both : Option.Rel (Twin lib verify) (step lib cfg s l)
      (step (lib.rehashed hash verify) cfg s' l) := step_twin twin alike l
  change step lib cfg s l = some t at moved
  rw [moved] at both
  generalize followed : step (lib.rehashed hash verify) cfg s' l = moved' at both
  cases both with
  | some twin => exact ⟨_, followed, twin⟩

/-- Whatever makes the hashes, the same calls in the same order are told the same, the
cache holds the same texts and the same users are announced, to the last step. -/
theorem hashes_untold
    (alike : ∀ salt password,
      HashedAlike lib verify (lib.hashPassword salt password) (hash salt password))
    (run : (machine lib cfg).Run (fun _ _ => True) ls s) :
    ∃ s', (machine (lib.rehashed hash verify) cfg).Run (fun _ _ => True) ls s' ∧
      (∀ call, (s'.calls call).told = (s.calls call).told) ∧ s'.cache = s.cache ∧
      s'.announced = s.announced ∧ s'.rows.map Model.response = s.rows.map Model.response := by
  obtain ⟨s', run', twin⟩ := run_twin alike run
  refine ⟨s', run', fun call => (twin.calls call).told.symm, twin.cache.symm,
    twin.announced.symm, ?_⟩
  have responses : List.Forall₂ Eq (s.rows.map Model.response) (s'.rows.map Model.response) := by
    rw [List.forall₂_map_left_iff, List.forall₂_map_right_iff]
    exact twin.rows.imp fun _ _ both => both.response
  rw [List.forall₂_eq_eq_eq] at responses
  exact responses.symm

/-! Ada's hash begins with another character, and she logs in as before. -/

def otherHash (_salt password : String) : Except String String := .ok ("#" ++ password)

def otherVerify (password hash : String) : Bool := "#" ++ password = hash

theorem otherHash_alike (salt password : String) :
    HashedAlike sampleLibraries otherVerify (sampleLibraries.hashPassword salt password)
      (otherHash salt password) :=
  .ok fun tried => by simp [sampleLibraries, otherVerify]

theorem hashes_untold_sample :
    ∃ s', (machine (sampleLibraries.rehashed otherHash otherVerify) oneDay).Run (fun _ _ => True)
        (adaAsks ++ [.advance 3 0]) s' ∧
      (s'.calls 3).told = some (.inr (.inr adaAnswer)) ∧
      (sample (adaAsks ++ [.advance 3 0])).rows.map Model.passwordHash = ["$difference"] := by
  have run : (machine sampleLibraries oneDay).Run (fun _ _ => True) (adaAsks ++ [.advance 3 0])
      (sample (adaAsks ++ [.advance 3 0])) :=
    Machine.run_follow (fun _ _ _ => trivial) (by decide +kernel)
  obtain ⟨s', run', told, _⟩ := hashes_untold otherHash_alike run
  refine ⟨s', run', (told 3).trans ?_, by decide +kernel⟩
  decide +kernel

end Accounts
end Twins

end ApiBoilerplate.Users
