import ApiBoilerplate.Users.AccountSteps

/-!
# What the users table holds

Any number of calls may interleave, fail, lose their reply or be dropped. In every
state the emails are distinct, every row is an account that passed the checks of
`create`, and `update` has changed nothing of it but its name and its time. The users
announced are those whose creation succeeded, each of them once.
-/

namespace ApiBoilerplate.Users

open Foundation Http

/-- The rows of one account: `update` never sets these columns. -/
structure Model.SameAccount (m m' : Model) : Prop where
  id : m.id = m'.id
  email : m.email = m'.email
  passwordHash : m.passwordHash = m'.passwordHash
  createdAt : m.createdAt = m'.createdAt

/-- The response shows the account as it was created, up to its name. -/
structure Model.Shown (m : Model) (response : UserResponse) : Prop where
  id : m.id = response.id
  email : m.email = response.email
  createdAt : m.createdAt = response.createdAt

theorem Model.SameAccount.shown {m m' : Model} (same : m.SameAccount m') : m.Shown m'.response :=
  ⟨same.id, same.email, same.createdAt⟩

theorem Model.SameAccount.refl (m : Model) : m.SameAccount m := ⟨rfl, rfl, rfl, rfl⟩

theorem Model.SameAccount.updated {m m' : Model} (same : m.SameAccount m') (dto : UpdateUserDto)
    (now : DateTime) : m.SameAccount (m'.updated dto now) :=
  ⟨same.id, same.email, same.passwordHash, same.createdAt⟩

/-- The id of the account a call is to insert, has inserted or has created. -/
def Call.holds : Call → Option Uuid
  | .inserting account => some account.model.id
  | .readingBack id => some id
  | .created (.ok response) => some response.id
  | _ => none

theorem Call.Plain.holds {before after : Call} (plain : before.Plain after) :
    after.holds = none := by
  cases after with
  | inserting _ | readingBack _ => exact plain.elim
  | created result =>
    cases result with
    | ok _ => exact plain.elim
    | error _ => rfl
  | _ => rfl

namespace Accounts
variable {κ : Type}

/-- The row is one of an account that was inserted. -/
def Rooted (s : Accounts) (m : Model) : Prop := ∃ a ∈ s.ledger, a.model.SameAccount m

def CallSound (lib : Libraries κ) (s : Accounts) : Call → Prop
  | .onUser _ (.loading dto) | .onUser _ (.writing dto) => dto.failures = []
  | .inserting account => account.Admitted lib ∧ account.model.id ∈ s.drawn ∧
      ∀ a ∈ s.ledger, a.model.id ≠ account.model.id
  | .readingBack id => ∃ a ∈ s.ledger, a.model.id = id
  | .created (.ok response) => response ∈ s.announced ∧ ∃ a ∈ s.ledger, a.model.Shown response
  | _ => True

/-- What holds of the rows and the ledger. -/
structure TableSound (lib : Libraries κ) (s : Accounts) : Prop where
  ids : Keyed Model.id s.rows
  emails : Keyed (fun m : Model => lib.collate m.email) s.rows
  rooted : ∀ m ∈ s.rows, s.Rooted m
  names : ∀ m ∈ s.rows, goodName m.name = true
  admitted : ∀ a ∈ s.ledger, a.Admitted lib
  ledgerIds : Keyed (fun a : Account => a.model.id) s.ledger
  known : ∀ a ∈ s.ledger, a.model.id ∈ s.drawn

/-- What holds of the calls and the announcements. -/
structure CallsSound (lib : Libraries κ) (s : Accounts) : Prop where
  calls : ∀ call, CallSound lib s (s.calls call)
  apart : ∀ call other id, (s.calls call).holds = some id → (s.calls other).holds = some id →
    call = other
  announcedIds : Keyed UserResponse.id s.announced
  announcedBy : ∀ r ∈ s.announced, ∃ call, s.calls call = .created (.ok r)

structure Sound (lib : Libraries κ) (s : Accounts) : Prop extends
  TableSound lib s, CallsSound lib s

variable {lib : Libraries κ} {cfg : TokenConfig} {s t : Accounts} {call : Nat} {id : Uuid}
  {now : Nat} {after : Call}

theorem empty_sound (lib : Libraries κ) : Sound lib empty where
  ids := List.nodup_nil
  emails := List.nodup_nil
  rooted := fun _ listed => absurd listed List.not_mem_nil
  names := fun _ listed => absurd listed List.not_mem_nil
  admitted := fun _ listed => absurd listed List.not_mem_nil
  ledgerIds := List.nodup_nil
  known := fun _ listed => absurd listed List.not_mem_nil
  calls := fun _ => trivial
  apart := fun _ _ _ holds => by cases holds
  announcedIds := List.nodup_nil
  announcedBy := fun _ listed => absurd listed List.not_mem_nil

theorem Moves.self (moves : s.Moves t call after) : t.calls call = after := by
  rw [moves.calls, Function.update_self]

theorem Moves.other (moves : s.Moves t call after) {other : Nat} (apart : other ≠ call) :
    t.calls other = s.calls other := by
  rw [moves.calls, Function.update_of_ne apart]

/-- What a call relies on only grows, but for accounts under the id it is to insert. -/
theorem CallSound.grown {c : Call} (sound : CallSound lib s c) (ledger : s.ledger ⊆ t.ledger)
    (drawn : s.drawn ⊆ t.drawn) (announced : s.announced ⊆ t.announced)
    (apart : ∀ account, c = .inserting account → ∀ a ∈ t.ledger, a.model.id ≠ account.model.id) :
    CallSound lib t c := by
  cases c with
  | onUser id stage => cases stage <;> exact sound
  | inserting account => exact ⟨sound.1, drawn sound.2.1, apart account rfl⟩
  | readingBack id =>
    obtain ⟨a, listed, same⟩ := sound
    exact ⟨a, ledger listed, same⟩
  | created result =>
    cases result with
    | ok response =>
      obtain ⟨listed, a, inserted, same⟩ := sound
      exact ⟨announced listed, a, ledger inserted, same⟩
    | error _ => trivial
  | _ => trivial

/-- One call moves; what the others rely on has only grown. -/
theorem CallsSound.moved (sound : CallsSound lib s) (moves : s.Moves t call after)
    (ledger : s.ledger ⊆ t.ledger) (drawn : s.drawn ⊆ t.drawn)
    (inserting : ∀ other account, other ≠ call → s.calls other = .inserting account →
      ∀ a ∈ t.ledger, a.model.id ≠ account.model.id)
    (here : CallSound lib t after)
    (alone : ∀ id, after.holds = some id → ∀ other, other ≠ call → (s.calls other).holds ≠ some id)
    (announced : t.announced = s.announced) : CallsSound lib t where
  calls := by
    intro other
    by_cases same : other = call
    · subst same
      rw [moves.self]
      exact here
    · rw [moves.other same]
      exact (sound.calls other).grown ledger drawn (announced ▸ List.Subset.refl _)
        fun account before => inserting other account same before
  apart := by
    intro first second id one two
    by_cases same : first = call
    · subst same
      rw [moves.self] at one
      by_contra different
      rw [moves.other (Ne.symm different)] at two
      exact alone id one second (Ne.symm different) two
    · rw [moves.other same] at one
      by_cases last : second = call
      · subst last
        rw [moves.self] at two
        exact absurd one (alone id two first same)
      · rw [moves.other last] at two
        exact sound.apart first second id one two
  announcedIds := announced ▸ sound.announcedIds
  announcedBy := by
    rw [announced]
    intro r listed
    obtain ⟨by_, created⟩ := sound.announcedBy r listed
    have apart : by_ ≠ call := by
      rintro rfl
      have live := moves.live
      rw [created] at live
      cases live
    exact ⟨by_, by rw [moves.other apart, created]⟩

/-- A call that moves on without drawing, inserting or announcing. -/
theorem CallsSound.plain (sound : CallsSound lib s) (moves : s.Moves t call after)
    (plain : (s.calls call).Plain after) (ledger : t.ledger = s.ledger)
    (announced : t.announced = s.announced) (drawn : t.drawn = s.drawn) : CallsSound lib t := by
  refine sound.moved moves (ledger ▸ List.Subset.refl _) (drawn ▸ List.Subset.refl _) ?_ ?_ ?_
    announced
  · intro other account _ before
    have holds := sound.calls other
    rw [before] at holds
    exact ledger ▸ holds.2.2
  · cases after with
    | onUser id stage =>
      cases stage with
      | loading dto => exact plain
      | writing dto =>
        have holds := sound.calls call
        have before : s.calls call = .onUser id (.loading dto) := plain
        rw [before] at holds
        exact holds
      | _ => trivial
    | inserting _ | readingBack _ => exact plain.elim
    | created result =>
      cases result with
      | ok _ => exact plain.elim
      | error _ => trivial
    | _ => trivial
  · intro id held
    rw [plain.holds] at held
    cases held

/-- Whoever holds an id has drawn it. -/
theorem Sound.drawn_of_holds (sound : Sound lib s) (holds : (s.calls call).holds = some id) :
    id ∈ s.drawn := by
  have here := sound.calls call
  cases stage : s.calls call with
  | inserting account =>
    rw [stage] at holds here
    obtain rfl := Option.some.inj holds
    exact here.2.1
  | readingBack own =>
    rw [stage] at holds here
    obtain rfl := Option.some.inj holds
    obtain ⟨a, listed, rfl⟩ := here
    exact sound.known a listed
  | created result =>
    rw [stage] at holds here
    cases result with
    | ok response =>
      obtain rfl := Option.some.inj holds
      obtain ⟨_, a, listed, shown⟩ := here
      exact shown.id ▸ sound.known a listed
    | error _ => cases holds
  | _ =>
    rw [stage] at holds
    cases holds

/-- The table is not written. -/
theorem TableSound.kept (sound : TableSound lib s) (rows : t.rows = s.rows)
    (ledger : t.ledger = s.ledger) (drawn : s.drawn ⊆ t.drawn) : TableSound lib t where
  ids := rows ▸ sound.ids
  emails := rows ▸ sound.emails
  rooted := by
    rw [rows]
    intro m listed
    rw [Rooted, ledger]
    exact sound.rooted m listed
  names := rows ▸ sound.names
  admitted := ledger ▸ sound.admitted
  ledgerIds := ledger ▸ sound.ledgerIds
  known := by
    rw [ledger]
    exact fun a listed => drawn (sound.known a listed)

theorem TableSound.update (sound : TableSound lib s) {dto : UpdateUserDto}
    (valid : dto.failures = []) (rows : t.rows = s.updateRow id dto now)
    (ledger : t.ledger = s.ledger) (drawn : t.drawn = s.drawn) : TableSound lib t where
  ids := rows ▸ Table.keyed_modify sound.ids fun _ => rfl
  emails := rows ▸ Table.keyed_modify sound.emails fun _ => rfl
  rooted := by
    rw [rows]
    intro m listed
    rw [Rooted, ledger]
    obtain ⟨before, old, rfl | ⟨_, rfl⟩⟩ := Table.mem_modify listed
    · exact sound.rooted _ old
    · obtain ⟨a, inserted, same⟩ := sound.rooted before old
      exact ⟨a, inserted, same.updated dto _⟩
  names := by
    rw [rows]
    intro m listed
    obtain ⟨before, old, rfl | ⟨_, rfl⟩⟩ := Table.mem_modify listed
    · exact sound.names _ old
    · exact goodName_updated valid (sound.names before old) _
  admitted := ledger ▸ sound.admitted
  ledgerIds := ledger ▸ sound.ledgerIds
  known := by
    rw [ledger, drawn]
    exact sound.known

theorem TableSound.deleted (sound : TableSound lib s) (rows : t.rows = s.deleteRow id)
    (ledger : t.ledger = s.ledger) (drawn : t.drawn = s.drawn) : TableSound lib t where
  ids := rows ▸ Table.keyed_delete sound.ids
  emails := rows ▸ Table.keyed_delete sound.emails
  rooted := by
    rw [rows]
    intro m listed
    rw [Rooted, ledger]
    exact sound.rooted m (Table.mem_of_mem_delete listed)
  names := by
    rw [rows]
    exact fun m listed => sound.names m (Table.mem_of_mem_delete listed)
  admitted := ledger ▸ sound.admitted
  ledgerIds := ledger ▸ sound.ledgerIds
  known := by
    rw [ledger, drawn]
    exact sound.known

/-- The account of an insertion that is about to happen. -/
theorem Sound.pending (sound : Sound lib s) {account : Account}
    (before : s.calls call = .inserting account) : account.Admitted lib ∧
      account.model.id ∈ s.drawn ∧ ∀ a ∈ s.ledger, a.model.id ≠ account.model.id := by
  have here := sound.calls call
  rw [before] at here
  exact here

theorem announce_sound (sound : Sound lib s) {model : Model}
    (before : s.calls call = .readingBack id) (found : s.selectUser id = some model)
    (rows : t.rows = s.rows) (ledger : t.ledger = s.ledger)
    (announced : t.announced = s.announced ++ [model.response]) (drawn : t.drawn = s.drawn)
    (moves : s.Moves t call (.created (.ok model.response))) : Sound lib t := by
  obtain ⟨present, own⟩ := Table.mem_of_select found
  have held : (s.calls call).holds = some model.response.id := by
    rw [before, Call.holds]
    exact congrArg some own.symm
  have alone : ∀ other, other ≠ call → (s.calls other).holds ≠ some model.response.id :=
    fun other apart holds => apart (sound.apart other call _ holds held)
  have grown : s.announced ⊆ t.announced := announced ▸ List.subset_append_left _ _
  have mem_self : model.response ∈ t.announced :=
    announced ▸ List.mem_append_right _ (List.mem_singleton_self _)
  refine ⟨sound.toTableSound.kept rows ledger (drawn ▸ List.Subset.refl _), ?_, ?_, ?_, ?_⟩
  · intro other
    by_cases same : other = call
    · subst same
      rw [moves.self]
      obtain ⟨a, listed, same⟩ := sound.rooted model present
      exact ⟨mem_self, a, ledger ▸ listed, same.shown⟩
    · rw [moves.other same]
      refine (sound.calls other).grown (ledger ▸ List.Subset.refl _) (drawn ▸ List.Subset.refl _)
        grown fun account inserting => ?_
      rw [ledger]
      exact (sound.pending inserting).2.2
  · intro first second own one two
    by_cases same : first = call
    · subst same
      rw [moves.self] at one
      obtain rfl := Option.some.inj one
      by_contra different
      rw [moves.other (Ne.symm different)] at two
      exact alone second (Ne.symm different) two
    · rw [moves.other same] at one
      by_cases last : second = call
      · subst last
        rw [moves.self] at two
        obtain rfl := Option.some.inj two
        exact absurd one (alone first same)
      · rw [moves.other last] at two
        exact sound.apart first second own one two
  · rw [announced]
    refine Table.keyed_append sound.announcedIds (Table.select_eq_none.mpr ?_)
    intro r listed same
    obtain ⟨other, created⟩ := sound.announcedBy r listed
    have holds : (s.calls other).holds = some model.response.id := by
      rw [created, ← same]
      rfl
    obtain rfl := sound.apart other call _ holds held
    rw [before] at created
    cases created
  · rw [announced]
    intro r listed
    rcases List.mem_append.mp listed with old | new
    · obtain ⟨other, created⟩ := sound.announcedBy r old
      refine ⟨other, ?_⟩
      rw [moves.other, created]
      rintro rfl
      rw [before] at created
      cases created
    · obtain rfl := List.mem_singleton.mp new
      exact ⟨call, moves.self⟩

section Insertion
variable [DecidableEq κ]

theorem refused_none {model : Model} (accepted : s.refused lib model = none) :
    s.selectUser model.id = none ∧ s.selectByEmail lib model.email = none := by
  unfold refused at accepted
  split at accepted
  · cases accepted
  split at accepted
  · cases accepted
  split at accepted
  · cases accepted
  · rename_i _ noId noEmail
    simpa using And.intro noId noEmail

theorem TableSound.insert (sound : TableSound lib s) {account : Account}
    (admitted : account.Admitted lib) (drawn : account.model.id ∈ s.drawn)
    (fresh : ∀ a ∈ s.ledger, a.model.id ≠ account.model.id)
    (accepted : s.refused lib account.model = none) (rows : t.rows = s.rows ++ [account.model])
    (ledger : t.ledger = s.ledger ++ [account]) (draws : t.drawn = s.drawn) :
    TableSound lib t where
  ids := rows ▸ Table.keyed_append sound.ids (refused_none accepted).1
  emails := rows ▸ Table.keyed_append sound.emails (refused_none accepted).2
  rooted := by
    rw [rows]
    intro m listed
    rw [Rooted, ledger]
    rcases List.mem_append.mp listed with old | new
    · obtain ⟨a, inserted, same⟩ := sound.rooted m old
      exact ⟨a, List.mem_append_left _ inserted, same⟩
    · obtain rfl := List.mem_singleton.mp new
      exact ⟨account, List.mem_append_right _ (List.mem_singleton_self _), .refl _⟩
  names := by
    rw [rows]
    intro m listed
    rcases List.mem_append.mp listed with old | new
    · exact sound.names m old
    · obtain rfl := List.mem_singleton.mp new
      exact admitted.name
  admitted := by
    rw [ledger]
    intro a listed
    rcases List.mem_append.mp listed with old | new
    · exact sound.admitted a old
    · obtain rfl := List.mem_singleton.mp new
      exact admitted
  ledgerIds := ledger ▸ Table.keyed_append sound.ledgerIds (Table.select_eq_none.mpr fresh)
  known := by
    rw [ledger, draws]
    intro a listed
    rcases List.mem_append.mp listed with old | new
    · exact sound.known a old
    · obtain rfl := List.mem_singleton.mp new
      exact drawn

theorem insert_sound (sound : Sound lib s) {account : Account}
    (before : s.calls call = .inserting account) (accepted : s.refused lib account.model = none)
    (rows : t.rows = s.rows ++ [account.model]) (ledger : t.ledger = s.ledger ++ [account])
    (announced : t.announced = s.announced) (drawn : t.drawn = s.drawn)
    (moves : s.Moves t call after)
    (next : after = .readingBack account.model.id ∨ ∃ e, after = .created (.error e)) :
    Sound lib t := by
  obtain ⟨admitted, known, fresh⟩ := sound.pending before
  have alone : ∀ other, other ≠ call → (s.calls other).holds ≠ some account.model.id := by
    intro other apart holds
    exact apart (sound.apart other call _ holds (by rw [before]; rfl))
  have table := sound.toTableSound.insert admitted known fresh accepted rows ledger drawn
  refine ⟨table, sound.toCallsSound.moved moves (ledger ▸ List.subset_append_left _ _)
    (drawn ▸ List.Subset.refl _) ?_ ?_ ?_ announced⟩
  · intro other pending apart inserting a listed
    rw [ledger] at listed
    rcases List.mem_append.mp listed with old | new
    · exact (sound.pending inserting).2.2 a old
    · obtain rfl := List.mem_singleton.mp new
      intro same
      exact alone other apart (by rw [inserting, Call.holds, same])
  · rcases next with rfl | ⟨e, rfl⟩
    · exact ⟨account, ledger ▸ List.mem_append_right _ (List.mem_singleton_self _), rfl⟩
    · trivial
  · intro id holds
    rcases next with rfl | ⟨e, rfl⟩
    · obtain rfl := Option.some.inj holds
      exact alone
    · cases holds

theorem Effect.sound (effect : Effect lib s t) (sound : Sound lib s) : Sound lib t := by
  cases effect with
  | expired keeps calls =>
    obtain ⟨rows, ledger, drawn, announced⟩ := keeps
    refine ⟨sound.toTableSound.kept rows ledger (drawn ▸ List.Subset.refl _), ?_, ?_, ?_, ?_⟩
    · intro call
      rw [calls]
      refine (sound.calls call).grown (ledger ▸ List.Subset.refl _) (drawn ▸ List.Subset.refl _)
        (announced ▸ List.Subset.refl _) fun account inserting => ?_
      rw [ledger]
      exact (sound.pending inserting).2.2
    · rw [calls]
      exact sound.apart
    · exact announced ▸ sound.announcedIds
    · rw [announced, calls]
      exact sound.announcedBy
  | moved call after keeps moves plain =>
    obtain ⟨rows, ledger, drawn, announced⟩ := keeps
    exact ⟨sound.toTableSound.kept rows ledger (drawn ▸ List.Subset.refl _),
      sound.toCallsSound.plain moves plain ledger announced drawn⟩
  | drew call account admitted fresh rows ledger announced drawn moves =>
    have grown : s.drawn ⊆ t.drawn := drawn ▸ List.subset_append_left _ _
    have unused : ∀ a ∈ s.ledger, a.model.id ≠ account.model.id :=
      fun a listed same => fresh (same ▸ sound.known a listed)
    refine ⟨sound.toTableSound.kept rows ledger grown, sound.toCallsSound.moved moves
      (ledger ▸ List.Subset.refl _) grown ?_ ?_ ?_ announced⟩
    · intro other pending _ inserting
      rw [ledger]
      exact (sound.pending inserting).2.2
    · refine ⟨admitted, drawn ▸ List.mem_append_right _ (List.mem_singleton_self _), ?_⟩
      rw [ledger]
      exact unused
    · intro id holds other _ held
      obtain rfl := Option.some.inj holds
      exact fresh (sound.drawn_of_holds held)
  | inserted call account after before accepted rows ledger announced drawn moves next =>
    exact insert_sound sound before accepted rows ledger announced drawn moves next
  | updated call id dto now after before rows ledger announced drawn moves plain =>
    have valid : dto.failures = [] := by
      have here := sound.calls call
      rw [before] at here
      exact here
    exact ⟨sound.toTableSound.update valid rows ledger drawn,
      sound.toCallsSound.plain moves plain ledger announced drawn⟩
  | deleted call id after rows ledger announced drawn moves plain =>
    exact ⟨sound.toTableSound.deleted rows ledger drawn,
      sound.toCallsSound.plain moves plain ledger announced drawn⟩
  | announced call id model before found rows ledger announced drawn moves =>
    exact announce_sound sound before found rows ledger announced drawn moves

theorem reachable_sound (reach : (machine lib cfg).Reachable s) : Sound lib s :=
  reach.invariant (I := Sound lib) (empty_sound lib)
    fun _ _ _ sound _ step => (step_effect step).sound sound

/-- Emails are the same up to their case, and a hash is its password behind a mark. -/
def sampleLibraries : Libraries (List Char) where
  collate := fun email => email.toList.map Char.toLower
  duplicateEntry := fun entry => "Duplicate entry '" ++ entry ++ "'"
  dataTooLong := fun column => "Data too long for column '" ++ column ++ "'"
  isEmail := fun email => email.toList.contains '@'
  display := fun failures => String.join (failures.map fun f => f.field ++ ": " ++ f.message)
  hashPassword := fun _ password => .ok ("$" ++ password)
  verifyPassword := fun password hash => "$" ++ password = hash
  jwt := oneToken ⟨Uuid.hyphenated 7, "ada@example.com", 86400⟩ "secret"
  toJson := fun user => .ok user.id.hyphenated
  fromJson := fun _ => .error "expected value"

def ada : CreateUserDto := ⟨"ada@example.com", "Ada", "difference"⟩

/-- Ada is created while her email is tried again in capitals. -/
def adaCreated : List AccountLabel :=
  [.create 0 ada "a" 7 0, .create 1 { ada with email := "ADA@example.com" } "b" 8 0,
    .advance 0 0, .advance 1 0, .advance 0 0]

def adaRenamed : List AccountLabel :=
  adaCreated ++ [.update 2 7 ⟨some "Ada L."⟩, .advance 2 1000000, .advance 2 1000000, .advance 2 0]

def sample (labels : List AccountLabel) : Accounts :=
  (machine sampleLibraries oneDay).follow (fun _ _ => true) labels

theorem adaCreated_run :
    (machine sampleLibraries oneDay).Run (fun _ _ => True) adaCreated (sample adaCreated) :=
  Machine.run_follow (fun _ _ _ => trivial) (by decide +kernel)

theorem adaRenamed_run :
    (machine sampleLibraries oneDay).Run (fun _ _ => True) adaRenamed (sample adaRenamed) :=
  Machine.run_follow (fun _ _ _ => trivial) (by decide +kernel)

/-- The rows as every handler may take them to be. -/
structure WellFormed (lib : Libraries κ) (rows : List Model) : Prop where
  ids : Keyed Model.id rows
  emails : Keyed (fun m : Model => lib.collate m.email) rows
  checked : ∀ m ∈ rows, lib.isEmail m.email = true ∧ goodName m.name = true ∧
    ∃ salt password, goodPassword password = true ∧
      lib.hashPassword salt password = .ok m.passwordHash

omit [DecidableEq κ] in
theorem TableSound.wellFormed (sound : TableSound lib s) : WellFormed lib s.rows where
  ids := sound.ids
  emails := sound.emails
  checked := by
    intro m listed
    obtain ⟨a, inserted, same⟩ := sound.rooted m listed
    obtain ⟨email, _, password, salt, hashed⟩ := sound.admitted a inserted
    exact ⟨same.email ▸ email, sound.names m listed, salt, a.password, password,
      same.passwordHash ▸ hashed⟩

/-- No two users have emails that the database takes for the same, and every row has
passed the checks, whatever calls interleave, fail or are dropped. -/
theorem rows_wellFormed (reach : (machine lib cfg).Reachable s) : WellFormed lib s.rows :=
  (reachable_sound reach).toTableSound.wellFormed

theorem rows_wellFormed_sample : WellFormed sampleLibraries (sample adaRenamed).rows ∧
    (sample adaRenamed).rows.map Model.name = ["Ada L."] :=
  ⟨rows_wellFormed ⟨_, adaRenamed_run⟩, by decide +kernel⟩

theorem Effect.ledger (effect : Effect lib s t) : s.ledger ⊆ t.ledger := by
  cases effect with
  | expired keeps | moved _ _ keeps => exact keeps.ledger ▸ List.Subset.refl _
  | inserted _ _ _ _ _ _ ledger => exact ledger ▸ List.subset_append_left _ _
  | drew _ _ _ _ _ ledger | updated _ _ _ _ _ _ _ ledger | deleted _ _ _ _ ledger
  | announced _ _ _ _ _ _ ledger => exact ledger ▸ List.Subset.refl _

/-- An account whose row is gone, so that no row of that id is left. -/
def Gone (s : Accounts) (id : Uuid) : Prop :=
  (∃ a ∈ s.ledger, a.model.id = id) ∧ ∀ m ∈ s.rows, m.id ≠ id

theorem Effect.gone (effect : Effect lib s t) (sound : Sound lib s) (gone : s.Gone id) :
    t.Gone id := by
  obtain ⟨⟨a, listed, own⟩, absent⟩ := gone
  refine ⟨⟨a, effect.ledger listed, own⟩, ?_⟩
  cases effect with
  | expired keeps | moved _ _ keeps =>
    rw [keeps.rows]
    exact absent
  | drew _ _ _ _ rows | announced _ _ _ _ _ rows =>
    rw [rows]
    exact absent
  | inserted call account _ before _ rows =>
    rw [rows]
    intro m present
    rcases List.mem_append.mp present with old | new
    · exact absent m old
    · obtain rfl := List.mem_singleton.mp new
      rw [← own]
      exact fun same => (sound.pending before).2.2 a listed same.symm
  | updated _ _ _ _ _ _ rows =>
    rw [rows]
    intro m present
    obtain ⟨before, old, rfl | ⟨_, rfl⟩⟩ := Table.mem_modify present
    · exact absent m old
    · exact absent before old
  | deleted _ _ _ rows =>
    rw [rows]
    exact fun m present => absent m (Table.mem_of_mem_delete present)

theorem sound_of_leads (sound : Sound lib s) (later : (machine lib cfg).Leads s t) :
    Sound lib t :=
  Machine.LeadsBy.invariant (p := fun _ => true) (I := Sound lib)
    (fun _ _ _ before _ step => (step_effect step).sound before) sound later

theorem ledger_of_leads (later : (machine lib cfg).Leads s t) : s.ledger ⊆ t.ledger :=
  Machine.LeadsBy.invariant (p := fun _ => true) (I := fun t => s.ledger ⊆ t.ledger)
    (fun _ _ _ before _ step => List.Subset.trans before (step_effect step).ledger)
    (List.Subset.refl _) later

theorem gone_of_leads (sound : Sound lib s) (gone : s.Gone id)
    (later : (machine lib cfg).Leads s t) : t.Gone id :=
  (Machine.LeadsBy.invariant (p := fun _ => true) (I := fun t => Sound lib t ∧ t.Gone id)
    (fun _ _ _ before _ step => ⟨(step_effect step).sound before.1,
      (step_effect step).gone before.1 before.2⟩) ⟨sound, gone⟩ later).2

/-- One id stands for one account: its rows agree on everything but the name and the time
of the update at any two times, and once it is gone it does not come back. -/
theorem identity_permanent (reach : (machine lib cfg).Reachable s)
    (later : (machine lib cfg).Leads s t) :
    (∀ m ∈ s.rows, ∀ m' ∈ t.rows, m.id = m'.id → m.SameAccount m') ∧
      ∀ u, (machine lib cfg).Leads t u → ∀ m ∈ s.rows, (∀ m' ∈ t.rows, m'.id ≠ m.id) →
        ∀ m' ∈ u.rows, m'.id ≠ m.id := by
  have sound := reachable_sound reach
  have sound' := sound_of_leads sound later
  have grown := ledger_of_leads later
  constructor
  · intro m listed m' listed' same
    obtain ⟨a, inserted, first⟩ := sound.rooted m listed
    obtain ⟨a', inserted', second⟩ := sound'.rooted m' listed'
    have one : a = a' := List.inj_on_of_nodup_map sound'.ledgerIds (grown inserted) inserted'
      (first.id.trans (same.trans second.id.symm))
    subst one
    exact ⟨same, first.email.symm.trans second.email,
      first.passwordHash.symm.trans second.passwordHash,
      first.createdAt.symm.trans second.createdAt⟩
  · intro u after m listed absent
    obtain ⟨a, inserted, same⟩ := sound.rooted m listed
    have gone : t.Gone m.id := ⟨⟨a, grown inserted, same.id⟩, absent⟩
    exact (gone_of_leads sound' gone after).2

/-- Ada is deleted. -/
def adaDeleted : List AccountLabel :=
  adaRenamed ++ [.delete 3 7, .advance 3 0, .advance 3 0, .advance 3 0]

/-- She is created again, with the same email and another id. -/
def adaAgain : List AccountLabel := adaDeleted ++ [.create 4 ada "c" 9 0, .advance 4 0]

theorem adaDeleted_run :
    (machine sampleLibraries oneDay).Run (fun _ _ => True) adaDeleted (sample adaDeleted) :=
  Machine.run_follow (fun _ _ _ => trivial) (by decide +kernel)

theorem adaAgain_run :
    (machine sampleLibraries oneDay).Run (fun _ _ => True) adaAgain (sample adaAgain) :=
  Machine.run_follow (fun _ _ _ => trivial) (by decide +kernel)

theorem identity_permanent_sample :
    (∀ m ∈ (sample adaCreated).rows, ∀ m' ∈ (sample adaRenamed).rows, m.id = m'.id →
      m.SameAccount m') ∧
      (∀ m ∈ (sample adaRenamed).rows, ∀ m' ∈ (sample adaAgain).rows, m'.id ≠ m.id) ∧
      [adaRenamed, adaDeleted, adaAgain].map (fun labels =>
        (sample labels).rows.map fun m => (m.id, m.email)) =
          [[(7, "ada@example.com")], [], [(9, "ada@example.com")]] := by
  have renamed : (machine sampleLibraries oneDay).Reachable (sample adaRenamed) :=
    ⟨_, adaRenamed_run⟩
  have absent : (sample adaDeleted).rows = [] := by decide +kernel
  refine ⟨(identity_permanent ⟨_, adaCreated_run⟩ (adaCreated_run.leads adaRenamed_run)).1,
    fun m listed => ?_, by decide +kernel⟩
  refine (identity_permanent renamed (adaRenamed_run.leads adaDeleted_run)).2 _
    (adaDeleted_run.leads adaAgain_run) m listed ?_
  rw [absent]
  exact fun _ none => absurd none List.not_mem_nil

/-- The announcements and the creations that succeeded, one for the other. -/
structure AnnouncedOnce (lib : Libraries κ) (s : Accounts) : Prop where
  ids : Keyed UserResponse.id s.announced
  created : ∀ r ∈ s.announced, ∃! call, s.calls call = .created (.ok r)
  announced : ∀ call r, s.calls call = .created (.ok r) → r ∈ s.announced
  shown : ∀ r ∈ s.announced, ∃ a ∈ s.ledger, a.Admitted lib ∧ a.model.Shown r

/-- Every creation that succeeded is announced once, and nothing else is. -/
theorem announced_once (reach : (machine lib cfg).Reachable s) : AnnouncedOnce lib s := by
  have sound := reachable_sound reach
  have outcome : ∀ call r, s.calls call = .created (.ok r) →
      r ∈ s.announced ∧ ∃ a ∈ s.ledger, a.model.Shown r := by
    intro call r created
    have here := sound.calls call
    rw [created] at here
    exact here
  refine ⟨sound.announcedIds, fun r listed => ?_, fun call r created => (outcome call r created).1,
    fun r listed => ?_⟩
  · obtain ⟨call, created⟩ := sound.announcedBy r listed
    refine ⟨call, created, fun other again => ?_⟩
    exact sound.apart other call r.id (by rw [again]; rfl) (by rw [created]; rfl)
  · obtain ⟨call, created⟩ := sound.announcedBy r listed
    obtain ⟨_, a, inserted, shown⟩ := outcome call r created
    exact ⟨a, inserted, sound.admitted a inserted, shown⟩

theorem announced_once_sample : AnnouncedOnce sampleLibraries (sample adaRenamed) ∧
    (sample adaRenamed).announced.map UserResponse.name = ["Ada"] :=
  ⟨announced_once ⟨_, adaRenamed_run⟩, by decide +kernel⟩

end Insertion

end Accounts
end ApiBoilerplate.Users
