import ApiBoilerplate.Queue.Guarantees

/-!
# One call of `dequeue`

The call step by step, with all that can go wrong on either side of the commit.
Before the commit an error leaves the table as it was. After it the row stays
marked running whatever happens to the envelope.
-/

namespace ApiBoilerplate

open Foundation

/-- How the awaited steps of one call answer, and which columns of the row can be
read. Of the rows that no other transaction holds, the database picks one. -/
structure DequeueCall where
  begin_ : Except String Unit
  now : DateTime
  locked : Finset String
  select : Except String Unit
  pick : Option String
  rollback : Except String Unit
  column : String → Except String Unit
  execute : Except String Unit
  commit : Reply
  commitError : String

namespace DatabaseBackend
variable {Value : Type}

/-- The row `SELECT … FOR UPDATE SKIP LOCKED` locks while others hold some rows. -/
def selectUnlocked (jobs : JobTable) (locked : Finset String) (now : DateTime) (id : String) :
    Option JobRow :=
  (jobs.lookup id).filter (fun row => decide (id ∉ locked ∧ Selectable now row ∧
    ∀ k ∈ jobs.keys \ locked, ∀ other ∈ jobs.lookup k, Selectable now other →
      row.runAt ≤ other.runAt))

/-- The query finds no row. -/
def NoneDue (jobs : JobTable) (locked : Finset String) (now : DateTime) : Prop :=
  ∀ k ∈ jobs.keys \ locked, ∀ row ∈ jobs.lookup k, ¬ Selectable now row

instance (jobs : JobTable) (locked : Finset String) (now : DateTime) :
    Decidable (NoneDue jobs locked now) :=
  inferInstanceAs (Decidable (∀ k ∈ jobs.keys \ locked, ∀ row ∈ jobs.lookup k, _))

end DatabaseBackend

namespace DequeueCall
variable {Value : Type} (call : DequeueCall)

open DatabaseBackend

/-- What the query returns; `none` when the database would not pick so. -/
def fetchOptional (jobs : JobTable) : Option (Option (String × JobRow)) :=
  match call.pick with
  | none => if NoneDue jobs call.locked call.now then some none else none
  | some id => (selectUnlocked jobs call.locked call.now id).map (fun row => some (id, row))

def tryGet (name : String) : Except QueueError Unit := (call.column name).mapError .database

/-- The call up to its commit; without a row it ends here. -/
def transaction (found : Option (String × JobRow)) :
    Except QueueError (Option (String × JobRow)) := do
  call.begin_.mapError .database
  call.select.mapError .database
  match found with
  | none =>
    call.rollback.mapError .database
    return none
  | some (id, row) =>
    call.tryGet "id"
    call.tryGet "attempts"
    call.tryGet "max_attempts"
    call.execute.mapError .database
    return some (id, row)

/-- The call from its commit on. -/
def envelope (codec : Codec Value) (id : String) (row : JobRow) :
    Except QueueError (JobEnvelope Value) := do
  call.tryGet "job_type"
  call.tryGet "payload"
  call.tryGet "error"
  call.tryGet "run_at"
  call.tryGet "created_at"
  decode codec id row

/-- What the call returns, and the table it leaves. -/
def dequeue (codec : Codec Value) (jobs : JobTable) :
    Option (Except QueueError (Option (JobEnvelope Value)) × JobTable) :=
  (call.fetchOptional jobs).map fun found =>
    match call.transaction found with
    | .error e => (.error e, jobs)
    | .ok none => (.ok none, jobs)
    | .ok (some (id, row)) =>
      (match call.commit with
        | .ok => (call.envelope codec id row).map some
        | _ => .error (.database call.commitError),
        call.commit.applied jobs (update jobs id markRunning))

theorem selectUnlocked_empty (jobs : JobTable) (now : DateTime) (id : String) :
    selectUnlocked jobs ∅ now id = selectRow jobs now id := by
  simp [selectUnlocked, selectRow, First]

/-- Every step before the commit goes well. -/
structure ReachesCommit : Prop where
  begun : call.begin_ = .ok ()
  selected : call.select = .ok ()
  columns : ∀ name ∈ ["id", "attempts", "max_attempts"], call.column name = .ok ()
  executed : call.execute = .ok ()

/-- Nothing goes wrong with the row once the commit has taken effect. -/
structure HandsOver (codec : Codec Value) (id : String) (row : JobRow) : Prop where
  replied : call.commit = .ok
  columns : ∀ name ∈ ["job_type", "payload", "error", "run_at", "created_at"],
    call.column name = .ok ()
  payload : ∃ value, codec.fromText row.payload = .ok value
  uuid : ∃ uuid, codec.parseStr id = .ok uuid
  counter : row.attempts.toInt + 1 < 2 ^ 31

section Sides
variable {call} {codec : Codec Value} {jobs : JobTable} {id : String} {row : JobRow}

/-- A step goes well and the rest of the call does. -/
theorem mapError_bind_eq_ok {α : Type} {x : Except String Unit} {f : String → QueueError}
    {k : Unit → Except QueueError α} {a : α} :
    (x.mapError f >>= k) = .ok a ↔ x = .ok () ∧ k () = .ok a := by
  cases x with
  | error e => exact iff_of_false nofun (fun both => by cases both.1)
  | ok => exact ⟨fun rest => ⟨rfl, rest⟩, fun both => both.2⟩

theorem transaction_none_eq_ok {found : Option (String × JobRow)}
    (ended : call.transaction none = .ok found) : found = none := by
  simp only [transaction, mapError_bind_eq_ok] at ended
  exact (Except.ok.inj ended.2.2.2).symm

/-- The call comes to its commit exactly if no step before it fails. -/
theorem transaction_eq_ok {found : Option (String × JobRow)} :
    call.transaction (some (id, row)) = .ok found ↔
      call.ReachesCommit ∧ found = some (id, row) := by
  simp only [transaction, tryGet, mapError_bind_eq_ok]
  constructor
  · rintro ⟨begun, selected, col, col', col'', executed, last⟩
    exact ⟨⟨begun, selected, by simp [col, col', col''], executed⟩, (Except.ok.inj last).symm⟩
  · rintro ⟨⟨begun, selected, columns, executed⟩, rfl⟩
    exact ⟨begun, selected, columns _ (by simp), columns _ (by simp), columns _ (by simp),
      executed, rfl⟩

theorem envelope_eq_ok {e : JobEnvelope Value} : call.envelope codec id row = .ok e ↔
    (∀ name ∈ ["job_type", "payload", "error", "run_at", "created_at"],
      call.column name = .ok ()) ∧ decode codec id row = .ok e := by
  simp only [envelope, tryGet, mapError_bind_eq_ok]
  simp [and_assoc]

/-- With nothing locked and every column read, the call is the step that workers
make on the table. -/
theorem dequeue_eq_step (unlocked : call.locked = ∅) (pick : call.pick = some id)
    (reaches : call.ReachesCommit) (columns : ∀ name, call.column name = .ok ()) :
    call.dequeue codec jobs =
      (DatabaseBackend.dequeue codec jobs call.now id).map (fun r =>
        (match call.commit with
          | .ok => r.2.map some
          | _ => .error (.database call.commitError),
          call.commit.applied jobs r.1)) := by
  have read : ∀ row, call.envelope codec id row = decode codec id row := by
    intro row
    simp only [envelope, tryGet, columns]
    rfl
  simp only [dequeue, fetchOptional, pick, unlocked, selectUnlocked_empty,
    DatabaseBackend.dequeue, Option.map_map]
  congr 1
  funext row
  simp only [Function.comp_apply, transaction_eq_ok.mpr ⟨reaches, rfl⟩, read]

end Sides

/-- No row has changed its status or its counter. -/
def SameAccounts (jobs jobs' : JobTable) : Prop :=
  ∀ id, (jobs'.lookup id).map (fun row => (row.status, row.attempts.toInt)) =
    (jobs.lookup id).map (fun row => (row.status, row.attempts.toInt))

/-- Exactly the row `id` has become running, with one attempt more. -/
def Claimed (jobs : JobTable) (id : String) (jobs' : JobTable) : Prop :=
  (∃ row, jobs.lookup id = some row ∧
    (jobs'.lookup id).map (fun row => (row.status, row.attempts.toInt)) =
      some (.running, row.attempts.toInt + 1)) ∧
  ∀ k, k ≠ id → jobs'.lookup k = jobs.lookup k

/-- An error or an empty answer leaves every account as it was, and a job that is
returned is the only one claimed. -/
def Atomic (codec : Codec Value) (jobs : JobTable) :
    Except QueueError (Option (JobEnvelope Value)) → JobTable → Prop
  | .error _, jobs' => SameAccounts jobs jobs'
  | .ok none, jobs' => SameAccounts jobs jobs'
  | .ok (some e), jobs' => ∃ id, codec.parseStr id = .ok e.id ∧ Claimed jobs id jobs'

section Atomicity
variable {call} {codec : Codec Value} {jobs : JobTable} {id : String} {row : JobRow}

theorem selectUnlocked_found {locked : Finset String} {now : DateTime}
    (selected : selectUnlocked jobs locked now id = some row) :
    jobs.lookup id = some row ∧ (row.status = .pending ∨ row.status = .retrying) := by
  obtain ⟨found, chosen⟩ := Option.filter_eq_some_iff.mp selected
  exact ⟨found, (of_decide_eq_true chosen).2.1.1⟩

theorem lookup_marked (found : jobs.lookup id = some row) (k : String) :
    (update jobs id markRunning).lookup k =
      if k = id then some (markRunning row) else jobs.lookup k := by
  rw [lookup_update, found, Option.map_some]

/-- Marking a waiting row changes its account. -/
theorem not_sameAccounts (found : jobs.lookup id = some row)
    (waiting : row.status = .pending ∨ row.status = .retrying) :
    ¬ SameAccounts jobs (update jobs id markRunning) := by
  intro same
  have status := same id
  rw [lookup_marked found, if_pos rfl, found] at status
  simp only [Option.map_some, Option.some.injEq, Prod.mk.injEq, markRunning] at status
  rw [← status.1] at waiting
  simp at waiting

/-- The counter of an `INT` column has a successor below `2 ^ 31` only. -/
theorem toInt_succ_iff (a : Int32) : (a + 1).toInt = a.toInt + 1 ↔ a.toInt + 1 < 2 ^ 31 := by
  have low := a.le_toInt
  have high := a.toInt_lt
  have one : (1 : Int32).toInt = 1 := by decide
  rw [Int32.toInt_add, one, Int.bmod_def]
  split <;> omega

theorem claimed_marked (found : jobs.lookup id = some row)
    (counter : row.attempts.toInt + 1 < 2 ^ 31) :
    Claimed jobs id (update jobs id markRunning) := by
  refine ⟨⟨row, found, ?_⟩, fun k other => ?_⟩
  · rw [lookup_marked found, if_pos rfl, Option.map_some, ← (toInt_succ_iff _).mpr counter]
    rfl
  · rw [lookup_marked found, if_neg other]

theorem counter_of_claimed (found : jobs.lookup id = some row)
    (waiting : row.status = .pending ∨ row.status = .retrying) {k : String}
    (claimed : Claimed jobs k (update jobs id markRunning)) :
    row.attempts.toInt + 1 < 2 ^ 31 := by
  obtain ⟨⟨row', found', after⟩, others⟩ := claimed
  by_cases same : id = k
  · subst same
    obtain rfl : row = row' := Option.some.inj (found.symm.trans found')
    rw [lookup_marked found, if_pos rfl, Option.map_some] at after
    exact (toInt_succ_iff _).mp (Prod.mk.inj (Option.some.inj after)).2
  · have kept := others id same
    rw [lookup_marked found, if_pos rfl, found] at kept
    rw [← Option.some.inj kept] at waiting
    simp [markRunning] at waiting

theorem dequeue_picked {result : Except QueueError (Option (JobEnvelope Value))}
    {jobs' : JobTable} (pick : call.pick = some id)
    (called : call.dequeue codec jobs = some (result, jobs')) :
    ∃ row, selectUnlocked jobs call.locked call.now id = some row ∧
      (¬ call.ReachesCommit ∧ (∃ e, result = .error e) ∧ jobs' = jobs ∨
        call.ReachesCommit ∧
          result = (match call.commit with
            | .ok => (call.envelope codec id row).map some
            | _ => .error (.database call.commitError)) ∧
          jobs' = call.commit.applied jobs (update jobs id markRunning)) := by
  obtain ⟨fetched, picked, ends⟩ := Option.map_eq_some_iff.mp called
  simp only [fetchOptional, pick] at picked
  obtain ⟨row, selected, rfl⟩ := Option.map_eq_some_iff.mp picked
  refine ⟨row, selected, ?_⟩
  cases transacted : call.transaction (some (id, row)) with
  | error e =>
    simp only [transacted, Prod.mk.injEq] at ends
    refine Or.inl ⟨fun reaches => ?_, ⟨e, ends.1.symm⟩, ends.2.symm⟩
    rw [transaction_eq_ok.mpr ⟨reaches, rfl⟩] at transacted
    cases transacted
  | ok found =>
    obtain ⟨reaches, rfl⟩ := transaction_eq_ok.mp transacted
    simp only [transacted, Prod.mk.injEq] at ends
    exact Or.inr ⟨reaches, ends.1.symm, ends.2.symm⟩

end Atomicity

/-- A call is atomic exactly if nothing goes wrong with the row it has picked once
the commit of it has taken effect. -/
theorem dequeue_atomic_iff {call : DequeueCall} {codec : Codec Value} {jobs jobs' : JobTable}
    {result : Except QueueError (Option (JobEnvelope Value))}
    (called : call.dequeue codec jobs = some (result, jobs')) :
    Atomic codec jobs result jobs' ↔
      ∀ id row, call.pick = some id → jobs.lookup id = some row → call.ReachesCommit →
        call.commit ≠ .errorBefore → call.HandsOver codec id row := by
  cases pick : call.pick with
  | none =>
    refine iff_of_true ?_ nofun
    obtain ⟨fetched, picked, ends⟩ := Option.map_eq_some_iff.mp called
    obtain rfl : fetched = none := by
      simp only [fetchOptional, pick] at picked
      split at picked
      · exact (Option.some.inj picked).symm
      · cases picked
    cases transacted : call.transaction none with
    | error e =>
      simp only [transacted, Prod.mk.injEq] at ends
      rw [← ends.1, ← ends.2]
      exact fun _ => rfl
    | ok found =>
      obtain rfl := transaction_none_eq_ok transacted
      simp only [transacted, Prod.mk.injEq] at ends
      rw [← ends.1, ← ends.2]
      exact fun _ => rfl
  | some id =>
    obtain ⟨row, selected, ends⟩ := dequeue_picked pick called
    obtain ⟨found, waiting⟩ := selectUnlocked_found selected
    have condition : (∀ id' row', some id = some id' → jobs.lookup id' = some row' →
          call.ReachesCommit → call.commit ≠ .errorBefore → call.HandsOver codec id' row') ↔
        (call.ReachesCommit → call.commit ≠ .errorBefore → call.HandsOver codec id row) := by
      refine ⟨fun all => all id row rfl found, fun one id' row' same found' => ?_⟩
      obtain rfl := Option.some.inj same
      obtain rfl : row = row' := Option.some.inj (found.symm.trans found')
      exact one
    rw [condition]
    rcases ends with ⟨early, ⟨e, rfl⟩, rfl⟩ | ⟨reaches, rfl, rfl⟩
    · exact iff_of_true (fun _ => rfl) fun reaches => absurd reaches early
    · cases replied : call.commit with
      | errorBefore => exact iff_of_true (fun _ => rfl) fun _ other => absurd rfl other
      | errorAfter =>
        refine iff_of_false (not_sameAccounts found waiting) fun hands => ?_
        have replied' := (hands reaches (by simp)).replied
        rw [replied] at replied'
        cases replied'
      | ok =>
        cases built : call.envelope codec id row with
        | error e =>
          refine iff_of_false (not_sameAccounts found waiting) fun hands => ?_
          obtain ⟨_, columns, payload, uuid, _⟩ := hands reaches (by simp)
          obtain ⟨e', decoded⟩ := decode_ok_iff.mpr ⟨payload, uuid⟩
          rw [envelope_eq_ok.mpr ⟨columns, decoded⟩] at built
          cases built
        | ok e =>
          obtain ⟨columns, decoded⟩ := envelope_eq_ok.mp built
          obtain ⟨payload, uuid⟩ := decode_ok_iff.mp ⟨e, decoded⟩
          constructor
          · rintro ⟨k, _, claimed⟩ _ _
            exact ⟨replied, columns, payload, uuid, counter_of_claimed found waiting claimed⟩
          · intro hands
            exact ⟨id, decode_id decoded, claimed_marked found (hands reaches (by simp)).counter⟩

section Examples

/-- A call on which nothing fails. -/
def undisturbed (id : Uuid) : DequeueCall where
  begin_ := .ok ()
  now := 0
  locked := ∅
  select := .ok ()
  pick := some id.hyphenated
  rollback := .ok ()
  column := fun _ => .ok ()
  execute := .ok ()
  commit := .ok
  commitError := ""

theorem undisturbed_reaches (id : Uuid) : (undisturbed id).ReachesCommit :=
  ⟨rfl, rfl, fun _ _ => rfl, rfl⟩

/-- The table after one job was enqueued. -/
def oneJob {Value : Type} (codec : Codec Value) (order : JobOrder Value) : JobTable :=
  (enqueue codec ∅ order.envelope).getD ∅

theorem lookup_oneJob {codec : Codec Value} {order : JobOrder Value} {text : String}
    (written : codec.toText order.payload = .ok text)
    (small : order.maxAttempts.toNat < 2 ^ 31) (short : order.jobType.length ≤ 255) :
    ∃ row, (oneJob codec order).lookup order.id.hyphenated = some row ∧
      row.status = .pending ∧ row.payload = text ∧ row.attempts.toInt = 0 := by
  have accepted : (enqueue codec ∅ order.envelope).isSome = true :=
    enqueue_isSome_iff.mpr ⟨⟨text, written⟩, Finmap.notMem_empty, small, short⟩
  obtain ⟨jobs, taken⟩ := Option.isSome_iff_exists.mp accepted
  obtain ⟨_, row, rfl, payload, _, _, status, attempts, _⟩ := enqueue_some taken
  rw [oneJob, taken, Option.getD_some]
  rw [written] at payload
  exact ⟨row, Finmap.lookup_insert _, status, (Except.ok.inj payload).symm, by rw [attempts]; rfl⟩

theorem dequeue_atomic_iff_heartbeat :
    ∃ result jobs', (undisturbed 1).dequeue strokes (oneJob strokes (heartbeat 1 3)) =
        some (result, jobs') ∧
      Atomic strokes (oneJob strokes (heartbeat 1 3)) result jobs' := by
  have answers : ((undisturbed 1).dequeue strokes (oneJob strokes (heartbeat 1 3))).isSome = true :=
    by decide
  obtain ⟨row', entered, _, _, unused⟩ :=
    @lookup_oneJob Nat strokes (heartbeat 1 3) _ rfl (by decide) (by decide)
  obtain ⟨⟨result, jobs'⟩, called⟩ := Option.isSome_iff_exists.mp answers
  refine ⟨result, jobs', called, (dequeue_atomic_iff called).mpr ?_⟩
  intro id row pick found _ _
  obtain rfl : Uuid.hyphenated 1 = id := Option.some.inj pick
  refine ⟨rfl, fun _ _ => rfl, ⟨_, rfl⟩, ⟨1, strokes_parse 1⟩, ?_⟩
  obtain rfl : row = row' := Option.some.inj (found.symm.trans entered)
  rw [unused]
  decide

/-- Arrays nested so many levels deep in an object. -/
def nestedText (n : Nat) : String :=
  "\x7b\"type\":\"report\",\"tree\":" ++ String.ofList (List.replicate n '[') ++
    String.ofList (List.replicate n ']') ++ "\x7d"

/-- The reader of nested payloads gives up at the 128th level. -/
def nested : Codec Nat where
  toText n := .ok (nestedText n)
  fromText text :=
    let depth := (text.toList.filter (fun c => c = '[')).length
    if depth + 1 < 128 then .ok depth else .error "recursion limit exceeded"
  parseStr := strokes.parseStr

theorem opened_length {before after : String} (n : Nat)
    (first : before.toList.filter (fun c => c = '[') = [])
    (last : after.toList.filter (fun c => c = '[') = []) :
    ((before ++ String.ofList (List.replicate n '[') ++ String.ofList (List.replicate n ']') ++
      after).toList.filter (fun c => c = '[')).length = n := by
  simp only [String.toList_append, String.toList_ofList, List.filter_append, first, last,
    List.filter_replicate]
  simp

theorem nested_fromText (n : Nat) : nested.fromText (nestedText n) =
    if n + 1 < 128 then .ok n else .error "recursion limit exceeded" := by
  have depth : ((nestedText n).toList.filter (fun c => c = '[')).length = n :=
    opened_length n (by decide) (by decide)
  simp only [nested, depth]

def deepReport : JobOrder Nat := ⟨1, 0, "report", 127, 3, none⟩

theorem undecodable_marked_running :
    ¬ ∀ (call : DequeueCall) (jobs jobs' : JobTable)
      (result : Except QueueError (Option (JobEnvelope Nat))),
      call.dequeue nested jobs = some (result, jobs') → Atomic nested jobs result jobs' := by
  intro claim
  obtain ⟨row, found, pending, payload, _⟩ :=
    @lookup_oneJob Nat nested deepReport _ rfl (by decide) (by decide)
  have waits : (selectRow (oneJob nested deepReport) 0 (Uuid.hyphenated 1)).isSome = true := by
    decide
  obtain ⟨row', selected⟩ := Option.isSome_iff_exists.mp waits
  obtain rfl : row = row' :=
    Option.some.inj (found.symm.trans (Option.filter_eq_some_iff.mp selected).1)
  have undecoded : decode nested (Uuid.hyphenated 1) row =
      .error (.serialization "recursion limit exceeded") := by
    simp only [decode, payload, deepReport, nested_fromText]
    rfl
  have picked : DatabaseBackend.dequeue nested (oneJob nested deepReport) (undisturbed 1).now
      (Uuid.hyphenated 1) = some (update (oneJob nested deepReport) (Uuid.hyphenated 1)
        markRunning, .error (.serialization "recursion limit exceeded")) := by
    rw [DatabaseBackend.dequeue, show selectRow (oneJob nested deepReport) (undisturbed 1).now
      (Uuid.hyphenated 1) = some row from selected, Option.map_some, undecoded]
  have called := @dequeue_eq_step Nat (undisturbed 1) nested (oneJob nested deepReport) _ rfl rfl
    (undisturbed_reaches 1) (fun _ => rfl)
  rw [picked, Option.map_some] at called
  exact not_sameAccounts found (Or.inl pending) (claim _ _ _ _ called)

end Examples

end DequeueCall

end ApiBoilerplate
