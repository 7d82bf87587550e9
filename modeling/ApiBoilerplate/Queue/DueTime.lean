import ApiBoilerplate.Queue.Guarantees

/-!
# Start times

The trait promises the next due job, so a job dispatched for later must not be
returned before. The table is asked for rows that are due, and nobody moves the
start time of a row before its first attempt; the column keeps that time in whole
milliseconds and `NOW()` has whole seconds, so a job that starts less than half a
millisecond after a second may be returned on it. The channel hands out whatever
is at its front.
-/

namespace ApiBoilerplate

open Foundation Lifecycle

/-- What a step of a backend accepts, and the job it returns with the reading of
the clock that the call of `dequeue` goes by. -/
structure Traffic (σ ℓ Value : Type) where
  accepts : σ → ℓ → Option (JobOrder Value)
  returns : σ → ℓ → Option (Uuid × DateTime)

namespace Traffic
variable {σ ℓ Value : Type} (traffic : Traffic σ ℓ Value)

/-- Orders are kept until their job is returned for the first time. -/
def record (s : σ) (l : ℓ) (orders : List (JobOrder Value)) : List (JobOrder Value) :=
  match traffic.returns s l with
  | some (id, _) => orders.filter (fun order => order.id ≠ id)
  | none => (traffic.accepts s l).toList ++ orders

variable {traffic} in
theorem mem_record {s : σ} {l : ℓ} {order : JobOrder Value} {orders : List (JobOrder Value)}
    (listed : order ∈ traffic.record s l orders) :
    (order ∈ orders ∧ ∀ id now, traffic.returns s l = some (id, now) → id ≠ order.id) ∨
      traffic.accepts s l = some order := by
  rw [record] at listed
  split at listed
  · rename_i id now returned
    obtain ⟨before, other⟩ := List.mem_filter.mp listed
    refine Or.inl ⟨before, fun id' now' returned' same => ?_⟩
    rw [returned] at returned'
    cases returned'
    exact of_decide_eq_true other same.symm
  · rename_i none
    rcases List.mem_append.mp listed with accepted | before
    · exact Or.inr (Option.mem_toList.mp accepted)
    · refine Or.inl ⟨before, fun id now returned => ?_⟩
      rw [none] at returned
      cases returned

/-- The machine with the orders accepted so far whose job was never returned. -/
def ordered (M : Machine σ ℓ) : Machine (σ × List (JobOrder Value)) ℓ :=
  M.recording [] traffic.record

/-- The step returns no job for its first attempt before its time. -/
def Punctual (p : σ × List (JobOrder Value)) (l : ℓ) : Prop :=
  ∀ id now, traffic.returns p.1 l = some (id, now) →
    ∀ order ∈ p.2, order.id = id → ∀ at_, order.startAt = some at_ → at_ ≤ now

/-- No run returns a job for its first attempt before its time. -/
def NeverEarly (M : Machine σ ℓ) : Prop :=
  ∀ p, (traffic.ordered M).Reachable p → ∀ l q, (traffic.ordered M).step p l = some q →
    traffic.Punctual p l

end Traffic

theorem JobOrder.envelope_runAt {Value : Type} {order : JobOrder Value} {at_ : DateTime}
    (later : order.startAt = some at_) : order.envelope.runAt = at_ := by
  simp only [JobOrder.envelope, later]

namespace DatabaseQueue
variable {Value : Type}

/-- A call that succeeds returns a job; the clock that it goes by is `NOW()`. -/
def traffic (codec : Codec Value) : Traffic (DatabaseQueue Value) (Label Value) Value where
  accepts s l :=
    match l with
    | .enqueue order =>
      if (DatabaseBackend.enqueue codec s.jobs order.envelope).isSome then some order else none
    | _ => none
  returns s l :=
    match l with
    | .dequeue _ id now .ok =>
      match DatabaseBackend.dequeue codec s.jobs now id with
      | some (_, .ok envelope) => some (envelope.id, DateTime.sqlNow now)
      | _ => none
    | _ => none

/-- The row of an order that waits still has the start time of the order, and no
task has its job. -/
structure Untouched (s : DatabaseQueue Value) (order : JobOrder Value) : Prop where
  row : ∃ row, s.jobs.lookup order.id.hyphenated = some row ∧
    row.runAt = DateTime.stored order.envelope.runAt
  taskless : ∀ task job, s.tasks task = some job → job.envelope.id ≠ order.id

section Waiting
variable {codec : Codec Value} {worker : WorkerConfig} {s s' : DatabaseQueue Value}
  {L : Ledger Unit TaskId} {order : JobOrder Value} {l : Label Value}

/-- An update that keeps start times, of any row. -/
theorem Untouched.update_row (untouched : Untouched s order) {id : String}
    {set : JobRow → JobRow} (kept : ∀ row, (set row).runAt = row.runAt) :
    ∃ row, (DatabaseBackend.update s.jobs id set).lookup order.id.hyphenated = some row ∧
      row.runAt = DateTime.stored order.envelope.runAt := by
  obtain ⟨row, found, start⟩ := untouched.row
  rw [DatabaseBackend.lookup_update]
  split
  · rename_i same
    rw [← same, found]
    exact ⟨set row, rfl, (kept row).trans start⟩
  · exact ⟨row, found, start⟩

/-- An update of the row of another job. -/
theorem Untouched.update_other (untouched : Untouched s order) {i : Uuid} (other : i ≠ order.id)
    {set : JobRow → JobRow} :
    ∃ row, (DatabaseBackend.update s.jobs i.hyphenated set).lookup order.id.hyphenated =
      some row ∧ row.runAt = DateTime.stored order.envelope.runAt := by
  rw [DatabaseBackend.lookup_update,
    if_neg (fun same => other (Uuid.hyphenated_injective same).symm)]
  exact untouched.row

theorem enqueue_untouched (untouched : Untouched s order) (new : JobOrder Value) :
    Untouched { s with jobs := (DatabaseBackend.enqueue codec s.jobs new.envelope).getD s.jobs }
      order := by
  refine ⟨?_, untouched.taskless⟩
  obtain ⟨row, found, start⟩ := untouched.row
  cases accepted : DatabaseBackend.enqueue codec s.jobs new.envelope with
  | none => exact ⟨row, found, start⟩
  | some jobs =>
    obtain ⟨fresh, _, others⟩ := DatabaseBackend.enqueue_lookup accepted
    refine ⟨row, (others _ fun same => ?_).trans found, start⟩
    rw [same, fresh] at found
    cases found

/-- An order that the table has just taken waits there. -/
theorem accepted_untouched (tracks : Tracks s L)
    (accepted : (DatabaseBackend.enqueue codec s.jobs order.envelope).isSome = true) :
    Untouched { s with jobs := (DatabaseBackend.enqueue codec s.jobs order.envelope).getD s.jobs }
      order := by
  obtain ⟨jobs, same⟩ := Option.isSome_iff_exists.mp accepted
  obtain ⟨fresh, entered, _⟩ := DatabaseBackend.enqueue_lookup same
  refine ⟨by rw [same]; exact entered, fun task job live id => ?_⟩
  obtain ⟨_, _, account, _⟩ := tracks.task task job live
  rw [id, tracks.absent order.id fresh] at account
  cases account

/-- A step leaves the order alone, unless it returns its job. -/
theorem step_untouched (untouched : Untouched s order)
    (hs : step codec worker s l = some s')
    (other : ∀ id now, (traffic codec).returns s l = some (id, now) → id ≠ order.id) :
    Untouched s' order := by
  have dropped : ∀ task, ∀ t job, drop s.tasks task t = some job → job.envelope.id ≠ order.id :=
    fun task t job live => untouched.taskless t job (of_drop live).2
  cases step_moves hs with
  | enqueued new => exact enqueue_untouched untouched new
  | @returned task id now row envelope idle selected decoded =>
    refine ⟨untouched.update_row fun _ => rfl, fun t job live => ?_⟩
    dsimp only at live
    rw [Function.update_apply] at live
    split at live
    · obtain rfl := Option.some.inj live
      refine other envelope.id (DateTime.sqlNow now) ?_
      simp only [traffic, DatabaseBackend.dequeue, selected, Option.map_some, decoded]
    · exact untouched.taskless t job live
  | misread => exact ⟨untouched.update_row fun _ => rfl, untouched.taskless⟩
  | rolledBack => exact untouched
  | @handled task envelope live result outcome decided =>
    refine ⟨untouched.row, fun t job live' => ?_⟩
    dsimp only at live'
    rw [Function.update_apply] at live'
    split at live'
    · obtain rfl := Option.some.inj live'
      have kept := untouched.taskless task _ live
      exact kept
    · exact untouched.taskless t job live'
  | @acknowledged task envelope live reply =>
    refine ⟨?_, dropped task⟩
    cases reply with
    | errorBefore => exact untouched.row
    | ok | errorAfter => exact untouched.update_row fun _ => rfl
  | @failed task envelope e live now sqlNow reply =>
    refine ⟨?_, dropped task⟩
    have apart : envelope.id ≠ order.id := untouched.taskless task _ live
    have moved : ∃ row, (DatabaseBackend.fail s.jobs envelope.id e.text
        (Worker.retryAt worker.retryDelaySeconds envelope.attempts envelope.maxAttempts now)
        sqlNow).lookup order.id.hyphenated = some row ∧
        row.runAt = DateTime.stored order.envelope.runAt := by
      simp only [DatabaseBackend.fail]
      split
      · exact untouched.update_other apart
      · exact untouched.update_other apart
    cases reply with
    | errorBefore => exact untouched.row
    | ok | errorAfter => exact moved
  | vanished => exact ⟨untouched.row, dropped _⟩
  | crashed process =>
    refine ⟨untouched.row, fun t job live => ?_⟩
    dsimp only at live
    split at live
    · cases live
    · exact untouched.taskless t job live

end Waiting

section Runs
variable {codec : Codec Value} {worker : WorkerConfig}
  {p : DatabaseQueue Value × List (JobOrder Value)}

theorem ordered_untouched (parse_hyphenated : ∀ u : Uuid, codec.parseStr u.hyphenated = .ok u)
    (reach : ((traffic codec).ordered (machine codec worker)).Reachable p) :
    (machine codec worker).Reachable p.1 ∧ ∀ order ∈ p.2, Untouched p.1 order := by
  refine reach.recording (I := fun s orders => ∀ order ∈ orders, Untouched s order)
    (by simp) ?_
  intro s orders l s' before untouched _ stepped order listed
  rcases Traffic.mem_record listed with ⟨waiting, other⟩ | accepted
  · exact step_untouched (untouched order waiting) stepped other
  · obtain ⟨L, tracks, _⟩ := (tracking codec worker parse_hyphenated).reachable before
    cases l with
    | enqueue new =>
      simp only [traffic] at accepted
      split at accepted
      · rename_i taken
        obtain rfl := Option.some.inj accepted
        obtain rfl := Option.some.inj stepped
        exact accepted_untouched tracks taken
      · cases accepted
    | _ => cases accepted

/-- A job is returned off the row that was selected and could be read. -/
theorem returns_iff {s : DatabaseQueue Value} {task : TaskId} {key : String} {now : DateTime}
    {id : Uuid} {at_ : DateTime} :
    (traffic codec).returns s (.dequeue task key now .ok) = some (id, at_) ↔
      at_ = DateTime.sqlNow now ∧ ∃ row e, DatabaseBackend.selectRow s.jobs now key = some row ∧
        DatabaseBackend.decode codec key row = .ok e ∧ e.id = id := by
  simp only [traffic, DatabaseBackend.dequeue]
  cases selected : DatabaseBackend.selectRow s.jobs now key with
  | none => simp
  | some row =>
    cases decoded : DatabaseBackend.decode codec key row with
    | error e => simp [decoded]
    | ok e => simp [decoded, and_comm, eq_comm]

/-- No row that `dequeue` selects and can read is that of an order dispatched for a
time that comes after `NOW()`, but by less than half a millisecond. -/
def RowDue (codec : Codec Value) (p : DatabaseQueue Value × List (JobOrder Value)) :
    Label Value → Prop
  | .dequeue _ key now .ok => ∀ row e, DatabaseBackend.selectRow p.1.jobs now key = some row →
      DatabaseBackend.decode codec key row = .ok e →
      ∀ order ∈ p.2, order.id.hyphenated = key → ∀ at_, order.startAt = some at_ →
        ¬ (DateTime.sqlNow now < at_ ∧ at_ < DateTime.sqlNow now + 500000)
  | _ => True

/-- The table returns no job before its time but one that it keeps as due. -/
theorem punctual_iff_rowDue (parse_hyphenated : ∀ u : Uuid, codec.parseStr u.hyphenated = .ok u)
    (reach : ((traffic codec).ordered (machine codec worker)).Reachable p) (l : Label Value) :
    (traffic codec).Punctual p l ↔ RowDue codec p l := by
  obtain ⟨before, untouched⟩ := ordered_untouched parse_hyphenated reach
  obtain ⟨L, tracks, _⟩ := (tracking codec worker parse_hyphenated).reachable before
  have parsed : ∀ {key row} {e : JobEnvelope Value} {order : JobOrder Value},
      DatabaseBackend.decode codec key row = .ok e → order.id.hyphenated = key →
        e.id = order.id := by
    rintro key row e order decoded rfl
    exact Except.ok.inj ((DatabaseBackend.decode_id decoded).symm.trans (parse_hyphenated order.id))
  rcases l with _ | ⟨task, key, now, _ | _ | _⟩ | _ | _ | _ | _ | _
  case dequeue.ok =>
    constructor
    · rintro punctual row e selected decoded order listed same at_ later ⟨early, _⟩
      have due := punctual e.id _ (returns_iff.mpr ⟨rfl, row, e, selected, decoded, rfl⟩) order
        listed (parsed decoded same).symm at_ later
      exact absurd early (Int.not_lt.mpr due)
    · rintro due id at_' returned order listed same at_ later
      obtain ⟨rfl, row, e, selected, decoded, rfl⟩ := returns_iff.mp returned
      obtain ⟨found, chosen⟩ := Option.filter_eq_some_iff.mp selected
      obtain ⟨⟨_, comes⟩, _⟩ := of_decide_eq_true chosen
      obtain ⟨i, rfl⟩ := tracks.keys key row found
      have key : order.id.hyphenated = i.hyphenated := by
        rw [same]
        exact congrArg Uuid.hyphenated (Except.ok.inj
          ((DatabaseBackend.decode_id decoded).symm.trans (parse_hyphenated i)))
      obtain ⟨row', found', start⟩ := (untouched order listed).row
      rw [key, found] at found'
      obtain rfl := Option.some.inj found'
      rw [start, JobOrder.envelope_runAt later, DateTime.stored_le_sqlNow_iff] at comes
      exact Int.not_lt.mp fun early =>
        due row e selected decoded order listed key at_ later ⟨early, comes⟩
  all_goals exact iff_of_true (fun _ _ returned => by cases returned) trivial

/-- The order is for no time that comes less than half a millisecond after a second. -/
def Aligned : Label Value → Prop
  | .enqueue order => ∀ at_, order.startAt = some at_ →
      at_ % 1000000000 = 0 ∨ 500000 ≤ at_ % 1000000000
  | _ => True

/-- The table keeps such times in the second that they are in. -/
theorem rowDue_of_aligned {ls : List (Label Value)}
    (run : ((traffic codec).ordered (machine codec worker)).Run (fun _ l => Aligned l) ls p) :
    ((traffic codec).ordered (machine codec worker)).Run (RowDue codec) ls p := by
  refine (run.history (I := fun ls p =>
    ((traffic codec).ordered (machine codec worker)).Run (RowDue codec) ls p ∧
      ∀ order ∈ p.2, Aligned (.enqueue order)) ⟨.start, by rintro _ ⟨⟩⟩ ?_).1
  rintro ls ⟨s, orders⟩ l ⟨s', orders'⟩ ⟨run, aligned⟩ cond stepped
  refine ⟨run.next ?_ stepped, ?_⟩
  · rcases l with _ | ⟨task, key, now, _ | _ | _⟩ | _ | _ | _ | _ | _
    case dequeue.ok =>
      rintro row e _ _ order listed _ at_ later ⟨early, late⟩
      have clear := aligned order listed at_ later
      exact absurd late (Int.not_lt.mpr (DateTime.sqlNow_add_le clear early))
    all_goals trivial
  · intro order listed
    obtain ⟨_, recorded⟩ := Machine.recording_step.mp stepped
    obtain rfl : (traffic codec).record s l orders = orders' := recorded
    rcases Traffic.mem_record listed with ⟨waiting, _⟩ | accepted
    · exact aligned order waiting
    · cases l with
      | enqueue new =>
        simp only [traffic] at accepted
        split at accepted
        · obtain rfl := Option.some.inj accepted
          exact cond
        · cases accepted
      | _ => cases accepted

end Runs

end DatabaseQueue

namespace ChannelQueue
variable {Value : Type}

/-- The channel asks no clock; each label comes with the reading at that moment. -/
def timed (worker : WorkerConfig) (capacity : Nat) :
    Machine (ChannelQueue Value) (Label Value × DateTime) :=
  (machine worker capacity).relabel Prod.fst

def traffic : Traffic (ChannelQueue Value) (Label Value × DateTime) Value where
  accepts _ l :=
    match l with
    | (.enqueue _ order, _) => some order
    | _ => none
  returns s l :=
    match l with
    | (.dequeue _, now) => s.backend.dequeue.map (fun r => (r.1.id, now))
    | _ => none

/-- No job that waits for its first attempt is at the front of the channel when
`dequeue` is called before its time. -/
def FrontDue (p : ChannelQueue Value × List (JobOrder Value)) : Label Value × DateTime → Prop
  | (.dequeue _, now) => ∀ e, p.1.backend.buffer.head? = some e →
      ∀ order ∈ p.2, order.id = e.id → ∀ at_, order.startAt = some at_ → at_ ≤ now
  | _ => True

theorem punctual_iff_frontDue (p : ChannelQueue Value × List (JobOrder Value))
    (l : Label Value × DateTime) : traffic.Punctual p l ↔ FrontDue p l := by
  obtain ⟨l, now⟩ := l
  cases l with
  | dequeue task =>
    have first : traffic.returns p.1 (.dequeue task, now) =
        p.1.backend.buffer.head?.map (fun e => (e.id, now)) := by
      simp only [traffic, ChannelBackend.dequeue]
      cases p.1.backend.buffer <;> rfl
    constructor
    · intro punctual e front order listed same
      refine punctual e.id now ?_ order listed same
      rw [first, front]
      rfl
    · intro due id now' returned order listed same
      rw [first] at returned
      obtain ⟨e, front, pair⟩ := Option.map_eq_some_iff.mp returned
      obtain ⟨identity, rfl⟩ := Prod.mk.inj pair
      exact due e front order listed (same.trans identity.symm)
  | _ =>
    refine iff_of_true ?_ trivial
    intro id now' returned
    cases returned

end ChannelQueue

/-- Exactly those runs return no job for its first attempt before its time in which
the table is never asked less than half a millisecond before the time of the job it
selects, and the channel never while such a job is at its front too early. -/
theorem start_times_iff {Value : Type} {codec : Codec Value} {worker : WorkerConfig}
    (capacity : Nat) (parse_hyphenated : ∀ u : Uuid, codec.parseStr u.hyphenated = .ok u) :
    (∀ ls (p : DatabaseQueue Value × List (JobOrder Value)),
      (((DatabaseQueue.traffic codec).ordered (DatabaseQueue.machine codec worker)).Run
          (fun p l => (DatabaseQueue.traffic codec).Punctual p l) ls p ↔
        ((DatabaseQueue.traffic codec).ordered (DatabaseQueue.machine codec worker)).Run
          (DatabaseQueue.RowDue codec) ls p) ∧
      (((DatabaseQueue.traffic codec).ordered (DatabaseQueue.machine codec worker)).Run
          (fun _ l => DatabaseQueue.Aligned l) ls p →
        ((DatabaseQueue.traffic codec).ordered (DatabaseQueue.machine codec worker)).Run
          (fun p l => (DatabaseQueue.traffic codec).Punctual p l) ls p)) ∧
    ∀ ls (p : ChannelQueue Value × List (JobOrder Value)),
      (ChannelQueue.traffic.ordered (ChannelQueue.timed worker capacity)).Run
          (fun p l => ChannelQueue.traffic.Punctual p l) ls p ↔
        (ChannelQueue.traffic.ordered (ChannelQueue.timed worker capacity)).Run
          ChannelQueue.FrontDue ls p := by
  have table : ∀ ls (p : DatabaseQueue Value × List (JobOrder Value)),
      ((DatabaseQueue.traffic codec).ordered (DatabaseQueue.machine codec worker)).Run
          (fun p l => (DatabaseQueue.traffic codec).Punctual p l) ls p ↔
        ((DatabaseQueue.traffic codec).ordered (DatabaseQueue.machine codec worker)).Run
          (DatabaseQueue.RowDue codec) ls p := fun _ _ =>
    ⟨.imp fun p l _ reach _ => (DatabaseQueue.punctual_iff_rowDue parse_hyphenated reach l).mp,
      .imp fun p l _ reach _ => (DatabaseQueue.punctual_iff_rowDue parse_hyphenated reach l).mpr⟩
  refine ⟨fun ls p => ⟨table ls p, fun aligned => ?_⟩, fun _ _ => ⟨.mono fun p l => ?_,
    .mono fun p l => ?_⟩⟩
  · exact (table ls p).mpr (DatabaseQueue.rowDue_of_aligned aligned)
  · exact (ChannelQueue.punctual_iff_frontDue p l).mp
  · exact (ChannelQueue.punctual_iff_frontDue p l).mpr

section Examples

namespace DatabaseQueue

/-- A test for `Aligned`. -/
def aligned (_ : DatabaseQueue Nat × List (JobOrder Nat)) : Label Nat → Bool
  | .enqueue order => order.startAt.all fun at_ =>
      decide (at_ % 1000000000 = 0 ∨ 500000 ≤ at_ % 1000000000)
  | _ => true

theorem aligned_sound (p : DatabaseQueue Nat × List (JobOrder Nat)) (l : Label Nat)
    (passed : aligned p l = true) : Aligned l := by
  cases l with
  | enqueue order =>
    intro at_ later
    simpa [aligned, later] using passed
  | _ => trivial

end DatabaseQueue

namespace ChannelQueue

/-- A test for `FrontDue`. -/
def frontDue (p : ChannelQueue Nat × List (JobOrder Nat)) : Label Nat × DateTime → Bool
  | (.dequeue _, now) => p.1.backend.buffer.head?.all fun e =>
      p.2.all fun order => decide (order.id = e.id → order.startAt.all (· ≤ now) = true)
  | _ => true

theorem frontDue_sound (p : ChannelQueue Nat × List (JobOrder Nat))
    (l : Label Nat × DateTime) (passed : frontDue p l = true) : FrontDue p l := by
  obtain ⟨l, now⟩ := l
  cases l with
  | dequeue task =>
    intro e front order listed same at_ later
    simp only [frontDue, front, Option.all_some, List.all_eq_true, decide_eq_true_eq] at passed
    simpa [later] using passed order listed same
  | _ => trivial

end ChannelQueue

/-- A heartbeat dispatched for the next minute. -/
def nextMinute : JobOrder Nat := { heartbeat 1 3 with startAt := some 60000000000 }

/-- It is sent at once, and taken off the channel at the given time. -/
def takenAt (now : DateTime) : List (ChannelQueue.Label Nat × DateTime) :=
  [(.enqueue 0 nextMinute, 0), (.sendCompletes (.producer 0), 0), (.dequeue ⟨0, 0⟩, now)]

theorem start_times_iff_nextMinute :
    (∃ p, ((DatabaseQueue.traffic strokes).ordered
        (DatabaseQueue.machine strokes heartbeats)).Run
      (fun p l => (DatabaseQueue.traffic strokes).Punctual p l)
      [.enqueue nextMinute, .dequeue ⟨0, 0⟩ (Uuid.hyphenated 1) 60000000000 .ok] p) ∧
    ∃ p, (ChannelQueue.traffic.ordered (ChannelQueue.timed heartbeats 1)).Run
      (fun p l => ChannelQueue.traffic.Punctual p l) (takenAt 60000000000) p := by
  obtain ⟨database, channel⟩ := @start_times_iff Nat strokes heartbeats 1 strokes_parse
  obtain ⟨d, timely, _⟩ := Machine.exists_run_of_replay DatabaseQueue.aligned_sound
    (M := (DatabaseQueue.traffic strokes).ordered (DatabaseQueue.machine strokes heartbeats))
    (p := fun _ => true)
    [.enqueue nextMinute, .dequeue ⟨0, 0⟩ (Uuid.hyphenated 1) 60000000000 .ok] (by decide)
  obtain ⟨p, run, _⟩ := Machine.exists_run_of_replay ChannelQueue.frontDue_sound
    (M := ChannelQueue.traffic.ordered (ChannelQueue.timed heartbeats 1)) (p := fun _ => true)
    (takenAt 60000000000) (by decide)
  exact ⟨⟨d, (database _ d).2 timely⟩, p, (channel (takenAt 60000000000) p).mpr run⟩

/-- The channel hands the job out a minute too early. -/
theorem delayed_job_returned_early :
    ¬ ((DatabaseQueue.traffic strokes).NeverEarly (DatabaseQueue.machine strokes heartbeats) ∧
      (ChannelQueue.traffic : Traffic _ _ Nat).NeverEarly (ChannelQueue.timed heartbeats 1)) := by
  rintro ⟨_, never⟩
  obtain ⟨p, reach, checked⟩ := Machine.reachable_of_replay
    (M := ChannelQueue.traffic.ordered (ChannelQueue.timed heartbeats 1))
    (p := fun p =>
      decide (ChannelQueue.traffic.returns p.1 (.dequeue ⟨0, 0⟩, 0) = some ((1 : Uuid), 0)) &&
        ((ChannelQueue.timed heartbeats 1).step p.1 (.dequeue ⟨0, 0⟩, 0)).isSome &&
        p.2.any (fun order => decide (order.id = (1 : Uuid) ∧ order.startAt = some 60000000000)))
    ((takenAt 0).take 2) (by decide)
  simp only [Bool.and_eq_true, decide_eq_true_eq, List.any_eq_true] at checked
  obtain ⟨⟨returned, enabled⟩, order, listed, same, later⟩ := checked
  obtain ⟨q, stepped⟩ := Option.isSome_iff_exists.mp enabled
  have recorded : (ChannelQueue.traffic.ordered (ChannelQueue.timed heartbeats 1)).step p
      (.dequeue ⟨0, 0⟩, 0) = some (q, ChannelQueue.traffic.record p.1 (.dequeue ⟨0, 0⟩, 0) p.2) :=
    Machine.recording_step.mpr ⟨stepped, rfl⟩
  have early := never p reach _ _ recorded 1 0 returned order listed same 60000000000 later
  exact absurd early (by decide)

end Examples

end ApiBoilerplate
