import ApiBoilerplate.Queue.Guarantees

/-!
# Jobs within reach of the workers

`dequeue` commits the status running, and nothing but the task it was handed to
ever moves the job on. A job is therefore stranded as soon as its task ends
without its statement taking effect, and only then.
-/

namespace ApiBoilerplate
namespace DatabaseQueue

open Foundation Lifecycle

variable {Value : Type}

/-- Every job that has not ended is selectable once due, or executed by a live task. -/
def NoneStranded (s : DatabaseQueue Value) : Prop :=
  ∀ id row, s.jobs.lookup id = some row → row.status ≠ .completed → row.status ≠ .failed →
    (row.status = .pending ∨ row.status = .retrying) ∨
      ∃ task job, s.tasks task = some job ∧ job.envelope.id.hyphenated = id

section Reach
variable {s s' : DatabaseQueue Value} {L : Ledger Unit TaskId}

theorem Tracks.noneStranded (tracks : Tracks s L) (regular : RegularLedger L) :
    NoneStranded s := by
  intro id row found open_ unfailed
  obtain ⟨i, rfl⟩ := tracks.keys id row found
  obtain ⟨stage, account, shown⟩ := tracks.row i row found
  have status := shown.status
  cases stage with
  | waiting p n =>
    cases n with
    | zero => exact Or.inl (Or.inl (Option.some.inj status).symm)
    | succ n => exact Or.inl (Or.inr (Option.some.inj status).symm)
  | held t n r =>
    obtain ⟨job, live, same⟩ := tracks.held i _ t n r account
    exact Or.inr ⟨t, job, live, by rw [same]⟩
  | completed n => exact absurd (Option.some.inj status).symm open_
  | failed n => exact absurd (Option.some.inj status).symm unfailed
  | stranded n => exact absurd trivial (regular i _ _ account)
  | lost n => exact absurd trivial (regular i _ _ account)

/-- A row marked running without a task is a stranded job. -/
theorem stranded_of_taskless {i : Uuid} {row : JobRow}
    (found : s.jobs.lookup i.hyphenated = some row) (running : row.status = .running)
    (taskless : ∀ t job, s.tasks t = some job → job.envelope.id ≠ i) : ¬ NoneStranded s := by
  intro reach
  rcases reach i.hyphenated row found (by simp [running]) (by simp [running]) with
    (pending | retrying) | ⟨t, job, live, same⟩
  · rw [running] at pending
    cases pending
  · rw [running] at retrying
    cases retrying
  · exact taskless t job live (Uuid.hyphenated_injective same)

/-- The task of a held job is gone and the table is as it was. -/
theorem Tracks.stranded_of_lost (tracks : Tracks s L) {i : Uuid} {m n : Nat} {t : TaskId}
    {r : Option Bool} (account : L i = some ⟨m, .held t n r⟩) (table : s'.jobs = s.jobs)
    (tasks : ∀ t' job, s'.tasks t' = some job → t' ≠ t ∧ s.tasks t' = some job) :
    ¬ NoneStranded s' := by
  obtain ⟨row, found, shown, _⟩ := tracks.known account
  apply stranded_of_taskless (by rw [table, found]) (Option.some.inj shown.status).symm
  intro t' job live same
  obtain ⟨other, before⟩ := tasks t' job live
  exact other (tracks.task_of_held account before same)

/-- Marking the selected row running without handing it to a task strands it. -/
theorem Tracks.stranded_of_selected (tracks : Tracks s L) (sound : SoundLedger view s L)
    {now : DateTime} {id : String} {row : JobRow}
    (selected : DatabaseBackend.selectRow s.jobs now id = some row) :
    ¬ NoneStranded
      { s with jobs := DatabaseBackend.update s.jobs id DatabaseBackend.markRunning } := by
  obtain ⟨i, m, n, rfl, found, account, _⟩ := tracks.selected sound selected
  have marked : (DatabaseBackend.update s.jobs i.hyphenated DatabaseBackend.markRunning).lookup
      i.hyphenated = some (DatabaseBackend.markRunning row) := by
    rw [DatabaseBackend.lookup_update, if_pos rfl, found, Option.map_some]
  apply stranded_of_taskless marked rfl
  intro t job live same
  obtain ⟨m', n', held, _⟩ := tracks.task t job live
  rw [same, account] at held
  cases held

/-- A disturbing step strands a job there and then. -/
theorem disturbs_strands {codec : Codec Value} {worker : WorkerConfig} {l : Label Value}
    (tracks : Tracks s L) (sound : SoundLedger view s L)
    (hs : (machine codec worker).step s l = some s') (disturbs : Disturbs codec s l) :
    ¬ NoneStranded s' := by
  cases step_moves hs with
  | enqueued => exact disturbs.elim
  | handled => exact disturbs.elim
  | @returned _ _ _ row envelope idle selected decoded =>
    rcases disturbs with lost | ⟨_, row', e, found', undecoded⟩
    · cases lost
    · rw [(Option.filter_eq_some_iff.mp selected).1] at found'
      obtain rfl := Option.some.inj found'
      rw [decoded] at undecoded
      cases undecoded
  | misread selected => exact tracks.stranded_of_selected sound selected
  | rolledBack =>
    rcases disturbs with lost | ⟨answered, _⟩
    · cases lost
    · cases answered
  | @acknowledged task envelope live reply =>
    obtain rfl : reply = .errorBefore := disturbs
    obtain ⟨m, n, account, _⟩ := tracks.task task _ live
    exact tracks.stranded_of_lost account rfl fun _ _ => of_drop
  | @failed task envelope e live now sqlNow reply =>
    obtain rfl : reply = .errorBefore := disturbs
    obtain ⟨m, n, account, _⟩ := tracks.task task _ live
    exact tracks.stranded_of_lost account rfl fun _ _ => of_drop
  | @vanished task job live =>
    obtain ⟨m, n, account, _⟩ := tracks.task task _ live
    exact tracks.stranded_of_lost account rfl fun _ _ => of_drop
  | crashed process =>
    obtain ⟨task, dead, busy⟩ := disturbs
    obtain ⟨job, live⟩ := Option.ne_none_iff_exists'.mp busy
    obtain ⟨m, n, account, _⟩ := tracks.task task job live
    refine tracks.stranded_of_lost account rfl fun t' job' live' => ?_
    dsimp only at live'
    split_ifs at live' with alive
    exact ⟨fun same => alive (same ▸ dead), live'⟩

end Reach

section Runs
variable {codec : Codec Value} {worker : WorkerConfig}

/-- A run keeps every job within reach exactly when none of its steps takes a
job from its task or marks one running without handing it to a task. -/
theorem run_noneStranded_iff
    (parse_hyphenated : ∀ u : Uuid, codec.parseStr u.hyphenated = .ok u)
    (ls : List (Label Value)) (s : DatabaseQueue Value) :
    ((machine codec worker).Run (fun s l => ¬ Disturbs codec s l) ls s ↔
      (machine codec worker).Run
        (fun s l => ∀ s', step codec worker s l = some s' → NoneStranded s') ls s) ∧
    ((machine codec worker).Run (fun s l => ¬ Disturbs codec s l) ls s → NoneStranded s) := by
  have tracking := tracking codec worker parse_hyphenated
  have safe : ∀ {ls s}, (machine codec worker).Run (fun s l => ¬ Disturbs codec s l) ls s →
      NoneStranded s := by
    intro ls s run
    obtain ⟨L, tracks, _, regular⟩ := tracking.regular (fun _ _ calm => calm) ⟨ls, run⟩
    exact tracks.noneStranded regular
  refine ⟨⟨fun run => ?_, fun run => ?_⟩, safe⟩
  · induction run with
    | start => exact .start
    | next run calm step ih =>
      refine .next ih (fun t step' => ?_) step
      have same := step.symm.trans step'
      obtain rfl := Option.some.inj same
      exact safe (.next run calm step)
  · induction run with
    | start => exact .start
    | next run within step ih =>
      obtain ⟨L, tracks, sound⟩ := tracking.reachable (Machine.ReachableWhere.reachable ⟨_, run⟩)
      exact .next ih
        (fun disturbs => disturbs_strands tracks sound step disturbs (within _ step)) step

end Runs

/-- In a run with a failed and a successful attempt nothing is stranded. -/
theorem run_noneStranded_iff_retriedRun :
    ∃ s, (machine strokes heartbeats).Run (fun s l => ¬ Disturbs strokes s l) retriedRun s ∧
      NoneStranded s := by
  obtain ⟨s, run, _⟩ := Machine.exists_run_of_replay (M := machine strokes heartbeats)
    (fun s l checked => (calm_of_calmly strokes heartbeats secondTime s l checked).1)
    (p := fun _ => true) retriedRun (by decide)
  exact ⟨s, run, (run_noneStranded_iff strokes_parse retriedRun s).2 run⟩

/-- The process that executes job 1 crashes: the job stays marked running. -/
theorem crash_strands_job : ¬ ∀ s, (machine strokes heartbeats).Reachable s → NoneStranded s := by
  intro claim
  obtain ⟨s, reach, checked⟩ := Machine.reachable_of_replay (M := machine strokes heartbeats)
    (p := fun s => (s.tasks ⟨0, 0⟩).isSome)
    [.enqueue (heartbeat 1 3), .dequeue ⟨0, 0⟩ (Uuid.hyphenated 1) 0 .ok] (by decide)
  obtain ⟨L, tracks, sound⟩ := (tracking strokes heartbeats strokes_parse).reachable reach
  have crashed : (machine strokes heartbeats).step s (.crash 0) = some _ := rfl
  have busy : Disturbs strokes s (.crash 0) :=
    ⟨⟨0, 0⟩, rfl, Option.ne_none_iff_isSome.mpr checked⟩
  exact disturbs_strands tracks sound crashed busy (claim _ (reach.next trivial crashed))

end DatabaseQueue
end ApiBoilerplate
