import ApiBoilerplate.Queue.ChannelWorker
import ApiBoilerplate.Queue.Guarantees

/-!
# The circular wait of worker and channel

A task that re-enqueues its job waits for room in the channel with a permit in
hand, and only the holder of a permit can make room. Once all permits are with
such tasks and the channel is full, nothing moves any more; until then something
always can.
-/

namespace ApiBoilerplate
namespace ChannelWorker

open Foundation
open ChannelQueue (Tracks Place)
open Lifecycle (Ledger)

variable {Value : Type}

section Definitions
variable (worker : WorkerConfig) (concurrency capacity : Nat)

/-- The loop can acquire a permit and come to `dequeue`. -/
def Polls (s : ChannelWorker Value) : Prop :=
  ∃ t, (machine worker concurrency capacity).LeadsBy Label.isLoop s t ∧ t.1.stage = .polling

/-- Some job can be moved on: the loop can acquire a permit and dequeue one, a
task can go on, or a send can complete. -/
inductive Serves (s : ChannelWorker Value) : Prop where
  | dequeue {t u : ChannelWorker Value} {e : JobEnvelope Value}
      (loop : (machine worker concurrency capacity).LeadsBy Label.isLoop s t)
      (step : (machine worker concurrency capacity).step t .dequeue = some u)
      (got : u.1.stage = .dispatching e)
  | spawn {t : ChannelWorker Value}
      (step : (machine worker concurrency capacity).step s .spawn = some t)
  | handler (n : Nat) (returns : ∀ result, ∃ t,
      (machine worker concurrency capacity).step s (.handlerReturns n result) = some t)
  | acknowledge {n : Nat} {t : ChannelWorker Value}
      (step : (machine worker concurrency capacity).step s (.acknowledge n) = some t)
  | fail (n : Nat) (fails : ∀ now, ∃ t,
      (machine worker concurrency capacity).step s (.fail n now) = some t)
  | sent {producer : Nat} {t : ChannelWorker Value}
      (step : (machine worker concurrency capacity).step s (.sent producer) = some t)
  | resent {n : Nat} {t : ChannelWorker Value}
      (step : (machine worker concurrency capacity).step s (.resent n) = some t)

/-- The job was enqueued and is neither acknowledged nor permanently failed. -/
def Open (s : ChannelWorker Value) (id : Uuid) : Prop :=
  id ∈ s.2.submitted ∧ id ∉ s.2.finished

/-- Somebody has the job; nobody has it any more once its handler has panicked. -/
inductive Held (s : ChannelWorker Value) : Uuid → Prop where
  | producer {n : Nat} {e : JobEnvelope Value} (waits : s.2.sends (.producer n) = some e) :
      Held s e.id
  | resending {n : Nat} {e : JobEnvelope Value} (waits : s.2.sends (.task (taskId n)) = some e) :
      Held s e.id
  | buffered {e : JobEnvelope Value} (listed : e ∈ s.2.backend.buffer) : Held s e.id
  | owned {n : Nat} {job : JobTask Value} (own : owned s.1 n = some job) :
      Held s job.envelope.id

/-- While a job is open a job can be moved on, or at least the loop still polls:
the latter only where the open job is with nobody. -/
def Live (s : ChannelWorker Value) : Prop :=
  ∀ id, Open s id → Serves worker concurrency capacity s ∨
    (¬ Held s id ∧ Polls worker concurrency capacity s)

end Definitions

/-- The tasks that wait in the send of their `fail`. -/
def waiting (s : ChannelWorker Value) : Finset Nat :=
  s.1.tasks.keys.filter fun n => (s.2.sends (.task (taskId n))).isSome

def Full (backend : ChannelBackend Value) : Prop := backend.capacity ≤ backend.buffer.length

instance (backend : ChannelBackend Value) : Decidable (Full backend) :=
  inferInstanceAs (Decidable (backend.capacity ≤ backend.buffer.length))

def Deadlocked (concurrency : Nat) (s : ChannelWorker Value) : Prop :=
  (waiting s).card = concurrency ∧ Full s.2.backend

instance (concurrency : Nat) (s : ChannelWorker Value) : Decidable (Deadlocked concurrency s) :=
  inferInstanceAs (Decidable (_ ∧ _))

/-- The job of the task has attempts left. -/
def retries (w : WorkerRun Value) (n : Nat) : Bool :=
  (w.tasks.lookup n).any fun job =>
    Worker.shouldRetry job.envelope.attempts job.envelope.maxAttempts

/-- No retry takes the last permit into a full channel, and no producer takes the
last place in the channel while the tasks that wait for it have all permits. -/
def Careful (concurrency : Nat) (s : ChannelWorker Value) : Label Value → Prop
  | .fail n _ =>
    ¬ (retries s.1 n = true ∧ (waiting s).card + 1 = concurrency ∧ Full s.2.backend)
  | .sent _ => ¬ ((waiting s).card = concurrency ∧
      s.2.backend.buffer.length + 1 = s.2.backend.capacity)
  | _ => True

instance (concurrency : Nat) (s : ChannelWorker Value) (l : Label Value) :
    Decidable (Careful concurrency s l) :=
  match l with
  | .fail _ _ => inferInstanceAs (Decidable (¬ (_ ∧ _ ∧ _)))
  | .sent _ => inferInstanceAs (Decidable (¬ (_ ∧ _)))
  | .enqueue _ _ | .abandoned _ | .noSignal | .tryAcquire | .dequeue | .spawn | .dropPermit
  | .wake | .handlerReturns _ _ | .acknowledge _ | .resent _ | .panics _ => .isTrue trivial

structure Sound (concurrency : Nat) (s : ChannelWorker Value) : Prop where
  accounted : s.1.Accounted concurrency
  linked : Linked s
  running : s.1.stage.isOver = false

section Sound
variable {worker : WorkerConfig} {concurrency capacity : Nat} {s t : ChannelWorker Value}
  {l : Label Value}

/-- The loop is never told to stop. -/
theorem parts_running {wl : WorkerLabel Value} (part : (parts worker s l).1 = some wl) :
    wl ≠ .tryRecv (.ok ()) ∧ wl ≠ .drained := by
  cases l with
  | enqueue | sent | abandoned => cases part
  | noSignal | tryAcquire | spawn | dropPermit | wake | handlerReturns | acknowledge | resent
  | panics =>
    obtain rfl := Option.some.inj part
    exact ⟨by simp, by simp⟩
  | dequeue =>
    simp only [parts] at part
    split at part <;> obtain rfl := Option.some.inj part <;> exact ⟨by simp, by simp⟩
  | fail n now =>
    simp only [parts] at part
    split at part
    · cases part
    · obtain rfl := Option.some.inj part
      exact ⟨by simp, by simp⟩

theorem running_step {w w' : WorkerRun Value} {wl : WorkerLabel Value}
    (running : w.stage.isOver = false) (unsignalled : wl ≠ .tryRecv (.ok ()))
    (stepped : WorkerRun.step worker concurrency w wl = some w') : w'.stage.isOver = false := by
  cases WorkerRun.step_moves stepped with
  | signalled here => exact absurd rfl unsignalled
  | drained here => rw [here] at running; cases running
  | returned live | reported live | panicked live => exact running
  | unsignalled here | acquired here | busy here | dequeued here | empty here | failed here
  | spawned here | dropped here | woken here => rfl

theorem sound_step (sound : Sound concurrency s)
    (stepped : (machine worker concurrency capacity).step s l = some t) : Sound concurrency t := by
  have linked : Linked t := linked_step sound.accounted sound.linked stepped
  obtain ⟨moved, _⟩ := Machine.together_step.mp stepped
  cases part : (parts worker s l).1 with
  | none =>
    rw [part] at moved
    have same : s.1 = t.1 := Option.some.inj moved
    exact ⟨same ▸ sound.accounted, linked, same ▸ sound.running⟩
  | some wl =>
    rw [part] at moved
    obtain ⟨unsignalled, undrained⟩ := parts_running part
    exact ⟨WorkerRun.accounted_step (fun drained => absurd drained undrained) sound.accounted moved,
      linked, running_step sound.running unsignalled moved⟩

theorem sound_init : Sound concurrency
    (machine worker concurrency capacity : Machine (ChannelWorker Value) (Label Value)).init where
  accounted := @WorkerRun.accounted_init Value worker concurrency
  linked := fun _ => Agree.absent
  running := rfl

theorem sound_of_reachable (reach : (machine worker concurrency capacity).Reachable s) :
    Sound concurrency s :=
  reach.invariant sound_init (fun _ _ _ sound _ stepped => sound_step sound stepped)

/-- The waiting tasks are those the queue has a send of. -/
theorem mem_waiting (sound : Sound concurrency s) {n : Nat} :
    n ∈ waiting s ↔ ∃ e, s.2.sends (.task (taskId n)) = some e := by
  rw [waiting, Finset.mem_filter, ← Option.isSome_iff_exists, and_iff_right_iff_imp]
  intro waits
  obtain ⟨e, waits⟩ := Option.isSome_iff_exists.mp waits
  obtain ⟨_, job, outcome, own, decided⟩ := (sound.linked n).of_send waits
  exact FinMap.mem_keys_of_lookup (live_of_owned own decided)

theorem waiting_le (sound : Sound concurrency s) : (waiting s).card ≤ concurrency := by
  have held := sound.accounted.permits.held_le
  have fewer := Finset.card_filter_le s.1.tasks.keys
    (fun n => (s.2.sends (.task (taskId n))).isSome)
  change (waiting s).card ≤ _ at fewer
  omega

/-- Where all permits are with waiting tasks, nobody else has one. -/
theorem all_waiting (sound : Sound concurrency s) (all : (waiting s).card = concurrency) :
    s.1.semaphore.free = 0 ∧ s.1.stage.permits = 0 ∧ waiting s = s.1.tasks.keys := by
  have balanced := sound.accounted.permits
  have subset : waiting s ⊆ s.1.tasks.keys := Finset.filter_subset _ _
  have fewer := Finset.card_le_card subset
  unfold Semaphore.Balanced at balanced
  exact ⟨by omega, by omega, Finset.eq_of_subset_of_card_le subset (by omega)⟩

end Sound

section Step
variable {worker : WorkerConfig} {concurrency capacity : Nat} {w w' : WorkerRun Value}
  {q q' : ChannelQueue Value} {l : Label Value}

theorem waiting_congr (sound : Sound concurrency (w, q)) (sound' : Sound concurrency (w', q'))
    (sends : ∀ id, q'.sends (.task id) = q.sends (.task id)) :
    waiting (w', q') = waiting (w, q) := by
  ext n
  rw [mem_waiting sound, mem_waiting sound', sends]

theorem waiting_joins (sound : Sound concurrency (w, q)) (sound' : Sound concurrency (w', q'))
    {n : Nat} {e : JobEnvelope Value}
    (sends : q'.sends = Function.update q.sends (.task (taskId n)) (some e)) :
    waiting (w', q') = insert n (waiting (w, q)) := by
  ext k
  rw [Finset.mem_insert, mem_waiting sound, mem_waiting sound', sends]
  by_cases same : k = n
  · subst same
    simp
  · simp [same, taskId_ne same]

theorem waiting_leaves (sound : Sound concurrency (w, q)) (sound' : Sound concurrency (w', q'))
    {n : Nat} (sends : q'.sends = Function.update q.sends (.task (taskId n)) none) :
    waiting (w', q') = (waiting (w, q)).erase n := by
  ext k
  rw [Finset.mem_erase, mem_waiting sound, mem_waiting sound', sends]
  by_cases same : k = n
  · subst same
    simp
  · simp [same, taskId_ne same]

/-- The envelope in flight has the counters of the task's own. -/
theorem fail_again {L : Ledger Place TaskId} (tracks : Tracks q L) {task : TaskId}
    {e : JobEnvelope Value} {outcome : Option (Except QueueError Unit)}
    (live : q.tasks task = some ⟨e, outcome⟩) (delay : UInt64) (now : DateTime) (error : String) :
    (q.backend.fail e.id error (Worker.retryAt delay e.attempts e.maxAttempts now)).2.isSome =
      Worker.shouldRetry e.attempts e.maxAttempts := by
  obtain ⟨m, n, _, mine, e', filed, theirs⟩ := tracks.at_task live
  have attempts : e'.attempts = e.attempts :=
    UInt32.toNat_inj.mp (theirs.attempts.trans mine.attempts.symm)
  have budget : e'.maxAttempts = e.maxAttempts :=
    UInt32.toNat_inj.mp (theirs.budget.trans mine.budget.symm)
  simp only [ChannelBackend.fail, filed, attempts, budget, Worker.retryAt, Worker.shouldRetry]
  by_cases left : e.attempts < e.maxAttempts
  · simp [left]
  · simp [left]

/-- The failing task goes on to send exactly when its job has attempts left. -/
theorem requeues_eq_retries {L : Ledger Place TaskId} (tracks : Tracks q L)
    (sound : Sound concurrency (w, q)) {n : Nat} {now : DateTime}
    (failed : ChannelQueue.step worker q (.fail (taskId n) now) = some q') :
    (q'.sends (.task (taskId n))).isSome = retries w n := by
  have known : ∀ e outcome, q.tasks (taskId n) = some ⟨e, some outcome⟩ →
      q.sends (.task (taskId n)) = none ∧
        retries w n = Worker.shouldRetry e.attempts e.maxAttempts := by
    intro e outcome live
    obtain ⟨own, idle⟩ := (sound.linked n).of_task live
    have spawned : w.tasks.lookup n = some ⟨e, some outcome⟩ := live_of_owned own rfl
    exact ⟨idle, by rw [retries, spawned]; rfl⟩
  cases ChannelQueue.step_moves failed with
  | @resending _ e again error live _ backend half =>
    have sent := fail_again tracks live worker.retryDelaySeconds now error.text
    rw [half] at sent
    rw [(known e _ live).2, ← sent]
    simp
  | @failed _ e error live _ backend half =>
    have sent := fail_again tracks live worker.retryDelaySeconds now error.text
    rw [half] at sent
    rw [(known e _ live).2, ← sent]
    simp [(known e _ live).1]

/-- Which steps enter the circular wait; in the others nobody starts or stops to wait. -/
theorem deadlocked_iff_careless {L : Ledger Place TaskId} (tracks : Tracks q L)
    (sound : Sound concurrency (w, q)) (free : ¬ Deadlocked concurrency (w, q))
    (stepped : (machine worker concurrency capacity).step (w, q) l = some (w', q')) :
    ¬ Deadlocked concurrency (w', q') ↔ Careful concurrency (w, q) l := by
  have sound' := sound_step sound stepped
  have both := step_parts stepped
  have still : (∀ id, q'.sends (.task id) = q.sends (.task id)) →
      q'.backend.capacity = q.backend.capacity →
      q'.backend.buffer.length ≤ q.backend.buffer.length → ¬ Deadlocked concurrency (w', q') := by
    rintro sends capacity fewer ⟨all, full⟩
    rw [waiting_congr sound sound' sends] at all
    refine free ⟨all, ?_⟩
    unfold Full at *
    dsimp only at *
    omega
  cases l with
  | enqueue producer order =>
    cases ChannelQueue.step_moves both.2 with
    | enqueued fresh idle => exact iff_of_true (still (by simp) rfl (Nat.le_refl _)) trivial
  | abandoned producer =>
    cases ChannelQueue.step_moves both.2 with
    | cancelled waits => exact iff_of_true (still (by simp) rfl (Nat.le_refl _)) trivial
  | noSignal | tryAcquire | spawn | dropPermit | wake =>
    obtain ⟨_, rfl⟩ := both
    exact iff_of_true (still (fun _ => rfl) rfl (Nat.le_refl _)) trivial
  | dequeue =>
    rcases both with ⟨e, backend, taken, _, queue⟩ | ⟨_, rfl⟩
    · cases ChannelQueue.step_moves queue with
      | dequeued vacant idle taken =>
        obtain ⟨first, rest, buffer, _, rfl⟩ := ChannelBackend.dequeue_some taken
        have shorter : rest.length ≤ q.backend.buffer.length := by
          rw [buffer]
          exact Nat.le_succ _
        exact iff_of_true (still (fun _ => rfl) rfl shorter) trivial
    · exact iff_of_true (still (fun _ => rfl) rfl (Nat.le_refl _)) trivial
  | handlerReturns n result =>
    cases ChannelQueue.step_moves both.2 with
    | returned live result decided =>
      exact iff_of_true (still (fun _ => rfl) rfl (Nat.le_refl _)) trivial
  | acknowledge n =>
    cases ChannelQueue.step_moves both.2 with
    | acknowledged live =>
      exact iff_of_true (still (fun _ => rfl) rfl (Nat.le_refl _)) trivial
  | panics n =>
    cases ChannelQueue.step_moves both.2 with
    | vanished live => exact iff_of_true (still (fun _ => rfl) rfl (Nat.le_refl _)) trivial
  | sent producer =>
    obtain ⟨rfl, queue⟩ := both
    cases ChannelQueue.step_moves queue with
    | sent waits accepted =>
      obtain ⟨room, rfl⟩ := ChannelBackend.send_some accepted
      have same := waiting_congr sound sound' (by simp)
      simp only [Deadlocked, Careful, same, Full, List.length_append, List.length_singleton]
      rw [not_iff_not, and_congr_right_iff]
      intro _
      omega
  | fail n now =>
    obtain ⟨queue, _⟩ := both
    have again := requeues_eq_retries tracks sound queue
    cases ChannelQueue.step_moves queue with
    | resending live now half =>
      obtain ⟨buffer, same⟩ := ChannelBackend.fail_buffer half
      have idle : q.sends (.task (taskId n)) = none := ((sound.linked n).of_task live).2
      have joined := waiting_joins sound sound' rfl
      have outside : n ∉ waiting (w, q) := by
        rw [mem_waiting sound, idle]
        simp
      have retrying : retries w n = true := by
        rw [← again]
        simp
      simp only [Deadlocked, Careful, joined, Finset.card_insert_of_notMem outside, Full, buffer,
        same, retrying, true_and]
    | failed live now half =>
      obtain ⟨buffer, same⟩ := ChannelBackend.fail_buffer half
      have idle : q.sends (.task (taskId n)) = none := ((sound.linked n).of_task live).2
      have done : retries w n = false := by
        rw [← again]
        change (q.sends (.task (taskId n))).isSome = false
        rw [idle]
        rfl
      refine iff_of_true (still (fun _ => rfl) same (by rw [buffer])) ?_
      simp [Careful, done]
  | resent n =>
    cases ChannelQueue.step_moves both.2 with
    | sent waits accepted =>
      refine iff_of_true ?_ trivial
      rintro ⟨all, _⟩
      have left := waiting_leaves sound sound' rfl
      have member : n ∈ waiting (w, q) := (mem_waiting sound).mpr ⟨_, waits⟩
      have fewer := Finset.card_erase_lt_of_mem member
      have most := waiting_le sound
      rw [left] at all
      omega

end Step

section Progress
variable {worker : WorkerConfig} {concurrency capacity : Nat} {w w' : WorkerRun Value}
  {q q' : ChannelQueue Value} {l : Label Value}

theorem capacity_kept (reach : (ChannelQueue.machine worker capacity).Reachable q) :
    q.backend.capacity = capacity := by
  refine reach.invariant (I := fun q => q.backend.capacity = capacity) rfl ?_
  intro s l t kept _ stepped
  cases ChannelQueue.step_moves stepped with
  | sent waits accepted =>
    obtain ⟨_, rfl⟩ := ChannelBackend.send_some accepted
    exact kept
  | dequeued vacant idle taken =>
    obtain ⟨_, _, _, _, rfl⟩ := ChannelBackend.dequeue_some taken
    exact kept
  | resending live now half | failed live now half =>
    exact (ChannelBackend.fail_buffer half).2.trans kept
  | enqueued | returned | acknowledged | vanished | cancelled => exact kept

/-- The loop comes to `dequeue` by its own steps, with the channel left alone. -/
def ReachesPolling (worker : WorkerConfig) (concurrency capacity : Nat) (w : WorkerRun Value)
    (q : ChannelQueue Value) : Prop :=
  ∃ w', (machine worker concurrency capacity).LeadsBy Label.isLoop (w, q) (w', q) ∧
    w'.stage = .polling ∧ w'.handed = w.handed

theorem ReachesPolling.before (rest : ReachesPolling worker concurrency capacity w' q)
    (l : Label Value) {wl : WorkerLabel Value} (loops : l.isLoop = true)
    (part : parts worker (w, q) l = (some wl, none))
    (moved : WorkerRun.step worker concurrency w wl = some w') (same : w'.handed = w.handed) :
    ReachesPolling worker concurrency capacity w q := by
  obtain ⟨w'', leads, polling, handed⟩ := rest
  have stepped : (machine worker concurrency capacity).step (w, q) l = some (w', q) := by
    apply Machine.together_step.mpr
    rw [part]
    exact ⟨moved, rfl⟩
  exact ⟨w'', leads.head stepped loops, polling, handed.trans same⟩

theorem polling_of_acquiring (here : w.stage = .acquiring) (permit : 0 < w.semaphore.free) :
    ReachesPolling worker concurrency capacity w q := by
  obtain ⟨semaphore, taken⟩ := Option.ne_none_iff_exists'.mp
    (fun none_free => permit.ne' (Semaphore.tryAcquire_none.mp none_free))
  have there : ReachesPolling worker concurrency capacity
      { w with stage := .polling, semaphore := semaphore } q :=
    ⟨_, Machine.leadsBy_refl _, rfl, rfl⟩
  exact there.before .tryAcquire rfl rfl (by simp only [WorkerRun.step, here, taken]) rfl

theorem polling_of_checking (here : w.stage = .checking) (permit : 0 < w.semaphore.free) :
    ReachesPolling worker concurrency capacity w q := by
  have there : ReachesPolling worker concurrency capacity { w with stage := .acquiring } q :=
    polling_of_acquiring rfl permit
  exact there.before .noSignal rfl rfl (by simp only [WorkerRun.step, here]; rfl) rfl

theorem polling_of_sleeping (here : w.stage = .sleeping) (permit : 0 < w.semaphore.free) :
    ReachesPolling worker concurrency capacity w q := by
  have there : ReachesPolling worker concurrency capacity { w with stage := .checking } q :=
    polling_of_checking rfl permit
  exact there.before .wake rfl rfl (by simp only [WorkerRun.step, here]) rfl

theorem reaches_polling (running : w.stage.isOver = false)
    (permit : 0 < w.semaphore.free + w.stage.permits) (free : w.stage.inHand = []) :
    ReachesPolling worker concurrency capacity w q := by
  cases here : w.stage with
  | checking => exact polling_of_checking here (by simpa [here, PollStage.permits] using permit)
  | acquiring => exact polling_of_acquiring here (by simpa [here, PollStage.permits] using permit)
  | sleeping => exact polling_of_sleeping here (by simpa [here, PollStage.permits] using permit)
  | polling => exact ⟨w, Machine.leadsBy_refl _, here, rfl⟩
  | yielding =>
    have there : ReachesPolling worker concurrency capacity
        { w with stage := .sleeping, semaphore := w.semaphore.release } q :=
      polling_of_sleeping rfl (Nat.succ_pos _)
    exact there.before .dropPermit rfl rfl (by simp only [WorkerRun.step, here]) rfl
  | dispatching e => rw [here] at free; cases free
  | draining => rw [here] at running; cases running
  | returned => rw [here] at running; cases running

/-- A task that does not wait in a send can go on. -/
theorem serves_of_task (sound : Sound concurrency (w, q)) {n : Nat} {job : JobTask Value}
    (spawned : w.tasks.lookup n = some job) (idle : q.sends (.task (taskId n)) = none) :
    Serves worker concurrency capacity (w, q) := by
  have working : q.tasks (taskId n) = some job := by
    have agree := sound.linked n
    simp only [owned_of_live sound.accounted spawned, idle] at agree
    generalize q.tasks (taskId n) = task at agree
    cases agree with
    | working => rfl
  obtain ⟨e, result⟩ := job
  cases result with
  | none =>
    refine .handler n (fun result => ?_)
    obtain ⟨w', loop⟩ : ∃ w', WorkerRun.step worker concurrency w (.handlerReturns n result) =
        some w' := by
      simp only [WorkerRun.step, spawned]
      exact ⟨_, rfl⟩
    obtain ⟨q', queue⟩ : ∃ q', ChannelQueue.step worker q (.handlerReturns (taskId n) result) =
        some q' := by
      simp only [ChannelQueue.step, working]
      exact ⟨_, rfl⟩
    exact ⟨(w', q'), Machine.together_step.mpr ⟨loop, queue⟩⟩
  | some outcome =>
    have loop : WorkerRun.step worker concurrency w (.reported n (.ok ())) =
        some (w.finish n) := by
      simp only [WorkerRun.step, spawned]
    rcases outcome with error | ⟨⟩
    · refine .fail n (fun now => ?_)
      obtain ⟨q', queue⟩ : ∃ q', ChannelQueue.step worker q (.fail (taskId n) now) = some q' := by
        simp only [ChannelQueue.step, working]
        split <;> exact ⟨_, rfl⟩
      cases again : requeues worker q n now with
      | true =>
        refine ⟨(w, q'), Machine.together_step.mpr ?_⟩
        simp only [parts, again]
        exact ⟨rfl, queue⟩
      | false =>
        refine ⟨(w.finish n, q'), Machine.together_step.mpr ?_⟩
        simp only [parts, again]
        exact ⟨loop, queue⟩
    · obtain ⟨q', queue⟩ : ∃ q', ChannelQueue.step worker q (.acknowledge (taskId n)) =
          some q' := by
        simp only [ChannelQueue.step, working]
        exact ⟨_, rfl⟩
      exact .acknowledge (n := n) (t := (w.finish n, q')) (Machine.together_step.mpr ⟨loop, queue⟩)

variable (worker) in
/-- Any waiting send completes where there is room. -/
theorem send_completes {sender : Sender} {e : JobEnvelope Value}
    (waits : q.sends sender = some e) (room : ¬ Full q.backend) :
    ∃ q', ChannelQueue.step worker q (.sendCompletes sender) = some q' := by
  simp only [ChannelQueue.step, waits, ChannelBackend.send, if_pos (Nat.lt_of_not_le room)]
  exact ⟨_, rfl⟩

theorem serves_of_resending (sound : Sound concurrency (w, q)) {n : Nat} {e : JobEnvelope Value}
    (waits : q.sends (.task (taskId n)) = some e) (room : ¬ Full q.backend) :
    Serves worker concurrency capacity (w, q) := by
  obtain ⟨_, ⟨e', result⟩, outcome, own, decided⟩ := (sound.linked n).of_send waits
  have spawned : w.tasks.lookup n = some ⟨e', result⟩ := live_of_owned own decided
  obtain rfl : result = some outcome := decided
  have loop : WorkerRun.step worker concurrency w (.reported n (.ok ())) =
      some (w.finish n) := by
    simp only [WorkerRun.step, spawned]
  obtain ⟨q', queue⟩ := send_completes worker waits room
  exact .resent (n := n) (t := (w.finish n, q')) (Machine.together_step.mpr ⟨loop, queue⟩)

theorem serves_of_sending {producer : Nat} {e : JobEnvelope Value}
    (waits : q.sends (.producer producer) = some e) (room : ¬ Full q.backend) :
    Serves worker concurrency capacity (w, q) := by
  obtain ⟨q', queue⟩ := send_completes worker waits room
  exact .sent (t := (w, q')) (Machine.together_step.mpr ⟨rfl, queue⟩)

/-- The loop that comes to `dequeue` gets a job, if the channel holds one. -/
theorem serves_of_polling (sound : Sound concurrency (w, q))
    (polls : ReachesPolling worker concurrency capacity w q) (free : w.stage.inHand = [])
    {e : JobEnvelope Value} {rest : List (JobEnvelope Value)}
    (queued : q.backend.buffer = e :: rest) : Serves worker concurrency capacity (w, q) := by
  obtain ⟨w', leads, polling, handed⟩ := polls
  have absent : owned w w.handed.length = none := by
    unfold owned
    split
    · rename_i here
      rw [here] at free
      cases free
    · exact sound.accounted.fresh
  obtain ⟨vacant, idle⟩ : q.tasks (taskId w.handed.length) = none ∧
      q.sends (.task (taskId w.handed.length)) = none :=
    (sound.linked w.handed.length).of_absent absent
  obtain ⟨⟨running, backend⟩, taken⟩ : ∃ r, q.backend.dequeue = some r := by
    simp only [ChannelBackend.dequeue, queued]
    exact ⟨_, rfl⟩
  have loop : WorkerRun.step worker concurrency w' (.dequeue (.ok (some running))) =
      some { w' with stage := .dispatching running } := by
    simp only [WorkerRun.step, polling]
    rfl
  obtain ⟨q', queue⟩ : ∃ q', ChannelQueue.step worker q (.dequeue (taskId w'.handed.length)) =
      some q' := by
    rw [handed]
    simp [ChannelQueue.step, vacant, idle, taken]
  have stepped : (machine worker concurrency capacity).step (w', q) .dequeue =
      some ({ w' with stage := .dispatching running }, q') := by
    apply Machine.together_step.mpr
    simp only [parts, taken]
    exact ⟨loop, queue⟩
  exact .dequeue leads stepped rfl

/-- An envelope in the loop's hand is spawned. -/
theorem serves_of_inHand (inHand : w.stage.inHand ≠ []) :
    Serves worker concurrency capacity (w, q) := by
  cases here : w.stage with
  | dispatching e =>
    obtain ⟨w', loop⟩ : ∃ w', WorkerRun.step worker concurrency w .spawn = some w' := by
      simp only [WorkerRun.step, here]
      exact ⟨_, rfl⟩
    exact .spawn (t := (w', q)) (Machine.together_step.mpr ⟨loop, rfl⟩)
  | _ => simp [here, PollStage.inHand] at inHand

theorem live_of_empty_handed {n : Nat} {job : JobTask Value} (free : w.stage.inHand = [])
    (own : owned w n = some job) : n ∈ w.tasks.keys := by
  unfold owned at own
  split at own
  · rename_i here
    rw [here] at free
    cases free
  · exact FinMap.mem_keys_of_lookup own

/-- Outside the circular wait every open job finds something that can move: a task that
does not wait, or with the channel full a worker that has a permit. -/
theorem live_of_free (sound : Sound concurrency (w, q)) (positive : 1 ≤ concurrency)
    (room : 1 ≤ q.backend.capacity) (free : ¬ Deadlocked concurrency (w, q)) :
    Live worker concurrency capacity (w, q) := by
  intro id _
  by_cases inHand : w.stage.inHand = []
  swap
  · exact Or.inl (serves_of_inHand inHand)
  by_cases all : waiting (w, q) = w.tasks.keys
  swap
  · obtain ⟨n, live, outside⟩ : ∃ n ∈ w.tasks.keys, n ∉ waiting (w, q) := by
      by_contra none_outside
      push Not at none_outside
      exact all (Finset.Subset.antisymm (Finset.filter_subset _ _) none_outside)
    obtain ⟨job, spawned⟩ := Finmap.mem_iff.mp (Finmap.mem_keys.mp live)
    refine Or.inl (serves_of_task sound spawned ?_)
    rw [Option.eq_none_iff_forall_ne_some]
    intro e waits
    exact outside ((mem_waiting sound).mpr ⟨e, waits⟩)
  have balanced : w.semaphore.free + ((waiting (w, q)).card + w.stage.permits) = concurrency := by
    rw [all]
    exact sound.accounted.permits
  have permit_of : (waiting (w, q)).card ≠ concurrency →
      0 < w.semaphore.free + w.stage.permits := by
    intro fewer
    omega
  by_cases full : Full q.backend
  · have permit := permit_of fun card => free ⟨card, full⟩
    cases queued : q.backend.buffer with
    | nil =>
      unfold Full at full
      rw [queued, List.length_nil] at full
      omega
    | cons e rest =>
      exact Or.inl (serves_of_polling sound (reaches_polling sound.running permit inHand)
        inHand queued)
  by_cases nobody : waiting (w, q) = ∅
  swap
  · obtain ⟨n, member⟩ := Finset.nonempty_iff_ne_empty.mpr nobody
    obtain ⟨e, waits⟩ := (mem_waiting sound).mp member
    exact Or.inl (serves_of_resending sound waits full)
  have permit : 0 < w.semaphore.free + w.stage.permits := by
    apply permit_of
    rw [nobody, Finset.card_empty]
    omega
  have polls : ReachesPolling worker concurrency capacity w q :=
    reaches_polling sound.running permit inHand
  cases queued : q.backend.buffer with
  | cons e rest => exact Or.inl (serves_of_polling sound polls inHand queued)
  | nil =>
    by_cases sending : ∃ producer e, q.sends (.producer producer) = some e
    · obtain ⟨producer, e, waits⟩ := sending
      exact Or.inl (serves_of_sending waits full)
    · obtain ⟨w', leads, polling, _⟩ := polls
      refine Or.inr ⟨fun held => ?_, (w', q), leads, polling⟩
      cases held with
      | producer waits => exact sending ⟨_, _, waits⟩
      | resending waits =>
        have member := (mem_waiting sound).mpr ⟨_, waits⟩
        rw [nobody] at member
        exact Finset.notMem_empty _ member
      | buffered listed =>
        change _ ∈ q.backend.buffer at listed
        rw [queued] at listed
        exact List.not_mem_nil listed
      | owned own =>
        have member := live_of_empty_handed inHand own
        rw [← all, nobody] at member
        exact Finset.notMem_empty _ member

/-- Nobody but the waiting tasks has a permit. -/
def Stuck (s : ChannelWorker Value) : Prop :=
  s.1.semaphore.free = 0 ∧ s.1.stage.permits = 0

/-- The loop is at no stage where it holds a permit. -/
theorem Stuck.not_holding (stuck : Stuck (w, q)) {stage : PollStage Value}
    (here : w.stage = stage) (holds : stage.permits = 1) : False := by
  rw [← here, stuck.2] at holds
  cases holds

/-- The loop gains no permit by its own steps. -/
theorem stuck_step (stuck : Stuck (w, q)) (loops : l.isLoop = true)
    (stepped : (machine worker concurrency capacity).step (w, q) l = some (w', q')) :
    Stuck (w', q') := by
  have both := step_parts stepped
  cases l with
  | noSignal =>
    cases WorkerRun.step_moves both.1 with
    | unsignalled here => exact ⟨stuck.1, rfl⟩
  | tryAcquire =>
    cases WorkerRun.step_moves both.1 with
    | acquired here taken =>
      rw [Semaphore.tryAcquire_none.mpr stuck.1] at taken
      cases taken
    | busy here taken => exact ⟨stuck.1, rfl⟩
  | dequeue =>
    rcases both with ⟨e, backend, taken, loop, _⟩ | ⟨loop, _⟩
    · cases WorkerRun.step_moves loop with
      | dequeued here => exact (stuck.not_holding here rfl).elim
    · cases WorkerRun.step_moves loop with
      | empty here => exact (stuck.not_holding here rfl).elim
  | spawn =>
    cases WorkerRun.step_moves both.1 with
    | spawned here => exact (stuck.not_holding here rfl).elim
  | dropPermit =>
    cases WorkerRun.step_moves both.1 with
    | dropped here => exact (stuck.not_holding here rfl).elim
  | wake =>
    cases WorkerRun.step_moves both.1 with
    | woken here => exact ⟨stuck.1, rfl⟩
  | _ => cases loops

theorem not_serves_of_deadlocked (sound : Sound concurrency (w, q))
    (dead : Deadlocked concurrency (w, q)) : ¬ Serves worker concurrency capacity (w, q) := by
  obtain ⟨all, full⟩ := dead
  obtain ⟨free, permits, waits⟩ := all_waiting sound all
  have stuck : Stuck (w, q) := ⟨free, permits⟩
  have gone : ∀ n job, w.tasks.lookup n = some job → q.tasks (taskId n) = none := by
    intro n job live
    have member : n ∈ waiting (w, q) := by
      rw [waits]
      exact FinMap.mem_keys_of_lookup live
    obtain ⟨e, sending⟩ := (mem_waiting sound).mp member
    exact ((sound.linked n).of_send sending).1
  have blocked : ∀ e, q.backend.send e = none := by
    intro e
    unfold ChannelBackend.send
    exact if_neg (Nat.not_lt.mpr full)
  intro serves
  cases serves with
  | @dequeue t u e loop step got =>
    have stuck' : Stuck t := loop.invariant
      (fun _ _ _ stuck loops stepped => stuck_step stuck loops stepped) stuck
    obtain ⟨w', q'⟩ := t
    obtain ⟨w'', q''⟩ := u
    rcases step_parts step with ⟨e', backend, taken, loop, _⟩ | ⟨loop, _⟩
    · cases WorkerRun.step_moves loop with
      | dequeued here => exact stuck'.not_holding here rfl
    · cases WorkerRun.step_moves loop with
      | empty here => exact stuck'.not_holding here rfl
  | @spawn t step =>
    obtain ⟨w', q'⟩ := t
    cases WorkerRun.step_moves (step_parts step).1 with
    | spawned here => exact stuck.not_holding here rfl
  | handler n returns =>
    obtain ⟨⟨w', q'⟩, step⟩ := returns (.ok ())
    cases WorkerRun.step_moves (step_parts step).1 with
    | returned live =>
      cases ChannelQueue.step_moves (step_parts step).2 with
      | returned working =>
        rw [gone n _ live] at working
        cases working
  | @acknowledge n t step =>
    obtain ⟨w', q'⟩ := t
    cases WorkerRun.step_moves (step_parts step).1 with
    | reported live =>
      cases ChannelQueue.step_moves (step_parts step).2 with
      | acknowledged working =>
        rw [gone n _ live] at working
        cases working
  | fail n fails =>
    obtain ⟨⟨w', q'⟩, step⟩ := fails 0
    have working : ∃ e outcome, q.tasks (taskId n) = some ⟨e, some outcome⟩ := by
      cases ChannelQueue.step_moves (step_parts step).1 with
      | resending live | failed live => exact ⟨_, _, live⟩
    obtain ⟨e, outcome, working⟩ := working
    have live := live_of_owned ((sound.linked n).of_task working).1 rfl
    rw [gone n _ live] at working
    cases working
  | @sent producer t step =>
    obtain ⟨w', q'⟩ := t
    cases ChannelQueue.step_moves (step_parts step).2 with
    | sent _ accepted =>
      rw [blocked] at accepted
      cases accepted
  | @resent n t step =>
    obtain ⟨w', q'⟩ := t
    cases ChannelQueue.step_moves (step_parts step).2 with
    | sent _ accepted =>
      rw [blocked] at accepted
      cases accepted

/-- In the circular wait the job of a waiting task is open. -/
theorem not_live_of_deadlocked {L : Ledger Place TaskId} (tracks : Tracks q L)
    (sound : Sound concurrency (w, q)) (positive : 1 ≤ concurrency)
    (dead : Deadlocked concurrency (w, q)) : ¬ Live worker concurrency capacity (w, q) := by
  obtain ⟨n, member⟩ : (waiting (w, q)).Nonempty := by
    rw [← Finset.card_pos, dead.1]
    exact positive
  obtain ⟨e, waits⟩ := (mem_waiting sound).mp member
  obtain ⟨m, k, account, _⟩ := tracks.at_sender waits
  have known : e.id ∈ q.submitted := by
    obtain ⟨budget, found, _⟩ := Option.map_eq_some_iff.mp (tracks.submitted account)
    exact Finmap.mem_of_lookup_eq_some found
  have unfinished : e.id ∉ q.finished := by
    rw [← Finmap.lookup_eq_none]
    apply (tracks.sole e.id).not_finished <;> simp [account]
  intro live
  rcases live e.id ⟨known, unfinished⟩ with serves | ⟨nobody, _⟩
  · exact not_serves_of_deadlocked sound dead serves
  · exact nobody (.resending waits)

theorem live_iff {s : ChannelWorker Value} (positive : 1 ≤ concurrency) (room : 1 ≤ capacity)
    (reach : (machine worker concurrency capacity).Reachable s) :
    Live worker concurrency capacity s ↔ ¬ Deadlocked concurrency s := by
  obtain ⟨w, q⟩ := s
  have sound := sound_of_reachable reach
  obtain ⟨L, tracks, _⟩ := (ChannelQueue.tracking worker capacity).reachable reach.together.2
  have kept : q.backend.capacity = capacity := capacity_kept reach.together.2
  constructor
  · intro live dead
    exact not_live_of_deadlocked tracks sound positive dead live
  · exact live_of_free sound positive (kept ▸ room)

/-- A run never blocks exactly when each of its steps is careful. -/
theorem never_deadlocks_iff (positive : 1 ≤ concurrency) (room : 1 ≤ capacity)
    (ls : List (Label Value)) (s : ChannelWorker Value) :
    ((machine worker concurrency capacity).Run
        (fun s _ => Live worker concurrency capacity s) ls s ∧
      Live worker concurrency capacity s) ↔
    (machine worker concurrency capacity).Run (Careful concurrency) ls s := by
  refine Machine.Run.throughout_iff ?_ (fun s l t reach live stepped => ?_) ls s
  · intro id open_
    exact absurd open_.1 Finmap.notMem_empty
  · rw [live_iff positive room (reach.next trivial stepped)]
    obtain ⟨L, tracks, _⟩ := (ChannelQueue.tracking worker capacity).reachable reach.together.2
    exact deadlocked_iff_careless tracks (sound_of_reachable reach)
      ((live_iff positive room reach).mp live) stepped

end Progress

section Heartbeats

/-- A job is dequeued with the only permit. -/
def taking (id : Uuid) (more : List (Label Nat)) : List (Label Nat) :=
  .enqueue 0 (heartbeat id 3) :: .sent 0 :: .noSignal :: .tryAcquire :: .dequeue :: .spawn :: more

/-- The first attempt fails with room in the channel, the second succeeds. -/
def retryingRun : List (Label Nat) :=
  taking 1 [.handlerReturns 0 (.error (.execution "no pulse")), .fail 0 0, .resent 0, .noSignal,
    .tryAcquire, .dequeue, .spawn, .handlerReturns 1 (.ok ()), .acknowledge 1]

theorem never_deadlocks_iff_retryingRun : ∃ s, (machine heartbeats 1 1).Run
      (fun s _ => Live heartbeats 1 1 s) retryingRun s ∧ Live heartbeats 1 1 s := by
  have sound : ∀ (s : ChannelWorker Nat) (l : Label Nat),
      decide (Careful 1 s l) = true → Careful 1 s l := fun s l => of_decide_eq_true
  obtain ⟨s, run, _⟩ := Machine.exists_run_of_replay (M := machine heartbeats 1 1) sound
    (p := fun _ => true) retryingRun (by decide +kernel)
  exact ⟨s, (never_deadlocks_iff (by decide) (by decide) retryingRun s).mpr run⟩

/-- Meanwhile another job fills the channel. -/
def blockingRun : List (Label Nat) :=
  taking 1 [.enqueue 0 (heartbeat 2 3), .sent 0,
    .handlerReturns 0 (.error (.execution "no pulse")), .fail 0 0]

theorem circular_wait_reachable :
    ¬ ∀ s : ChannelWorker Nat, (machine heartbeats 1 1).Reachable s → Live heartbeats 1 1 s := by
  intro claim
  obtain ⟨s, reach, dead⟩ := Machine.reachable_of_replay (M := machine heartbeats 1 1)
    (p := fun s => decide (Deadlocked 1 s)) blockingRun (by decide +kernel)
  exact (live_iff (by decide) (by decide) reach).mp (claim s reach) (of_decide_eq_true dead)

end Heartbeats

end ChannelWorker
end ApiBoilerplate
