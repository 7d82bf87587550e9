import ApiBoilerplate.Queue.ChannelTracking
import ApiBoilerplate.Queue.Drain

/-!
# A worker on the channel backend

The poll loop and the channel move together, up to the shutdown signal:
`dequeue` answers with what the channel holds, and a task whose `fail` sends the
job again keeps its permit until that send completes.
-/

namespace ApiBoilerplate

open Foundation

abbrev ChannelWorker (Value : Type) := WorkerRun Value × ChannelQueue Value

namespace ChannelWorker
variable {Value : Type}

inductive Label (Value : Type) where
  | enqueue (producer : Nat) (order : JobOrder Value)
  /-- The send of an `enqueue` completes. -/
  | sent (producer : Nat)
  /-- The future of an `enqueue` is dropped. -/
  | abandoned (producer : Nat)
  | noSignal
  | tryAcquire
  | dequeue
  | spawn
  | dropPermit
  | wake
  | handlerReturns (task : Nat) (result : Except QueueError Unit)
  | acknowledge (task : Nat)
  | fail (task : Nat) (now : DateTime)
  /-- The send of a `fail` completes, and with it the task. -/
  | resent (task : Nat)
  | panics (task : Nat)

/-- The steps of the poll loop itself. -/
def Label.isLoop : Label Value → Bool
  | .noSignal => true
  | .tryAcquire => true
  | .dequeue => true
  | .spawn => true
  | .dropPermit => true
  | .wake => true
  | _ => false

/-- The worker runs in one process. -/
def taskId (n : Nat) : TaskId := ⟨0, n⟩

section Step
variable (worker : WorkerConfig) (concurrency capacity : Nat)

/-- `fail` goes on to send the envelope again. -/
def requeues (q : ChannelQueue Value) (n : Nat) (now : DateTime) : Bool :=
  (ChannelQueue.step worker q (.fail (taskId n) now)).any
    fun after => (after.sends (.task (taskId n))).isSome

/-- The step each of the two makes. -/
def parts (s : ChannelWorker Value) :
    Label Value → Option (WorkerLabel Value) × Option (ChannelQueue.Label Value)
  | .enqueue producer order => (none, some (.enqueue producer order))
  | .sent producer => (none, some (.sendCompletes (.producer producer)))
  | .abandoned producer => (none, some (.cancel (.producer producer)))
  | .noSignal => (some (.tryRecv (.error .empty)), none)
  | .tryAcquire => (some .tryAcquire, none)
  | .dequeue =>
    match s.2.backend.dequeue with
    | some (envelope, _) =>
      (some (.dequeue (.ok (some envelope))), some (.dequeue (taskId s.1.handed.length)))
    | none => (some (.dequeue (.ok none)), none)
  | .spawn => (some .spawn, none)
  | .dropPermit => (some .dropPermit, none)
  | .wake => (some .wake, none)
  | .handlerReturns task result =>
    (some (.handlerReturns task result), some (.handlerReturns (taskId task) result))
  | .acknowledge task => (some (.reported task (.ok ())), some (.acknowledge (taskId task)))
  | .fail task now =>
    if requeues worker s.2 task now then (none, some (.fail (taskId task) now))
    else (some (.reported task (.ok ())), some (.fail (taskId task) now))
  | .resent task =>
    (some (.reported task (.ok ())), some (.sendCompletes (.task (taskId task))))
  | .panics task => (some (.panics task), some (.vanish (taskId task)))

def machine : Machine (ChannelWorker Value) (Label Value) :=
  (WorkerRun.machine worker concurrency).together (ChannelQueue.machine worker capacity)
    (parts worker)

end Step

theorem requeues_eq {worker : WorkerConfig} {q q' : ChannelQueue Value} {n : Nat} {now : DateTime}
    (failed : ChannelQueue.step worker q (.fail (taskId n) now) = some q') :
    requeues worker q n now = (q'.sends (.task (taskId n))).isSome := by
  rw [requeues, failed]
  rfl

/-- What the two do in one step. -/
theorem step_parts {worker : WorkerConfig} {concurrency capacity : Nat} {w w' : WorkerRun Value}
    {q q' : ChannelQueue Value} {l : Label Value}
    (stepped : (machine worker concurrency capacity).step (w, q) l = some (w', q')) :
    match l with
    | .enqueue producer order =>
      w' = w ∧ ChannelQueue.step worker q (.enqueue producer order) = some q'
    | .sent producer =>
      w' = w ∧ ChannelQueue.step worker q (.sendCompletes (.producer producer)) = some q'
    | .abandoned producer =>
      w' = w ∧ ChannelQueue.step worker q (.cancel (.producer producer)) = some q'
    | .noSignal =>
      WorkerRun.step worker concurrency w (.tryRecv (.error .empty)) = some w' ∧ q' = q
    | .tryAcquire => WorkerRun.step worker concurrency w .tryAcquire = some w' ∧ q' = q
    | .dequeue =>
      (∃ e backend, q.backend.dequeue = some (e, backend) ∧
        WorkerRun.step worker concurrency w (.dequeue (.ok (some e))) = some w' ∧
        ChannelQueue.step worker q (.dequeue (taskId w.handed.length)) = some q') ∨
      (WorkerRun.step worker concurrency w (.dequeue (.ok none)) = some w' ∧ q' = q)
    | .spawn => WorkerRun.step worker concurrency w .spawn = some w' ∧ q' = q
    | .dropPermit => WorkerRun.step worker concurrency w .dropPermit = some w' ∧ q' = q
    | .wake => WorkerRun.step worker concurrency w .wake = some w' ∧ q' = q
    | .handlerReturns n result =>
      WorkerRun.step worker concurrency w (.handlerReturns n result) = some w' ∧
        ChannelQueue.step worker q (.handlerReturns (taskId n) result) = some q'
    | .acknowledge n =>
      WorkerRun.step worker concurrency w (.reported n (.ok ())) = some w' ∧
        ChannelQueue.step worker q (.acknowledge (taskId n)) = some q'
    | .fail n now => ChannelQueue.step worker q (.fail (taskId n) now) = some q' ∧
      ((requeues worker q n now = true ∧ w' = w) ∨ (requeues worker q n now = false ∧
        WorkerRun.step worker concurrency w (.reported n (.ok ())) = some w'))
    | .resent n =>
      WorkerRun.step worker concurrency w (.reported n (.ok ())) = some w' ∧
        ChannelQueue.step worker q (.sendCompletes (.task (taskId n))) = some q'
    | .panics n =>
      WorkerRun.step worker concurrency w (.panics n) = some w' ∧
        ChannelQueue.step worker q (.vanish (taskId n)) = some q' := by
  obtain ⟨moved, moved'⟩ := Machine.together_step.mp stepped
  cases l with
  | enqueue | sent | abandoned => exact ⟨(Option.some.inj moved).symm, moved'⟩
  | noSignal | tryAcquire | spawn | dropPermit | wake =>
    exact ⟨moved, (Option.some.inj moved').symm⟩
  | handlerReturns | acknowledge | resent | panics => exact ⟨moved, moved'⟩
  | dequeue =>
    cases taken : q.backend.dequeue with
    | none =>
      simp only [parts, taken] at moved moved'
      exact Or.inr ⟨moved, (Option.some.inj moved').symm⟩
    | some r =>
      simp only [parts, taken] at moved moved'
      exact Or.inl ⟨r.1, r.2, rfl, moved, moved'⟩
  | fail n now =>
    cases again : requeues worker q n now with
    | true =>
      simp only [parts, again] at moved moved'
      exact ⟨moved', Or.inl ⟨again, (Option.some.inj moved).symm⟩⟩
    | false =>
      simp only [parts, again] at moved moved'
      exact ⟨moved', Or.inr ⟨again, moved⟩⟩

/-- The tasks that have not ended, with the one about to be spawned. -/
def owned (w : WorkerRun Value) (n : Nat) : Option (JobTask Value) :=
  match w.stage with
  | .dispatching envelope =>
    if n = w.handed.length then some ⟨envelope, none⟩ else w.tasks.lookup n
  | _ => w.tasks.lookup n

/-- How the queue sees a task of the worker: it has the job, or it waits in the
send of its `fail`. -/
inductive Agree : Option (JobTask Value) → Option (JobTask Value) → Option (JobEnvelope Value) →
    Prop where
  | absent : Agree none none none
  | working (job : JobTask Value) : Agree (some job) (some job) none
  | resending {job : JobTask Value} {outcome : Except QueueError Unit}
      (decided : job.result = some outcome) (e : JobEnvelope Value) : Agree (some job) none (some e)

namespace Agree
variable {own task : Option (JobTask Value)} {sending : Option (JobEnvelope Value)}
  {job : JobTask Value} {e : JobEnvelope Value}

theorem of_task (agree : Agree own task sending) (live : task = some job) :
    own = some job ∧ sending = none := by
  cases agree with
  | absent => cases live
  | working job' => exact ⟨live, rfl⟩
  | resending decided e => cases live

theorem of_send (agree : Agree own task sending) (waits : sending = some e) :
    task = none ∧ ∃ job outcome, own = some job ∧ job.result = some outcome := by
  cases agree with
  | absent => cases waits
  | working job' => cases waits
  | @resending job outcome decided e => exact ⟨rfl, job, outcome, rfl, decided⟩

theorem of_absent (agree : Agree own task sending) (gone : own = none) :
    task = none ∧ sending = none := by
  cases agree with
  | absent => exact ⟨rfl, rfl⟩
  | working job' => cases gone
  | resending decided e => cases gone

end Agree

def Linked (s : ChannelWorker Value) : Prop :=
  ∀ n, Agree (owned s.1 n) (s.2.tasks (taskId n)) (s.2.sends (.task (taskId n)))

section Owned
variable {worker : WorkerConfig} {concurrency : Nat} {w w' : WorkerRun Value}
  {l : WorkerLabel Value}

theorem owned_of_live (accounted : w.Accounted concurrency) {n : Nat} {job : JobTask Value}
    (live : w.tasks.lookup n = some job) : owned w n = some job := by
  unfold owned
  split
  · split
    · rename_i same
      rw [same, accounted.fresh] at live
      cases live
    · exact live
  · exact live

theorem live_of_owned {n : Nat} {job : JobTask Value} (own : owned w n = some job)
    {outcome : Except QueueError Unit} (decided : job.result = some outcome) :
    w.tasks.lookup n = some job := by
  unfold owned at own
  split at own
  · split at own
    · obtain rfl := Option.some.inj own
      cases decided
    · exact own
  · exact own

/-- A live task is replaced, or ends. -/
theorem owned_update (accounted : w.Accounted concurrency) {n : Nat} {job : JobTask Value}
    (live : w.tasks.lookup n = some job) (semaphore : Semaphore) (a : Option (JobTask Value))
    {tasks : FinMap Nat (JobTask Value)}
    (changed : ∀ k, tasks.lookup k = if k = n then a else w.tasks.lookup k) :
    owned { w with semaphore := semaphore, tasks := tasks } = Function.update (owned w) n a := by
  have other : n ≠ w.handed.length := by
    rintro rfl
    rw [accounted.fresh] at live
    cases live
  funext k
  rw [Function.update_apply]
  unfold owned
  dsimp only
  rw [changed]
  by_cases same : k = n
  · subst same
    split
    · simp [other]
    · simp
  · simp [same]

/-- A step changes the tasks at one number at most. -/
theorem owned_step (accounted : w.Accounted concurrency)
    (stepped : WorkerRun.step worker concurrency w l = some w') :
    match l with
    | .dequeue (.ok (some e)) =>
      owned w' = Function.update (owned w) w.handed.length (some ⟨e, none⟩)
    | .handlerReturns n result => ∃ e, owned w n = some ⟨e, none⟩ ∧
      owned w' = Function.update (owned w) n
        (some ⟨e, some (Worker.outcome worker.registered e.jobType result)⟩)
    | .reported n _ => owned w' = Function.update (owned w) n none
    | .panics n => owned w' = Function.update (owned w) n none
    | _ => owned w' = owned w := by
  cases WorkerRun.step_moves stepped with
  | signalled here | unsignalled here | acquired here | busy here | empty here | failed here
  | dropped here | woken here | drained here =>
    funext k
    simp [owned, here]
  | dequeued here envelope =>
    funext k
    rw [Function.update_apply]
    simp [owned, here]
  | spawned here =>
    funext k
    simp [owned, here, FinMap.lookup_insert_eq]
  | @returned n e live result outcome decided =>
    refine ⟨e, owned_of_live accounted live, ?_⟩
    rw [← decided]
    exact owned_update accounted live _ _ (fun k => FinMap.lookup_insert_eq _ _ _ _)
  | reported live reply | panicked live =>
    exact owned_update accounted live _ _ (fun k => FinMap.lookup_erase_eq _ _ _)

end Owned

section Linked
variable {worker : WorkerConfig} {concurrency capacity : Nat} {s t : ChannelWorker Value}
  {w w' : WorkerRun Value} {q q' : ChannelQueue Value} {l : Label Value}

/-- The two sides change at one number, and agree there. -/
theorem Linked.at (linked : Linked s) (k : Nat)
    (own : ∀ n, n ≠ k → owned t.1 n = owned s.1 n)
    (tasks : ∀ n, n ≠ k → t.2.tasks (taskId n) = s.2.tasks (taskId n))
    (sends : ∀ n, n ≠ k → t.2.sends (.task (taskId n)) = s.2.sends (.task (taskId n)))
    (here : Agree (owned t.1 k) (t.2.tasks (taskId k)) (t.2.sends (.task (taskId k)))) :
    Linked t := by
  intro n
  by_cases same : n = k
  · rw [same]
    exact here
  · rw [own n same, tasks n same, sends n same]
    exact linked n

/-- A task ends on both sides. -/
theorem Linked.ends (linked : Linked s) {k : Nat}
    (own : owned t.1 = Function.update (owned s.1) k none)
    (tasks : ∀ n, n ≠ k → t.2.tasks (taskId n) = s.2.tasks (taskId n))
    (sends : ∀ n, n ≠ k → t.2.sends (.task (taskId n)) = s.2.sends (.task (taskId n)))
    (ended : t.2.tasks (taskId k) = none) (idle : t.2.sends (.task (taskId k)) = none) :
    Linked t := by
  refine linked.at k (fun n other => ?_) tasks sends ?_
  · rw [own, Function.update_of_ne other]
  · rw [own, Function.update_self, ended, idle]
    exact .absent

theorem taskId_ne {n k : Nat} (other : n ≠ k) : taskId n ≠ taskId k := by
  intro same
  exact other (congrArg TaskId.number same)

/-- The queue changes nothing about the tasks. -/
theorem Linked.same (linked : Linked s) (own : owned t.1 = owned s.1)
    (tasks : t.2.tasks = s.2.tasks) (sends : ∀ id, t.2.sends (.task id) = s.2.sends (.task id)) :
    Linked t := by
  intro n
  rw [own, tasks, sends]
  exact linked n

theorem linked_step (accounted : w.Accounted concurrency) (linked : Linked (w, q))
    (stepped : (machine worker concurrency capacity).step (w, q) l = some (w', q')) :
    Linked (w', q') := by
  have both := step_parts stepped
  cases l with
  | enqueue producer order =>
    obtain ⟨rfl, queue⟩ := both
    cases ChannelQueue.step_moves queue with
    | enqueued fresh idle => exact linked.same rfl rfl (fun id => by simp)
  | sent producer =>
    obtain ⟨rfl, queue⟩ := both
    cases ChannelQueue.step_moves queue with
    | sent waits accepted => exact linked.same rfl rfl (fun id => by simp)
  | abandoned producer =>
    obtain ⟨rfl, queue⟩ := both
    cases ChannelQueue.step_moves queue with
    | cancelled waits => exact linked.same rfl rfl (fun id => by simp)
  | noSignal | tryAcquire | spawn | dropPermit | wake =>
    obtain ⟨loop, rfl⟩ := both
    exact linked.same (owned_step accounted loop) rfl (fun _ => rfl)
  | dequeue =>
    rcases both with ⟨e, backend, taken, loop, queue⟩ | ⟨loop, rfl⟩
    · have own := owned_step accounted loop
      cases ChannelQueue.step_moves queue with
      | dequeued vacant idle taken' =>
        rw [taken] at taken'
        obtain ⟨rfl, rfl⟩ := Prod.mk.inj (Option.some.inj taken')
        refine linked.at w.handed.length (fun n other => ?_) (fun n other => ?_)
          (fun n other => rfl) ?_
        · rw [own, Function.update_of_ne other]
        · simp [taskId_ne other]
        · simp only [own, Function.update_self, idle]
          exact .working _
    · exact linked.same (owned_step accounted loop) rfl (fun _ => rfl)
  | handlerReturns n result =>
    obtain ⟨e, before, own⟩ := owned_step accounted both.1
    cases ChannelQueue.step_moves both.2 with
    | returned live result decided =>
      obtain ⟨same, idle⟩ := (linked n).of_task live
      obtain rfl : e = _ := congrArg JobTask.envelope (Option.some.inj (before.symm.trans same))
      refine linked.at n (fun k other => ?_) (fun k other => ?_) (fun k other => rfl) ?_
      · rw [own, Function.update_of_ne other]
      · simp [taskId_ne other]
      · simp only [own, Function.update_self, decided]
        rw [idle]
        exact .working _
  | acknowledge n =>
    have own := owned_step accounted both.1
    cases ChannelQueue.step_moves both.2 with
    | acknowledged live =>
      refine linked.ends own (fun k other => ?_) (fun k other => rfl) ?_ ((linked n).of_task live).2
      · simp [taskId_ne other]
      · simp
  | fail n now =>
    obtain ⟨queue, ⟨again, rfl⟩ | ⟨again, loop⟩⟩ := both
    · cases ChannelQueue.step_moves queue with
      | resending live now half =>
        refine linked.at n (fun k other => rfl) (fun k other => ?_) (fun k other => ?_) ?_
        · simp [taskId_ne other]
        · simp [taskId_ne other]
        · simp only [((linked n).of_task live).1, Function.update_self]
          exact .resending rfl _
      | failed live now half =>
        have idle : q.sends (.task (taskId n)) = none := ((linked n).of_task live).2
        rw [requeues_eq queue] at again
        change (q.sends (.task (taskId n))).isSome = true at again
        rw [idle] at again
        cases again
    · have own := owned_step accounted loop
      cases ChannelQueue.step_moves queue with
      | resending live now half => simp [requeues_eq queue] at again
      | failed live now half =>
        refine linked.ends own (fun k other => ?_) (fun k other => rfl) ?_
          ((linked n).of_task live).2
        · simp [taskId_ne other]
        · simp
  | resent n =>
    have own := owned_step accounted both.1
    cases ChannelQueue.step_moves both.2 with
    | sent waits accepted =>
      refine linked.ends own (fun k other => rfl) (fun k other => ?_)
        ((linked n).of_send waits).1 ?_
      · simp [taskId_ne other]
      · simp
  | panics n =>
    have own := owned_step accounted both.1
    cases ChannelQueue.step_moves both.2 with
    | vanished live =>
      refine linked.ends own (fun k other => ?_) (fun k other => rfl) ?_ ((linked n).of_task live).2
      · simp [taskId_ne other]
      · simp

end Linked

end ChannelWorker
end ApiBoilerplate
