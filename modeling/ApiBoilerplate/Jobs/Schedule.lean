import ApiBoilerplate.Jobs.Mailing
import ApiBoilerplate.Scheduler.FiresOnce

/-!
# A schedule before a queue

In one process the scheduler goes through its jobs one call at a time, while other callers,
the queue and its workers go on. To the queue it is one more caller; without the queue it
is the cron scheduler. From the clock to the handler, an occurrence is therefore executed
successfully at most once, and only after the clock was read at or past it.
-/

namespace ApiBoilerplate

open Foundation
open Lifecycle (View Tracking Ledger)

namespace Scheduler

section Passes
variable {Schedule Value : Type} {after : Schedule → Instant → Option Instant}
  {dispatcher : Dispatcher Value} {now : Instant} {answers answers' : Nat → Answer Value}

theorem passFrom_append (position : Nat) (done left : List (ScheduledJob Schedule)) :
    (passFrom after dispatcher now answers position (done ++ left)).2 =
      (passFrom after dispatcher now answers position done).2 ++
        (passFrom after dispatcher now answers (position + done.length) left).2 := by
  induction done generalizing position with
  | nil => rfl
  | cons job jobs ih =>
    have further : position + (job :: jobs).length = position + 1 + jobs.length := by
      rw [List.length_cons]
      omega
    rw [further, List.cons_append]
    by_cases early : now < job.nextRun
    · simp only [passFrom, if_pos early]
      exact ih (position + 1)
    · simp only [passFrom, if_neg early]
      rw [List.cons_append, ih (position + 1)]

/-- Only what the environment answers to the jobs of the pass matters. -/
theorem passFrom_congr {position : Nat} {jobs : List (ScheduledJob Schedule)}
    (same : ∀ i, position ≤ i → i < position + jobs.length → answers i = answers' i) :
    (passFrom after dispatcher now answers position jobs).2 =
      (passFrom after dispatcher now answers' position jobs).2 := by
  induction jobs generalizing position with
  | nil => rfl
  | cons job jobs ih =>
    rw [List.length_cons] at same
    have rest := @ih (position + 1) fun i low high => same i (by omega) (by omega)
    have here := same position (by omega) (by omega)
    by_cases early : now < job.nextRun
    · simp only [passFrom, if_pos early]
      exact rest
    · simp only [passFrom, if_neg early]
      rw [here, rest]

end Passes

namespace Dispatch
variable {Value : Type}

/-- The id under which a job was enqueued, if one was. -/
def enqueued (d : Dispatch Value) : Option Uuid :=
  match d.logged with
  | .dispatched envelope => some envelope.id
  | _ => none

/-- The occurrence is one of those that the dispatch stands for. -/
def Serves (d : Dispatch Value) (job : Nat) (o : Instant) : Prop :=
  d.job = job ∧ d.served ≤ o ∧ o ≤ d.now

instance (d : Dispatch Value) (job : Nat) (o : Instant) : Decidable (d.Serves job o) :=
  inferInstanceAs (Decidable (_ ∧ _))

end Dispatch
end Scheduler

namespace Jobs
open Scheduler (Instant ScheduledJob)

structure CronJob (Schedule : Type) where
  entry : ScheduledPayload Schedule
  nextRun : Instant

def CronJob.scheduled {Schedule : Type} (job : CronJob Schedule) : ScheduledJob Schedule :=
  ⟨job.entry.toCronEntry, job.nextRun⟩

/-- The queue, with the accepted calls and the executions. -/
abbrev Queued (σ J Context : Type) :=
  (σ × List (Dispatch J × JobOrder Json)) × Transport.Done Context

structure Process (σ J Context Schedule : Type) where
  queue : Queued σ J Context
  jobs : List (CronJob Schedule)
  /-- The clock reading of the pass that is going on, and the next job in it. -/
  turn : Option (Instant × Nat)
  firings : List (Scheduler.Dispatch Json)
  stopped : Bool

inductive ProcessLabel (J Context ℓ π : Type) where
  /-- Whatever else the process does. -/
  | queue (l : AppLabel J Context ℓ π)
  /-- The scheduler has slept and reads the clock. -/
  | wake (now : Instant)
  /-- The next job of the pass, whose payload has a clock reading of its own; what a refused
  call is told. -/
  | visit (stamp : Stamp) (clock : DateTime) (refused : QueueError)
  | shutdown

section Process
variable {σ ℓ π J Context Schedule ρ Place : Type}

section Steps
variable (T : Transport σ ℓ π) (app : JobApp J Context) (port : π)
  (after : Schedule → Instant → Option Instant)

/-- `dispatch_and_log`. The loop may go on while its call still waits for room, so there are
more runs here than the program has. -/
def dispatchAndLog (stamp : Stamp) (clock : DateTime) (refused : QueueError)
    (queue : Queued σ J Context) (entry : ScheduledPayload Schedule) :
    Option (Queued σ J Context × Scheduler.Logged Json) :=
  match entry.buildPayload clock with
  | .error e => some (queue, .payloadFailed e)
  | .ok value =>
    match app.order stamp (.dispatchValue value) with
    | .error e => some (queue, .dispatchFailed e)
    | .ok order =>
      ((T.executing app).step queue (.call port stamp (.dispatchValue value))).map fun queue' =>
        (queue', if T.accepts queue.1.1 order then .dispatched order.envelope
          else .dispatchFailed refused)

def Process.step (p : Process σ J Context Schedule) :
    ProcessLabel J Context ℓ π → Option (Process σ J Context Schedule)
  | .queue l => ((T.executing app).step p.queue l).map fun queue => { p with queue := queue }
  | .wake now =>
    if p.turn.isSome || p.stopped || p.jobs.isEmpty then none
    else some { p with turn := some (now, 0) }
  | .visit stamp clock refused =>
    match p.turn with
    | none => none
    | some (now, i) =>
      match p.jobs[i]? with
      | none => some { p with turn := none }
      | some job =>
        if now < job.nextRun then some { p with turn := some (now, i + 1) }
        else
          (dispatchAndLog T app port stamp clock refused p.queue job.entry).map fun fired =>
            { p with
              queue := fired.1
              jobs := p.jobs.set i
                { job with nextRun := Scheduler.nextRun after job.entry.schedule now }
              turn := some (now, i + 1)
              firings := p.firings ++ [⟨i, job.nextRun, now, fired.2⟩] }
  | .shutdown => if p.turn.isSome || p.stopped then none else some { p with stopped := true }

def process (start : Instant) (entries : List (ScheduledPayload Schedule)) :
    Machine (Process σ J Context Schedule) (ProcessLabel J Context ℓ π) where
  init :=
    { queue := (T.executing app).init
      jobs := entries.filterMap fun entry =>
        (after entry.schedule start).map fun nextRun => ⟨entry, nextRun⟩
      turn := none
      firings := []
      stopped := false }
  step := Process.step T app port after

end Steps

section Scheduling
variable {T : Transport σ ℓ π} {app : JobApp J Context} {port : π}
  {after : Schedule → Instant → Option Instant} {start : Instant}
  {entries : List (ScheduledPayload Schedule)} {p q : Process σ J Context Schedule}
  {s : Scheduler.State Schedule Json} {d : Scheduler.Dispatcher Json} {now : Instant} {i : Nat}
  {answers : Nat → Scheduler.Answer Json} {stamp : Stamp} {clock : DateTime}
  {refused : QueueError} {queue queue' : Queued σ J Context} {entry : ScheduledPayload Schedule}
  {logged : Scheduler.Logged Json}

/-- The dispatcher as the cron scheduler knows it. -/
def cronDispatcher (app : JobApp J Context) : Scheduler.Dispatcher Json :=
  ⟨app.dispatcher.defaultMaxAttempts, Json.typeField⟩

theorem cron_extractType (value : Json) :
    Scheduler.extractType (cronDispatcher app) value = Dispatcher.extractType value := rfl

theorem cron_dispatchValue (a : Scheduler.Answer Json) (value : Json) :
    Scheduler.dispatchValue (cronDispatcher app) a value = (do
      let order ← app.order ⟨a.id, a.created⟩ (.dispatchValue value)
      a.enqueued
      return order.envelope) := by
  change _ = (app.dispatcher.dispatchValue ⟨a.id, a.created⟩ value >>= _)
  rw [Scheduler.dispatchValue, Dispatcher.dispatchValue, cron_extractType]
  cases Dispatcher.extractType value with
  | error e => rfl
  | ok jobType => cases a.enqueued <;> rfl

/-- What is logged is what the cron scheduler logs of some answers. -/
theorem dispatchAndLog_logged
    (fired : dispatchAndLog T app port stamp clock refused queue entry = some (queue', logged)) :
    ∃ a, logged = Scheduler.dispatchAndLog (cronDispatcher app) a := by
  unfold dispatchAndLog at fired
  split at fired
  · rename_i e built
    obtain ⟨-, rfl⟩ := Prod.mk.inj (Option.some.inj fired)
    exact ⟨⟨.error e, stamp.id, stamp.now, .ok ()⟩, rfl⟩
  · rename_i value built
    split at fired
    · rename_i e failed
      obtain ⟨-, rfl⟩ := Prod.mk.inj (Option.some.inj fired)
      refine ⟨⟨.ok value, stamp.id, stamp.now, .ok ()⟩, ?_⟩
      simp only [Scheduler.dispatchAndLog, cron_dispatchValue, failed]
      rfl
    · rename_i order ordered
      obtain ⟨_, _, both⟩ := Option.map_eq_some_iff.mp fired
      obtain ⟨-, rfl⟩ := Prod.mk.inj both
      refine ⟨⟨.ok value, stamp.id, stamp.now,
        if T.accepts queue.1.1 order then .ok () else .error refused⟩, ?_⟩
      simp only [Scheduler.dispatchAndLog, cron_dispatchValue, ordered]
      cases T.accepts queue.1.1 order <;> rfl

variable (after d) in
/-- The scheduler amid a pass that the cron scheduler makes from `s`: the jobs before `i` are
through with it. -/
structure Passing (now : Instant) (i : Nat) (answers : Nat → Scheduler.Answer Json)
    (p : Process σ J Context Schedule) (s : Scheduler.State Schedule Json) : Prop where
  within : i ≤ s.jobs.length
  going : ¬ (s.stopped ∨ s.jobs.isEmpty)
  jobs : p.jobs.map CronJob.scheduled =
    (s.jobs.take i).map (Scheduler.advanced after now) ++ s.jobs.drop i
  firings : p.firings =
    s.dispatches ++ (Scheduler.passFrom after d now answers 0 (s.jobs.take i)).2

variable (after d) in
/-- The scheduler of the process is where the cron scheduler is, or amid its next pass. -/
structure Follows (p : Process σ J Context Schedule) (s : Scheduler.State Schedule Json) :
    Prop where
  stopped : p.stopped = s.stopped
  asleep : p.turn = none → p.jobs.map CronJob.scheduled = s.jobs ∧ p.firings = s.dispatches
  awake : ∀ now i, p.turn = some (now, i) → ∃ answers, Passing after d now i answers p s

namespace Passing
variable {job : CronJob Schedule}

theorem taken (passing : Passing after d now i answers p s) : (s.jobs.take i).length = i := by
  rw [List.length_take, Nat.min_eq_left passing.within]

theorem ahead (passing : Passing after d now i answers p s) :
    (p.jobs.map CronJob.scheduled)[i]? = s.jobs[i]? := by
  have before : ((s.jobs.take i).map (Scheduler.advanced after now)).length = i := by
    rw [List.length_map, passing.taken]
  rw [passing.jobs, List.getElem?_append_right (Nat.le_of_eq before), before, Nat.sub_self,
    List.getElem?_drop, Nat.add_zero]

/-- The next job of the pass. -/
theorem next (passing : Passing after d now i answers p s) (found : p.jobs[i]? = some job) :
    i < s.jobs.length ∧ s.jobs.take (i + 1) = s.jobs.take i ++ [job.scheduled] ∧
      s.jobs.drop i = job.scheduled :: s.jobs.drop (i + 1) := by
  have listed : s.jobs[i]? = some job.scheduled := by
    rw [← passing.ahead, List.getElem?_map, found]
    rfl
  refine ⟨(List.getElem?_eq_some_iff.mp listed).1, ?_, ?_⟩
  · rw [List.take_add_one, listed]
    rfl
  · rw [List.drop_eq_getElem?_toList_append, listed]
    rfl

/-- Through with a job that is not due. -/
theorem early (passing : Passing after d now i answers p s) (found : p.jobs[i]? = some job)
    (early : now < job.nextRun) : Passing after d now (i + 1) answers p s := by
  obtain ⟨within, taken, dropped⟩ := passing.next found
  have stays : Scheduler.advanced after now job.scheduled = job.scheduled := if_pos early
  constructor
  · exact within
  · exact passing.going
  · rw [passing.jobs, dropped, taken, List.map_append, List.map_singleton, stays,
      List.append_assoc]
    rfl
  · rw [passing.firings, taken, Scheduler.passFrom_append]
    simp only [Scheduler.passFrom]
    rw [if_pos (show now < job.scheduled.nextRun from early), List.append_nil]

/-- Through with a job that is dispatched. -/
theorem late (passing : Passing after d now i answers p s) (found : p.jobs[i]? = some job)
    (late : ¬ now < job.nextRun) (a : Scheduler.Answer Json) (queue : Queued σ J Context)
    (turn : Option (Instant × Nat)) :
    Passing after d now (i + 1) (Function.update answers i a)
      { p with
        queue := queue
        jobs := p.jobs.set i
          { job with nextRun := Scheduler.nextRun after job.entry.schedule now }
        turn := turn
        firings := p.firings ++ [⟨i, job.nextRun, now, Scheduler.dispatchAndLog d a⟩] } s := by
  obtain ⟨within, taken, dropped⟩ := passing.next found
  constructor
  · exact within
  · exact passing.going
  · have moved : Scheduler.advanced after now job.scheduled = CronJob.scheduled
        { job with nextRun := Scheduler.nextRun after job.entry.schedule now } := if_neg late
    have length : ((s.jobs.take i).map (Scheduler.advanced after now)).length = i := by
      rw [List.length_map, passing.taken]
    rw [List.map_set, passing.jobs, dropped, taken, List.map_append, List.map_singleton, moved,
      List.set_append_right _ _ (Nat.le_of_eq length), length, Nat.sub_self, List.append_assoc]
    rfl
  · have same : (Scheduler.passFrom after d now answers 0 (s.jobs.take i)).2 =
        (Scheduler.passFrom after d now (Function.update answers i a) 0 (s.jobs.take i)).2 := by
      refine Scheduler.passFrom_congr fun j _ before => ?_
      rw [passing.taken, Nat.zero_add] at before
      exact (Function.update_of_ne (Nat.ne_of_lt before) ..).symm
    change p.firings ++ _ = _
    rw [passing.firings, same, taken, Scheduler.passFrom_append, passing.taken, Nat.zero_add]
    simp only [Scheduler.passFrom]
    rw [if_neg (show ¬ now < job.scheduled.nextRun from late), Function.update_self,
      List.append_assoc]
    rfl

end Passing

/-- The queue takes a step of its own or is called, if anything happens to it. -/
theorem dispatchAndLog_queue
    (fired : dispatchAndLog T app port stamp clock refused queue entry = some (queue', logged)) :
    queue' = queue ∨ ∃ l, (T.executing app).step queue l = some queue' := by
  unfold dispatchAndLog at fired
  split at fired
  · exact Or.inl (Prod.mk.inj (Option.some.inj fired)).1.symm
  · split at fired
    · exact Or.inl (Prod.mk.inj (Option.some.inj fired)).1.symm
    · obtain ⟨_, moved, both⟩ := Option.map_eq_some_iff.mp fired
      obtain ⟨rfl, -⟩ := Prod.mk.inj both
      exact Or.inr ⟨_, moved⟩

variable (T app port after p) in
/-- What a step of the process may do. -/
inductive Process.Moves : Process σ J Context Schedule → Prop where
  | queue {l : AppLabel J Context ℓ π} {queue : Queued σ J Context} :
    (T.executing app).step p.queue l = some queue → Moves { p with queue := queue }
  | wakes (now : Instant) : p.turn = none → p.stopped = false → p.jobs.isEmpty = false →
    Moves { p with turn := some (now, 0) }
  | ended {now : Instant} {i : Nat} : p.turn = some (now, i) → p.jobs[i]? = none →
    Moves { p with turn := none }
  | early {now : Instant} {i : Nat} {job : CronJob Schedule} : p.turn = some (now, i) →
    p.jobs[i]? = some job → now < job.nextRun → Moves { p with turn := some (now, i + 1) }
  | fired {now : Instant} {i : Nat} {job : CronJob Schedule} {stamp : Stamp} {clock : DateTime}
      {refused : QueueError} {queue : Queued σ J Context} {logged : Scheduler.Logged Json} :
    p.turn = some (now, i) → p.jobs[i]? = some job → ¬ now < job.nextRun →
    dispatchAndLog T app port stamp clock refused p.queue job.entry = some (queue, logged) →
    Moves { p with
      queue := queue
      jobs := p.jobs.set i { job with nextRun := Scheduler.nextRun after job.entry.schedule now }
      turn := some (now, i + 1)
      firings := p.firings ++ [⟨i, job.nextRun, now, logged⟩] }
  | stops : p.turn = none → p.stopped = false → Moves { p with stopped := true }

theorem Process.moves {l : ProcessLabel J Context ℓ π}
    (stepped : Process.step T app port after p l = some q) :
    Process.Moves T app port after p q := by
  cases l with
  | queue l =>
    obtain ⟨queue, moved, rfl⟩ := Option.map_eq_some_iff.mp stepped
    exact .queue moved
  | wake now =>
    simp only [Process.step] at stepped
    split at stepped
    · cases stepped
    · rename_i idle
      obtain rfl := Option.some.inj stepped
      simp only [Bool.or_eq_true, Option.isSome_iff_ne_none, not_or, not_not,
        Bool.not_eq_true] at idle
      exact .wakes now idle.1.1 idle.1.2 idle.2
  | visit stamp clock refused =>
    simp only [Process.step] at stepped
    split at stepped
    · cases stepped
    · rename_i now i turn
      split at stepped
      · rename_i nothing
        cases stepped
        exact .ended turn nothing
      · rename_i job found
        split at stepped
        · rename_i early
          cases stepped
          exact .early turn found early
        · rename_i late
          obtain ⟨⟨queue, logged⟩, fired, rfl⟩ := Option.map_eq_some_iff.mp stepped
          exact .fired turn found late fired
  | shutdown =>
    simp only [Process.step] at stepped
    split at stepped
    · cases stepped
    · rename_i idle
      obtain rfl := Option.some.inj stepped
      simp only [Bool.or_eq_true, Option.isSome_iff_ne_none, not_or, not_not,
        Bool.not_eq_true] at idle
      exact .stops idle.1 idle.2

theorem Process.Moves.queued (moves : Process.Moves T app port after p q) :
    q.queue = p.queue ∨ ∃ l, (T.executing app).step p.queue l = some q.queue := by
  cases moves with
  | queue moved => exact Or.inr ⟨_, moved⟩
  | fired _ _ _ fired => exact dispatchAndLog_queue fired
  | _ => exact Or.inl rfl

/-- A step of the process is one of the cron scheduler, or none. -/
theorem Process.Moves.follows (moves : Process.Moves T app port after p q)
    (follows : Follows after (cronDispatcher app) p s) :
    Follows after (cronDispatcher app) q s ∨ ∃ l s',
      Scheduler.step after (cronDispatcher app) s l = some s' ∧
        Follows after (cronDispatcher app) q s' := by
  obtain ⟨stopped, asleep, awake⟩ := follows
  cases moves with
  | queue _ =>
    refine Or.inl ⟨stopped, asleep, fun now i turn => ?_⟩
    obtain ⟨answers, within, going, jobs, firings⟩ := awake now i turn
    exact ⟨answers, within, going, jobs, firings⟩
  | wakes now turn running some =>
    obtain ⟨jobs, firings⟩ := asleep turn
    refine Or.inl ⟨stopped, nofun, ?_⟩
    rintro _ _ ⟨⟩
    refine ⟨fun _ => ⟨.ok .null, 0, 0, .ok ()⟩, Nat.zero_le _, ?_, jobs, ?_⟩
    · rw [← stopped, ← jobs, List.isEmpty_map, running, some]
      simp
    · rw [List.take_zero]
      exact firings.trans (List.append_nil _).symm
  | @ended now i turn nothing =>
    obtain ⟨answers, passing⟩ := awake now i turn
    have all : s.jobs.length ≤ i := by
      rw [← List.getElem?_eq_none_iff, ← passing.ahead, List.getElem?_map, nothing]
      rfl
    refine Or.inr ⟨.pass now now answers, _, if_neg passing.going, stopped, fun _ => ?_, nofun⟩
    have jobs := passing.jobs
    have firings := passing.firings
    rw [List.take_of_length_le all] at jobs firings
    rw [List.drop_of_length_le all, List.append_nil] at jobs
    exact ⟨jobs.trans (Scheduler.pass_jobs s.jobs).symm, firings⟩
  | early turn found early =>
    obtain ⟨answers, passing⟩ := awake _ _ turn
    refine Or.inl ⟨stopped, nofun, ?_⟩
    rintro _ _ ⟨⟩
    obtain ⟨within, going, jobs, firings⟩ := passing.early found early
    exact ⟨answers, within, going, jobs, firings⟩
  | fired turn found late fired =>
    obtain ⟨answers, passing⟩ := awake _ _ turn
    obtain ⟨a, rfl⟩ := dispatchAndLog_logged fired
    refine Or.inl ⟨stopped, nofun, ?_⟩
    rintro _ _ ⟨⟩
    exact ⟨_, passing.late found late a _ _⟩
  | stops turn running =>
    have going : ¬ s.stopped = true := by
      rw [← stopped, running]
      exact Bool.false_ne_true
    refine Or.inr ⟨.shutdown, _, if_neg going, rfl, asleep, fun now i awake => ?_⟩
    cases turn.symm.trans awake

section Firings
variable {occurrences : Schedule → Set Instant}

/-- The firings of a job serve spans of time that do not overlap, up to its next run. -/
structure FiredOnce (occurrences : Schedule → Set Instant) (start : Instant)
    (p : Process σ J Context Schedule) : Prop where
  apart : p.firings.Pairwise fun d d' => d.job = d'.job → d.now < d'.served
  past : ∀ d ∈ p.firings, ∃ job, p.jobs[d.job]? = some job ∧ d.now < job.nextRun
  covered : ∀ (i : Nat) job, p.jobs[i]? = some job → ∀ o ∈ occurrences job.entry.schedule,
    start < o → o < job.nextRun → ∃ d ∈ p.firings, d.Serves i o

namespace Passing

theorem behind (passing : Passing after d now i answers p s) {j : Nat} (before : j < i) :
    (p.jobs.map CronJob.scheduled)[j]? = (s.jobs.map (Scheduler.advanced after now))[j]? := by
  have within : j < ((s.jobs.take i).map (Scheduler.advanced after now)).length := by
    rwa [List.length_map, passing.taken]
  rw [passing.jobs, List.getElem?_append_left within, List.getElem?_map, List.getElem?_map,
    List.getElem?_take_of_lt before]

end Passing

end Firings

/-- Where the job that a firing has enqueued comes from. -/
def Sourced (p : Process σ J Context Schedule) : Prop :=
  ∀ d ∈ p.firings, ∀ id, d.enqueued = some id → ∃ job clock order, p.jobs[d.job]? = some job ∧
    job.entry.buildPayload clock = .ok order.payload ∧
    (Dispatch.dispatchValue order.payload, order) ∈ p.queue.1.2 ∧ order.id = id

theorem sent_kept {l : AppLabel J Context ℓ π}
    (moved : (T.executing app).step queue l = some queue') {e : Dispatch J × JobOrder Json}
    (listed : e ∈ queue.1.2) : e ∈ queue'.1.2 := by
  obtain ⟨stepped, _⟩ := Machine.recording_step.mp moved
  obtain ⟨_, recorded⟩ := Transport.system_step.mp stepped
  exact recorded ▸ Transport.mem_record listed

theorem dispatchAndLog_sourced
    (fired : dispatchAndLog T app port stamp clock refused queue entry = some (queue', logged))
    {envelope : JobEnvelope Json} (dispatched : logged = .dispatched envelope) :
    ∃ order, entry.buildPayload clock = .ok order.payload ∧
      (Dispatch.dispatchValue order.payload, order) ∈ queue'.1.2 ∧ order.id = envelope.id := by
  subst dispatched
  unfold dispatchAndLog at fired
  split at fired
  · cases fired
  · rename_i value built
    split at fired
    · cases fired
    · rename_i order ordered
      obtain ⟨next, moved, both⟩ := Option.map_eq_some_iff.mp fired
      obtain ⟨rfl, logged⟩ := Prod.mk.inj both
      have payload : order.payload = value := by
        obtain ⟨_, _, serialised, _, rfl⟩ := Dispatcher.typed_of_order ordered
        exact (Except.ok.inj serialised).symm
      subst payload
      obtain ⟨stepped, _⟩ := Machine.recording_step.mp moved
      obtain ⟨_, recorded⟩ := Transport.system_step.mp stepped
      split at logged
      · rename_i accepted
        cases logged
        refine ⟨order, built, ?_, order.envelope_id.symm⟩
        rw [← recorded, Transport.record, ordered]
        dsimp only
        rw [if_pos accepted]
        exact List.mem_append_right _ List.mem_cons_self
      · cases logged

theorem Process.Moves.jobs (moves : Process.Moves T app port after p q) {j : Nat}
    {job : CronJob Schedule} (found : p.jobs[j]? = some job) :
    ∃ job', q.jobs[j]? = some job' ∧ job'.entry = job.entry := by
  cases moves with
  | @fired now i first _ _ _ _ _ _ here =>
    by_cases same : i = j
    · subst same
      obtain rfl := Option.some.inj (here.symm.trans found)
      refine ⟨_, List.getElem?_set_self (List.getElem?_eq_some_iff.mp here).1, rfl⟩
    · exact ⟨job, (List.getElem?_set_ne same).trans found, rfl⟩
  | _ => exact ⟨job, found, rfl⟩

theorem Process.Moves.sourced (moves : Process.Moves T app port after p q) (sourced : Sourced p) :
    Sourced q := by
  have kept : ∀ d ∈ p.firings, ∀ id, d.enqueued = some id → ∃ job clock order,
      q.jobs[d.job]? = some job ∧ job.entry.buildPayload clock = .ok order.payload ∧
      (Dispatch.dispatchValue order.payload, order) ∈ q.queue.1.2 ∧ order.id = id := by
    intro d listed id enqueued
    obtain ⟨job, clock, order, found, built, sent, same⟩ := sourced d listed id enqueued
    obtain ⟨job', found', entry⟩ := moves.jobs found
    refine ⟨job', clock, order, found', entry ▸ built, ?_, same⟩
    rcases moves.queued with still | ⟨l, moved⟩
    · exact still ▸ sent
    · exact sent_kept moved sent
  cases moves with
  | fired turn found late fired =>
    intro d listed id enqueued
    rcases List.mem_append.mp listed with old | new
    · exact kept d old id enqueued
    · obtain rfl := List.mem_singleton.mp new
      unfold Scheduler.Dispatch.enqueued at enqueued
      split at enqueued
      · rename_i envelope dispatched
        obtain ⟨order, built, sent, same⟩ := dispatchAndLog_sourced fired dispatched
        refine ⟨_, _, order, List.getElem?_set_self (List.getElem?_eq_some_iff.mp found).1, built,
          sent, ?_⟩
        exact same.trans (Option.some.inj enqueued)
      · cases enqueued
  | _ => exact kept

/-- The executions, in the end successful, of what the job was dispatched for at `o`. -/
def Process.executions (p : Process σ J Context Schedule) (job : Nat) (o : Instant) :
    Transport.Done Context :=
  p.queue.2.filter fun e => p.firings.any fun d =>
    decide (d.Serves job o) && decide (d.enqueued = some e.1.id)

section Executions
variable {occurrences : Schedule → Set Instant} {job : Nat} {o : Instant}
  {fired : Scheduler.Dispatch Json}

theorem FiredOnce.unique (once : FiredOnce occurrences start p) {other : Scheduler.Dispatch Json}
    (listed : fired ∈ p.firings) (serves : fired.Serves job o) (listed' : other ∈ p.firings)
    (serves' : other.Serves job o) : fired = other := by
  obtain ⟨same, first, last⟩ := serves
  obtain ⟨same', first', last'⟩ := serves'
  obtain ⟨a, within, rfl⟩ := List.mem_iff_getElem.mp listed
  obtain ⟨b, within', rfl⟩ := List.mem_iff_getElem.mp listed'
  have apart := List.pairwise_iff_getElem.mp once.apart
  rcases Nat.lt_trichotomy a b with before | rfl | later
  · have late := apart a b within within' before (same.trans same'.symm)
    exact absurd (last.trans_lt late) (not_lt.mpr first')
  · rfl
  · have late := apart b a within' within later (same'.trans same.symm)
    exact absurd (last'.trans_lt late) (not_lt.mpr first)

variable {v : View σ TaskId ρ} {disturbs : σ → ℓ → Prop} {relates : σ → Ledger Place TaskId → Prop}

end Executions

end Scheduling
end Process

end Jobs
end ApiBoilerplate
