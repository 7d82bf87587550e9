import ApiBoilerplate.Foundation.Saturating
import ApiBoilerplate.Queue.Guarantees

/-!
# Exponential back-off

The delay that the worker computes with saturating arithmetic is that of
unbounded numbers. `fail` adds it to a reading of the clock and writes the sum
into the row, which keeps it when the reading is one the column holds; until the
next attempt nothing changes it, so that attempt does not start before the delay
is over.
-/

namespace ApiBoilerplate

open Foundation Lifecycle

/-- Seconds from the failure of attempt `k` to the attempt after it. -/
def retryDelay (d k : Nat) : Nat := min 3600 (d * 2 ^ (k - 1))

theorem retryDelay_mono (d : Nat) : Monotone (retryDelay d) := by
  intro j k le
  have power : 2 ^ (j - 1) ≤ 2 ^ (k - 1) := Nat.pow_le_pow_right (by omega) (by omega)
  exact min_le_min_left 3600 (Nat.mul_le_mul_left d power)

theorem retryDelay_eq_clip (d k : Nat) : retryDelay d k = clip 3600 (d * 2 ^ (k - 1)) :=
  min_comm _ _

namespace Worker

theorem saturatingMul_toNat (a b : UInt64) :
    (saturatingMul a b).toNat = clip (2 ^ 64 - 1) (a.toNat * b.toNat) := by
  have bound := clip_le (2 ^ 64 - 1) (a.toNat * b.toNat)
  rw [saturatingMul, UInt64.toNat_ofNat']
  exact Nat.mod_eq_of_lt (by omega)

theorem saturatingPow_toNat (base : UInt64) (n : Nat) :
    (saturatingPow base n).toNat = saturatingPower (2 ^ 64 - 1) base.toNat n := by
  induction n with
  | zero => rfl
  | succ n ih => rw [saturatingPow, saturatingMul_toNat, ih, saturatingPower]

/-- Saturation is hidden by the cap. -/
theorem backoff_toNat (d : UInt64) (k : UInt32) :
    (backoff d k).toNat = retryDelay d.toNat k.toNat := by
  have capped : ∀ a : UInt64, (min a 3600).toNat = clip 3600 a.toNat := by
    intro a
    change (if a ≤ 3600 then a else 3600).toNat = _
    by_cases within : a ≤ 3600
    · rw [if_pos within]
      exact (clip_of_le within).symm
    · rw [if_neg within]
      exact (clip_of_ge (Nat.le_of_not_le within)).symm
  rw [backoff, capped, saturatingMul_toNat, saturatingPow_toNat, saturatingPower_eq,
    clip_mul_clip, clip_clip (by omega), retryDelay_eq_clip]
  rfl

theorem backoff_mono (d : UInt64) {j k : UInt32} (le : j ≤ k) : backoff d j ≤ backoff d k := by
  rw [UInt64.le_iff_toNat_le, backoff_toNat, backoff_toNat]
  exact retryDelay_mono d.toNat le

/-- `chrono::Duration::seconds`, in nanoseconds; it panics on more milliseconds than
an `i64` holds. -/
def durationSeconds (seconds : Int64) : Option Int :=
  if -((2 ^ 63 - 1) / 1000) ≤ seconds.toInt ∧ seconds.toInt ≤ (2 ^ 63 - 1) / 1000 then
    some (1000000000 * seconds.toInt)
  else none

/-- `Duration::seconds(delay as i64)`. -/
def retryDuration (d : UInt64) (k : UInt32) : Option Int := durationSeconds (backoff d k).toInt64

theorem retryDuration_eq (d : UInt64) (k : UInt32) :
    retryDuration d k = some (1000000000 * (retryDelay d.toNat k.toNat : Int)) := by
  have small : retryDelay d.toNat k.toNat ≤ 3600 := min_le_left _ _
  have cast : (backoff d k).toInt64.toInt = (retryDelay d.toNat k.toNat : Int) := by
    change (backoff d k).toBitVec.toInt = _
    rw [BitVec.toInt_eq_toNat_of_lt]
    · exact congrArg Nat.cast (backoff_toNat d k)
    · change 2 * (backoff d k).toNat < 2 ^ 64
      rw [backoff_toNat]
      omega
  rw [retryDuration, durationSeconds, cast, if_pos (by omega)]

theorem retryAt_eq (d : UInt64) (attempts maxAttempts : UInt32) (now : DateTime) :
    retryAt d attempts maxAttempts now =
      if shouldRetry attempts maxAttempts then (retryDuration d attempts).map (now + ·)
      else none := by
  rw [retryAt, retryDuration_eq, backoff_toNat, Option.map_some]

theorem retryAt_some {d : UInt64} {attempts maxAttempts : UInt32} {now at_ : DateTime}
    (again : retryAt d attempts maxAttempts now = some at_) :
    at_ = now + 1000000000 * (retryDelay d.toNat attempts.toNat : Int) := by
  rw [retryAt] at again
  split at again
  · rw [← Option.some.inj again, backoff_toNat]
  · cases again

end Worker

/-- An attempt whose handler returned an error, and when it did. -/
structure FailedAttempt where
  id : Uuid
  attempt : Nat
  at_ : DateTime

/-- When the delay after the attempt is over. -/
def FailedAttempt.nextStart (worker : WorkerConfig) (f : FailedAttempt) : DateTime :=
  f.at_ + 1000000000 * (retryDelay worker.retryDelaySeconds.toNat f.attempt : Int)

namespace DatabaseQueue
variable {Value : Type}

/-- The row is not due for the next attempt before the delay is over. -/
def Deferred (worker : WorkerConfig) (jobs : JobTable) (f : FailedAttempt) : Prop :=
  ∃ row, jobs.lookup f.id.hyphenated = some row ∧
    (row.status = .pending ∨ row.status = .retrying → row.attempts.toInt = (f.attempt : Int) →
      f.nextStart worker ≤ row.runAt)

theorem Deferred.update {worker : WorkerConfig} {jobs : JobTable} {f : FailedAttempt}
    (deferred : Deferred worker jobs f) {id : String} {set : JobRow → JobRow}
    (again : ∀ row, id = f.id.hyphenated → jobs.lookup id = some row →
      (set row).status = .pending ∨ (set row).status = .retrying →
      (set row).attempts.toInt = (f.attempt : Int) → f.nextStart worker ≤ (set row).runAt) :
    Deferred worker (DatabaseBackend.update jobs id set) f := by
  obtain ⟨row, found, waits⟩ := deferred
  by_cases same : f.id.hyphenated = id
  · refine ⟨set row, ?_, again row same.symm (same ▸ found)⟩
    rw [DatabaseBackend.lookup_update, if_pos same, ← same, found, Option.map_some]
  · refine ⟨row, ?_, waits⟩
    rw [DatabaseBackend.lookup_update, if_neg same, found]

structure Journal where
  /-- The last reading of the clock. -/
  last : DateTime
  failures : List FailedAttempt

/-- The attempt whose handler returns an error in this step. -/
def failing (worker : WorkerConfig) (s : DatabaseQueue Value) :
    Label Value → Option (Uuid × Nat)
  | .handlerReturns task result =>
    match s.tasks task with
    | some ⟨envelope, none⟩ =>
      match Worker.outcome worker.registered envelope.jobType result with
      | .error _ => some (envelope.id, envelope.attempts.toNat)
      | .ok () => none
    | _ => none
  | _ => none

/-- The attempt that this step starts. -/
def starting (codec : Codec Value) (s : DatabaseQueue Value) :
    Label Value → Option (Uuid × Nat)
  | .dequeue _ id now .ok =>
    match DatabaseBackend.dequeue codec s.jobs now id with
    | some (_, .ok envelope) => some (envelope.id, envelope.attempts.toNat)
    | _ => none
  | _ => none

def journal (worker : WorkerConfig) (s : DatabaseQueue Value) (l : Label Value × DateTime)
    (j : Journal) : Journal :=
  ⟨l.2, ((failing worker s l.1).map fun r => ⟨r.1, r.2, l.2⟩).toList ++ j.failures⟩

/-- Each step comes with the reading of the clock at its moment. -/
def timed (codec : Codec Value) (worker : WorkerConfig) :
    Machine (DatabaseQueue Value) (Label Value × DateTime) :=
  (machine codec worker).relabel Prod.fst

def journaled (codec : Codec Value) (worker : WorkerConfig) (start : DateTime) :
    Machine (DatabaseQueue Value × Journal) (Label Value × DateTime) :=
  (timed codec worker).recording ⟨start, []⟩ (journal worker)

/-- One clock, which does not run backwards. `dequeue` reads it in its own step, a
worker at some moment between the return of its handler and the `UPDATE`, and as
finely as the column keeps it. -/
structure OneClock (p : DatabaseQueue Value × Journal) (l : Label Value × DateTime) : Prop where
  onward : p.2.last ≤ l.2
  selecting : ∀ task id now reply, l.1 = .dequeue task id now reply → now = l.2
  retrying : ∀ task now sqlNow reply, l.1 = .fail task now sqlNow reply →
    now ≤ l.2 ∧ 1000000 ∣ now ∧
    ∀ job, p.1.tasks task = some job → ∀ f ∈ p.2.failures, f.id = job.envelope.id →
      f.attempt = job.envelope.attempts.toNat → f.at_ ≤ now

/-- The step starts no attempt before the delay after the last one is over. -/
def WaitsOut (codec : Codec Value) (worker : WorkerConfig) (p : DatabaseQueue Value × Journal)
    (l : Label Value × DateTime) : Prop :=
  ∀ id k, starting codec p.1 l.1 = some (id, k + 1) →
    ∀ f ∈ p.2.failures, f.id = id → f.attempt = k → f.nextStart worker ≤ l.2

section Steps
variable {codec : Codec Value} {worker : WorkerConfig} {s s' : DatabaseQueue Value}
  {L : Ledger Unit TaskId} {l : Label Value} {f : FailedAttempt}

/-- A job in the hands of a task is not waiting. -/
theorem Tracks.held_deferred (tracks : Tracks s L) {task : TaskId} {job : JobTask Value}
    (live : s.tasks task = some job) (same : f.id = job.envelope.id) :
    Deferred worker s.jobs f := by
  obtain ⟨m, n, account, _⟩ := tracks.task task job live
  obtain ⟨row, found, shown, _⟩ := tracks.known account
  have running : row.status = .running := (Option.some.inj shown.status).symm
  refine ⟨row, same ▸ found, fun waiting => ?_⟩
  rw [running] at waiting
  simp at waiting

/-- Only `fail` makes a row wait, and it adds the delay. -/
theorem step_deferred (tracks : Tracks s L) (deferred : Deferred worker s.jobs f)
    (hs : step codec worker s l = some s')
    (read : ∀ task now sqlNow reply, l = .fail task now sqlNow reply → ∀ job,
      s.tasks task = some job → f.id = job.envelope.id →
        f.attempt = job.envelope.attempts.toNat → f.at_ ≤ now)
    (whole : ∀ task now sqlNow reply, l = .fail task now sqlNow reply → 1000000 ∣ now) :
    Deferred worker s'.jobs f := by
  cases step_moves hs with
  | enqueued order =>
    obtain ⟨row, found, waits⟩ := deferred
    cases accepted : DatabaseBackend.enqueue codec s.jobs order.envelope with
    | none => exact ⟨row, found, waits⟩
    | some jobs =>
      refine ⟨row, ?_, waits⟩
      obtain ⟨fresh, _, others⟩ := DatabaseBackend.enqueue_lookup accepted
      refine (others _ fun same => ?_).trans found
      rw [same, fresh] at found
      cases found
  | returned | misread =>
    exact deferred.update fun _ _ _ waiting => by simp [DatabaseBackend.markRunning] at waiting
  | rolledBack | handled | vanished | crashed => exact deferred
  | @acknowledged task envelope live reply =>
    cases reply with
    | errorBefore => exact deferred
    | ok | errorAfter => exact deferred.update fun _ _ _ waiting => by simp at waiting
  | @failed task envelope e live now sqlNow reply =>
    have moved : Deferred worker (DatabaseBackend.fail s.jobs envelope.id e.text
        (Worker.retryAt worker.retryDelaySeconds envelope.attempts envelope.maxAttempts now)
        sqlNow) f := by
      simp only [DatabaseBackend.fail]
      split
      · rename_i at_ again
        refine deferred.update fun row same found _ counted => ?_
        obtain ⟨m, n, account, at'⟩ := tracks.task task _ live
        obtain ⟨row', found', shown, _⟩ := tracks.known account
        rw [found] at found'
        obtain rfl := Option.some.inj found'
        have id : envelope.id = f.id := Uuid.hyphenated_injective same
        have attempt : f.attempt = envelope.attempts.toNat := by
          have first : (f.attempt : Int) = (n : Int) := counted.symm.trans shown.attempts
          exact (Int.ofNat_inj.mp first).trans at'.attempts.symm
        have since := read task now sqlNow reply rfl _ live id.symm attempt
        change f.nextStart worker ≤ DateTime.stored at_
        rw [Worker.retryAt_some again, DateTime.stored_of_millis, FailedAttempt.nextStart, attempt]
        · exact Int.add_le_add_right since _
        · have reading := whole task now sqlNow reply rfl
          have delays : (1000000 : Int) ∣ 1000000000 := by decide
          exact Int.dvd_add reading (delays.mul_right _)
      · exact deferred.update fun _ _ _ waiting => by simp at waiting
    cases reply with
    | errorBefore => exact deferred
    | ok | errorAfter => exact moved

/-- A selected row that is deferred starts its next attempt when the delay is over. -/
theorem Deferred.nextStart_le (parse_hyphenated : ∀ u : Uuid, codec.parseStr u.hyphenated = .ok u)
    (tracks : Tracks s L) (sound : SoundLedger view s L) (deferred : Deferred worker s.jobs f)
    {task : TaskId} {key : String} {now : DateTime} {reply : Reply}
    (starts : starting codec s (.dequeue task key now reply) = some (f.id, f.attempt + 1)) :
    f.nextStart worker ≤ now := by
  simp only [starting] at starts
  split at starts
  · rename_i called
    split at starts
    · rename_i jobs envelope called'
      cases called
      obtain ⟨row, selected, ends⟩ := Option.map_eq_some_iff.mp called'
      obtain ⟨i, m, n, rfl, found, _, shown, budget, room⟩ := tracks.selected sound selected
      obtain ⟨same, attempts, _⟩ :=
        shown.decoded parse_hyphenated budget room (Prod.mk.inj ends).2
      obtain ⟨id, attempt⟩ := Prod.mk.inj (Option.some.inj starts)
      obtain rfl : i = f.id := same.symm.trans id
      obtain ⟨row', found', waits⟩ := deferred
      rw [found] at found'
      obtain rfl := Option.some.inj found'
      obtain ⟨_, chosen⟩ := Option.filter_eq_some_iff.mp selected
      obtain ⟨⟨waiting, due⟩, _⟩ := of_decide_eq_true chosen
      have counted : row.attempts.toInt = (f.attempt : Int) := by
        have stage : row.attempts.toInt = (n : Int) := shown.attempts
        omega
      exact (waits waiting counted).trans (due.trans (DateTime.sqlNow_le now))
    · cases starts
  · cases starts

end Steps

section Runs
variable {codec : Codec Value} {worker : WorkerConfig} {start : DateTime}
  {p : DatabaseQueue Value × Journal}

/-- A failure is noted in the step in which the handler returns. -/
theorem journaled_failures {s s' : DatabaseQueue Value} {l : Label Value × DateTime}
    {j : Journal} {f : FailedAttempt} (listed : f ∈ (journal worker s l j).failures)
    (hs : step codec worker s l.1 = some s') :
    f ∈ j.failures ∨ s'.jobs = s.jobs ∧
      ∃ task job, s.tasks task = some job ∧ f.id = job.envelope.id := by
  rcases List.mem_append.mp listed with new | old
  · obtain ⟨⟨id, k⟩, failed, rfl⟩ := Option.map_eq_some_iff.mp (Option.mem_toList.mp new)
    refine Or.inr ?_
    obtain ⟨l, now⟩ := l
    cases step_moves hs with
    | @handled task envelope live result outcome decided =>
      simp only [failing, live] at failed
      split at failed
      · cases failed
        exact ⟨rfl, task, _, live, rfl⟩
      · cases failed
    | _ => cases failed
  · exact Or.inl old

theorem journaled_deferred (parse_hyphenated : ∀ u : Uuid, codec.parseStr u.hyphenated = .ok u)
    (reach : (journaled codec worker start).ReachableWhere OneClock p) :
    (machine codec worker).Reachable p.1 ∧ ∀ f ∈ p.2.failures, Deferred worker p.1.jobs f := by
  suffices both : (timed codec worker).Reachable p.1 ∧
      ∀ f ∈ p.2.failures, Deferred worker p.1.jobs f from ⟨both.1.of_relabel, both.2⟩
  refine reach.recording (I := fun s j => ∀ f ∈ j.failures, Deferred worker s.jobs f)
    (by simp) ?_
  intro s j l s' before deferred clock stepped f listed
  obtain ⟨L, tracks, _⟩ := (tracking codec worker parse_hyphenated).reachable before.of_relabel
  rcases journaled_failures listed stepped with old | ⟨kept, task, job, live, same⟩
  · refine step_deferred tracks (deferred f old) stepped ?_
      fun task now sqlNow reply label => (clock.retrying task now sqlNow reply label).2.1
    intro task now sqlNow reply label job live id attempt
    exact (clock.retrying task now sqlNow reply label).2.2 job live f old id attempt
  · rw [kept]
    exact tracks.held_deferred live same

theorem waitsOut (parse_hyphenated : ∀ u : Uuid, codec.parseStr u.hyphenated = .ok u)
    (reach : (journaled codec worker start).ReachableWhere OneClock p)
    {l : Label Value × DateTime} (clock : OneClock p l) : WaitsOut codec worker p l := by
  rintro id k starts f listed rfl rfl
  obtain ⟨before, deferred⟩ := journaled_deferred parse_hyphenated reach
  obtain ⟨L, tracks, sound⟩ := (tracking codec worker parse_hyphenated).reachable before
  obtain ⟨l, now⟩ := l
  cases l with
  | dequeue task key at_ reply =>
    have past := (deferred f listed).nextStart_le parse_hyphenated tracks sound starts
    rwa [clock.selecting task key at_ reply rfl] at past
  | _ => cases starts

end Runs

end DatabaseQueue

/-- The worker computes the delay exactly, at most an hour and never less after a
later attempt, and no next attempt starts before its delay is over. -/
theorem exponential_backoff {Value : Type} {codec : Codec Value}
    (parse_hyphenated : ∀ u : Uuid, codec.parseStr u.hyphenated = .ok u) (start : DateTime) :
    (∀ d k, (Worker.backoff d k).toNat = retryDelay d.toNat k.toNat ∧
      (Worker.backoff d k).toNat ≤ 3600 ∧
      Worker.retryDuration d k = some (1000000000 * (retryDelay d.toNat k.toNat : Int))) ∧
    (∀ d j k, j ≤ k → Worker.backoff d j ≤ Worker.backoff d k) ∧
    (∀ d attempts maxAttempts now, Worker.retryAt d attempts maxAttempts now =
      if Worker.shouldRetry attempts maxAttempts then
        (Worker.retryDuration d attempts).map (now + ·)
      else none) ∧
    ∀ worker p, (DatabaseQueue.journaled codec worker start).ReachableWhere
        DatabaseQueue.OneClock p →
      ∀ l, DatabaseQueue.OneClock p l → DatabaseQueue.WaitsOut codec worker p l := by
  refine ⟨fun d k => ⟨Worker.backoff_toNat d k, ?_, Worker.retryDuration_eq d k⟩,
    fun d j k le => Worker.backoff_mono d le, Worker.retryAt_eq,
    fun worker p reach l clock => DatabaseQueue.waitsOut parse_hyphenated reach clock⟩
  rw [Worker.backoff_toNat]
  exact min_le_left _ _

section Examples

namespace DatabaseQueue

/-- A test for `OneClock`. -/
def keepsTime (p : DatabaseQueue Nat × Journal) (l : Label Nat × DateTime) : Bool :=
  decide (p.2.last ≤ l.2) &&
    match l.1 with
    | .dequeue _ _ now _ => decide (now = l.2)
    | .fail task now _ _ => decide (now ≤ l.2 ∧ 1000000 ∣ now) && (p.1.tasks task).all fun job =>
        p.2.failures.all fun f => decide (f.id = job.envelope.id →
          f.attempt = job.envelope.attempts.toNat → f.at_ ≤ now)
    | _ => true

theorem keepsTime_sound (p : DatabaseQueue Nat × Journal) (l : Label Nat × DateTime)
    (passed : keepsTime p l = true) : OneClock p l := by
  obtain ⟨l, now⟩ := l
  obtain ⟨onward, read⟩ := Bool.and_eq_true_iff.mp passed
  refine ⟨of_decide_eq_true onward, ?_, ?_⟩
  · rintro task id at_ reply rfl
    exact of_decide_eq_true read
  · rintro task at_ sqlNow reply rfl
    obtain ⟨past, since⟩ := Bool.and_eq_true_iff.mp read
    obtain ⟨past, whole⟩ := of_decide_eq_true past
    refine ⟨past, whole, fun job live f listed => ?_⟩
    simp only [live, Option.all_some, List.all_eq_true, decide_eq_true_eq] at since
    exact since f listed

end DatabaseQueue

/-- After the failure at 0 the second attempt may start at 5 s and no earlier. -/
theorem exponential_backoff_retriedRun :
    ∃ p, (DatabaseQueue.journaled strokes heartbeats 0).ReachableWhere DatabaseQueue.OneClock p ∧
      DatabaseQueue.starting strokes p.1 (.dequeue ⟨1, 0⟩ (Uuid.hyphenated 1) 5000000000 .ok) =
        some (1, 2) ∧
      (p.2.failures.map fun f => (f.id, f.attempt, f.nextStart heartbeats)) =
        [((1 : Uuid), 1, (5000000000 : Int))] ∧
      DatabaseQueue.WaitsOut strokes heartbeats p
        (.dequeue ⟨1, 0⟩ (Uuid.hyphenated 1) 5000000000 .ok, 5000000000) := by
  obtain ⟨p, reach, checked⟩ := Machine.reachableWhere_of_replay DatabaseQueue.keepsTime_sound
    (M := DatabaseQueue.journaled strokes heartbeats 0)
    (p := fun p => decide (DatabaseQueue.starting strokes p.1
        (.dequeue ⟨1, 0⟩ (Uuid.hyphenated 1) 5000000000 .ok) = some (1, 2) ∧
      (p.2.failures.map fun f => (f.id, f.attempt, f.nextStart heartbeats)) =
        [((1 : Uuid), 1, (5000000000 : Int))] ∧ p.2.last ≤ 5000000000))
    ((retriedRun.take 4).map fun l => (l, 0)) (by decide)
  obtain ⟨starts, failures, past⟩ := of_decide_eq_true checked
  refine ⟨p, reach, starts, failures, ?_⟩
  refine (exponential_backoff strokes_parse 0).2.2.2 heartbeats p reach _ ⟨past, ?_, ?_⟩
  · rintro _ _ _ _ ⟨⟩
    rfl
  · rintro _ _ _ _ ⟨⟩

end Examples

end ApiBoilerplate
