import ApiBoilerplate.Queue.Worker

/-!
# Permits and the graceful drain

Every permit is free, with the loop, or with one task that has not ended. The
loop can therefore collect all of them only when no task is left.
-/

namespace ApiBoilerplate
namespace WorkerRun

open Foundation

variable {Value : Type} {worker : WorkerConfig} {concurrency : Nat} {s t : WorkerRun Value}
  {l : WorkerLabel Value}

structure Accounted (concurrency : Nat) (s : WorkerRun Value) : Prop where
  permits : s.semaphore.Balanced concurrency (s.tasks.keys.card + s.stage.permits)
  numbered : ∀ n task, s.tasks.lookup n = some task → s.handed[n]? = some task.envelope
  returned : s.stage = .returned → s.tasks.keys.card = 0

/-- The tasks whose handler has not returned. -/
def handlers (s : WorkerRun Value) : Finset Nat :=
  s.tasks.keys.filter (fun n => (s.tasks.lookup n).any (fun task => task.result.isNone))

/-- The loop moves on; no permit changes hands. -/
theorem Accounted.move (accounted : Accounted concurrency s) {stage : PollStage Value}
    (permits : stage.permits = s.stage.permits) (running : stage ≠ .returned) :
    Accounted concurrency { s with stage := stage } where
  permits := by
    change s.semaphore.Balanced concurrency (s.tasks.keys.card + stage.permits)
    rw [permits]
    exact accounted.permits
  numbered := accounted.numbered
  returned ended := absurd ended running

theorem Accounted.fresh (accounted : Accounted concurrency s) :
    s.tasks.lookup s.handed.length = none := by
  rw [Option.eq_none_iff_forall_ne_some]
  intro task live
  have given := accounted.numbered _ task live
  rw [List.getElem?_eq_none (Nat.le_refl _)] at given
  cases given

theorem Accounted.finish (accounted : Accounted concurrency s) {n : Nat} {task : JobTask Value}
    (live : s.tasks.lookup n = some task) : Accounted concurrency (s.finish n) := by
  have fewer := FinMap.card_erase live
  constructor
  · apply Semaphore.Balanced.release
    change s.semaphore.Balanced concurrency ((s.tasks.erase n).keys.card + s.stage.permits + 1)
    rw [Nat.add_right_comm, fewer]
    exact accounted.permits
  · intro k other found
    rw [WorkerRun.finish, FinMap.lookup_erase_eq] at found
    split at found
    · cases found
    · exact accounted.numbered k other found
  · intro ended
    have none_left := accounted.returned ended
    omega

/-- All permits can be acquired at once only when nobody holds one. -/
theorem Accounted.idle (accounted : Accounted concurrency s) (bounded : concurrency < 2 ^ 32)
    (grants : s.semaphore.Grants (UInt32.ofNat concurrency).toNat) : s.tasks.keys.card = 0 := by
  rw [UInt32.toNat_ofNat_of_lt' bounded] at grants
  have held := accounted.permits.of_grants grants
  omega

theorem accounted_step (bounded : l = .drained → concurrency < 2 ^ 32)
    (accounted : Accounted concurrency s)
    (stepped : step worker concurrency s l = some t) : Accounted concurrency t := by
  have still : ∀ (from_ to_ : PollStage Value), s.stage = from_ → to_.permits = from_.permits →
      to_ ≠ .returned → Accounted concurrency { s with stage := to_ } := by
    rintro from_ to_ rfl permits running
    exact accounted.move permits running
  cases step_moves stepped with
  | signalled here => exact still _ _ here rfl (by simp)
  | unsignalled here e => exact still _ _ here rfl (by simp)
  | busy here taken => exact still _ _ here rfl (by simp)
  | dequeued here envelope => exact still _ _ here rfl (by simp)
  | empty here => exact still _ _ here rfl (by simp)
  | failed here e => exact still _ _ here rfl (by simp)
  | woken here => exact still _ _ here rfl (by simp)
  | acquired here taken =>
    refine ⟨?_, accounted.numbered, nofun⟩
    have permits := accounted.permits
    rw [here] at permits
    exact permits.acquire taken
  | spawned here =>
    have permits := accounted.permits
    rw [here] at permits
    refine ⟨?_, ?_, nofun⟩
    · change s.semaphore.Balanced concurrency ((s.tasks.insert _ _).keys.card + 0)
      rw [FinMap.card_insert_fresh accounted.fresh]
      exact permits
    · intro n task found
      rw [FinMap.lookup_insert_eq] at found
      split at found
      · rename_i same
        obtain rfl := Option.some.inj found
        rw [same]
        exact List.getElem?_concat_length
      · have given := accounted.numbered n task found
        obtain ⟨inside, _⟩ := List.getElem?_eq_some_iff.mp given
        rw [List.getElem?_append_left inside, given]
  | dropped here =>
    refine ⟨?_, accounted.numbered, nofun⟩
    have permits := accounted.permits
    rw [here] at permits
    exact permits.release
  | drained here grants =>
    have idle := accounted.idle (bounded rfl) grants
    refine ⟨?_, accounted.numbered, fun _ => idle⟩
    have permits := accounted.permits
    rw [here] at permits
    exact permits
  | returned live result decided =>
    refine ⟨?_, ?_, ?_⟩
    · change s.semaphore.Balanced concurrency ((s.tasks.insert _ _).keys.card + s.stage.permits)
      rw [FinMap.card_insert_known live]
      exact accounted.permits
    · intro k task found
      rw [FinMap.lookup_insert_eq] at found
      split at found
      · rename_i same
        obtain rfl := Option.some.inj found
        have given := accounted.numbered _ _ live
        rw [same, given]
      · exact accounted.numbered k task found
    · intro ended
      change (s.tasks.insert _ _).keys.card = 0
      rw [FinMap.card_insert_known live]
      exact accounted.returned ended
  | reported live reply => exact accounted.finish live
  | panicked live => exact accounted.finish live

theorem accounted_init : Accounted concurrency
    (machine worker concurrency : Machine (WorkerRun Value) (WorkerLabel Value)).init where
  permits := Semaphore.balanced_new concurrency
  numbered := by simp [machine]
  returned := nofun

/-- What `dequeue` returned is handed to the next task, or about to be. -/
theorem handed_step (stepped : step worker concurrency s l = some t) :
    t.handed ++ t.stage.inHand = s.handed ++ s.stage.inHand ++ l.dequeued := by
  cases step_moves stepped with
  | signalled here | unsignalled here | acquired here | busy here | dequeued here | empty here
  | failed here | dropped here | woken here | drained here | spawned here =>
    simp [here, PollStage.inHand, WorkerLabel.dequeued]
  | returned live | reported live | panicked live =>
    simp [WorkerRun.finish, WorkerLabel.dequeued]

theorem signalled_over (stepped : step worker concurrency s (.tryRecv (.ok ())) = some t) :
    t.stage.isOver = true := by
  cases step_moves stepped with
  | signalled here => rfl

/-- The signal is seen once and for all, and there is no `dequeue` after it. -/
theorem over_step (ended : s.stage.isOver = true)
    (stepped : step worker concurrency s l = some t) :
    t.stage.isOver = true ∧ l.isDequeue = false := by
  cases step_moves stepped with
  | signalled here | unsignalled here | acquired here | busy here | dequeued here | empty here
  | failed here | dropped here | woken here | spawned here =>
    rw [here] at ended
    cases ended
  | drained here => exact ⟨rfl, rfl⟩
  | returned live | reported live | panicked live => exact ⟨ended, rfl⟩

structure GracefulDrain (concurrency : Nat) (ls : List (WorkerLabel Value))
    (s : WorkerRun Value) : Prop where
  permits : s.tasks.keys.card + s.stage.permits + s.semaphore.free = concurrency
  handlers : s.handlers.card ≤ concurrency
  handed : ls.flatMap WorkerLabel.dequeued = s.handed ++ s.stage.inHand
  given : ∀ n task, s.tasks.lookup n = some task → s.handed[n]? = some task.envelope
  silent : ∀ before after, ls = before ++ .tryRecv (.ok ()) :: after →
    ∀ l ∈ after, l.isDequeue = false
  drained : s.stage = .returned → s.tasks = ∅

theorem graceful_drain (bounded : concurrency < 2 ^ 32) {ls : List (WorkerLabel Value)}
    (run : (machine worker concurrency).Run (fun _ _ => True) ls s) :
    GracefulDrain concurrency ls s := by
  have accounted : Accounted concurrency s :=
    Machine.ReachableWhere.invariant accounted_init
      (fun _ _ _ holds _ stepped => accounted_step (fun _ => bounded) holds stepped) ⟨ls, run⟩
  have handed : ls.flatMap WorkerLabel.dequeued = s.handed ++ s.stage.inHand := by
    refine run.history (I := fun ls s =>
      ls.flatMap WorkerLabel.dequeued = s.handed ++ s.stage.inHand) rfl ?_
    intro ls s l t before _ stepped
    rw [List.flatMap_append, before, handed_step stepped]
    simp
  have silent : ∀ before after, ls = before ++ .tryRecv (.ok ()) :: after →
      s.stage.isOver = true ∧ ∀ l ∈ after, l.isDequeue = false := by
    refine run.history (I := fun ls s => ∀ before after,
      ls = before ++ .tryRecv (.ok ()) :: after →
      s.stage.isOver = true ∧ ∀ l ∈ after, l.isDequeue = false) (by simp) ?_
    intro ls s l t quiet _ stepped before after split
    change step worker concurrency s l = some t at stepped
    rcases Machine.split_last split with ⟨rfl, rfl⟩ | ⟨rest, earlier, rfl⟩
    · obtain rfl : after = [] := by simpa using split
      exact ⟨signalled_over stepped, by simp⟩
    · obtain ⟨ended, none_before⟩ := quiet before rest earlier
      obtain ⟨ended', last⟩ := over_step ended stepped
      refine ⟨ended', fun l' listed => ?_⟩
      rcases List.mem_append.mp listed with old | new
      · exact none_before l' old
      · obtain rfl := List.mem_singleton.mp new
        exact last
  have balanced := accounted.permits
  have live : s.tasks.keys.card ≤ concurrency :=
    (Nat.le_add_right _ _).trans balanced.held_le
  refine ⟨?_, (Finset.card_filter_le _ _).trans live, handed, accounted.numbered,
    fun before after split => (silent before after split).2, fun ended => ?_⟩
  · rw [Nat.add_comm]
    exact balanced
  · have empty := Finset.card_eq_zero.mp (accounted.returned ended)
    apply Finmap.ext_lookup
    intro n
    rw [Finmap.lookup_empty, Finmap.lookup_eq_none, ← Finmap.mem_keys, empty]
    simp

section Rounds

/-- Two permits, and handlers for heartbeats only. -/
def rounds : Machine (WorkerRun Nat) (WorkerLabel Nat) :=
  machine ⟨fun jobType => jobType = "heartbeat", 5⟩ 2

def round (reply : Except QueueError (Option (JobEnvelope Nat))) (more : List (WorkerLabel Nat)) :
    List (WorkerLabel Nat) :=
  .tryRecv (.error .empty) :: .tryAcquire :: .dequeue reply :: more

/-- One job succeeds, one panics, and the backend fails once before the signal. -/
def drainingRun : List (WorkerLabel Nat) :=
  round (.ok (some (.new 1 0 "heartbeat" 0 3))) <| .spawn ::
  round (.ok (some (.new 2 0 "heartbeat" 0 3))) (.spawn ::
    .tryRecv (.error .empty) :: .tryAcquire :: .handlerReturns 0 (.ok ()) :: .panics 1 :: .wake ::
  round (.error (.database "closed"))
    [.dropPermit, .wake, .tryRecv (.ok ()), .reported 0 (.ok ()), .drained])

theorem graceful_drain_rounds :
    GracefulDrain 2 drainingRun (rounds.follow (fun _ _ => true) drainingRun) := by
  have run : rounds.Run (fun _ _ => True) drainingRun
      (rounds.follow (fun _ _ => true) drainingRun) :=
    Machine.run_follow (fun _ _ _ => trivial) (by decide +kernel)
  exact graceful_drain (by decide) run

end Rounds

end WorkerRun
end ApiBoilerplate
