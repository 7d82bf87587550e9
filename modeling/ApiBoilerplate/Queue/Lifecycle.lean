import ApiBoilerplate.Foundation.Machine
import ApiBoilerplate.Queue.Job

/-!
# The life of a job

What a queue is for, told per job and without a backend: a job waits, is held
by one task at a time, and ends completed or failed, with at most `maxAttempts`
tries. A backend is tied to this account by a tracking relation; exclusive
execution and the attempt law then follow for any tracked backend.
-/

namespace ApiBoilerplate
namespace Lifecycle

open Foundation

/-- What a task reports about a job: an execution began, a handler returned. -/
inductive Event where
  | started (attempt : Nat)
  | returned (ok : Bool)
  deriving DecidableEq, Repr

def executions (events : List Event) : List Nat :=
  events.filterMap (fun e => match e with | .started n => some n | .returned _ => none)

def results (events : List Event) : List Bool :=
  events.filterMap (fun e => match e with | .returned r => some r | .started _ => none)

/-- The events of one job. -/
def eventsOf (history : List (Uuid × Event)) (i : Uuid) : List Event :=
  (history.filter (fun e => e.1 = i)).map Prod.snd

theorem eventsOf_append (history : List (Uuid × Event)) (i j : Uuid)
    (new : List Event) :
    eventsOf (history ++ new.map (fun e => (i, e))) j =
      eventsOf history j ++ if j = i then new else [] := by
  simp only [eventsOf, List.filter_append, List.map_append, List.append_cancel_left_eq]
  by_cases same : j = i
  · subst same
    have all : (new.map (fun e => (j, e))).filter (fun e => e.1 = j) =
        new.map (fun e => (j, e)) := by
      rw [List.filter_eq_self]
      intro e he
      obtain ⟨x, _, rfl⟩ := List.mem_map.mp he
      exact decide_eq_true rfl
    rw [all, List.map_map, if_pos rfl]
    exact List.map_id new
  · have none : (new.map (fun e => (i, e))).filter (fun e => e.1 = j) = [] := by
      rw [List.filter_eq_nil_iff]
      intro e he
      obtain ⟨x, _, rfl⟩ := List.mem_map.mp he
      simp [Ne.symm same]
    rw [none, if_neg same, List.map_nil]

/-- Where a job stands, with the attempts made so far. A stranded job is marked
running although no task holds it; a lost one went away with its sender. -/
inductive Stage (Place Task : Type) where
  | waiting (place : Place) (attempts : Nat)
  | held (task : Task) (attempts : Nat) (result : Option Bool)
  | stranded (attempts : Nat)
  | completed (attempts : Nat)
  | failed (attempts : Nat)
  | lost (attempts : Nat)

structure Job (Place Task : Type) where
  maxAttempts : Nat
  stage : Stage Place Task

variable {Place Task : Type}

namespace Stage

def status : Stage Place Task → Option JobStatus
  | .waiting _ 0 => some .pending
  | .waiting _ (_ + 1) => some .retrying
  | .held _ _ _ => some .running
  | .stranded _ => some .running
  | .completed _ => some .completed
  | .failed _ => some .failed
  | .lost _ => none

def attempts : Stage Place Task → Nat
  | .waiting _ n => n
  | .held _ n _ => n
  | .stranded n => n
  | .completed n => n
  | .failed n => n
  | .lost n => n

def Terminal : Stage Place Task → Prop
  | .completed _ => True
  | .failed _ => True
  | _ => False

/-- A stage that only runs with crashes, panics or backend errors lead to. -/
def Irregular : Stage Place Task → Prop
  | .stranded _ => True
  | .lost _ => True
  | _ => False

/-- The results recorded when a job has come to a stage. -/
def history : Stage Place Task → List Bool
  | .waiting _ n => List.replicate n false
  | .held _ n none => List.replicate (n - 1) false
  | .held _ n (some ok) => List.replicate (n - 1) false ++ [ok]
  | .completed n => List.replicate (n - 1) false ++ [true]
  | .failed n => List.replicate n false
  | .stranded _ => []
  | .lost _ => []

end Stage

/-- One step of one job, with the events it adds. Irregular steps need `R`. -/
inductive Move (R : Prop) (m : Nat) :
    Stage Place Task → Stage Place Task → List Event → Prop where
  | place {p q : Place} {n : Nat} : Move R m (.waiting p n) (.waiting q n) []
  | start {p : Place} {t : Task} {n : Nat} :
      Move R m (.waiting p n) (.held t (n + 1) none) [.started (n + 1)]
  | finish {t : Task} {n : Nat} {ok : Bool} :
      Move R m (.held t n none) (.held t n (some ok)) [.returned ok]
  | complete {t : Task} {n : Nat} : Move R m (.held t n (some true)) (.completed n) []
  | retry {p : Place} {t : Task} {n : Nat} :
      n < m → Move R m (.held t n (some false)) (.waiting p n) []
  | giveUp {t : Task} {n : Nat} : m ≤ n → Move R m (.held t n (some false)) (.failed n) []
  | misread {p : Place} {n : Nat} : R → Move R m (.waiting p n) (.stranded (n + 1)) []
  | vanish {t : Task} {n : Nat} {r : Option Bool} :
      R → Move R m (.held t n r) (.stranded n) []
  | drop {p : Place} {n : Nat} : R → Move R m (.waiting p n) (.lost n) []

/-- A step of the account of one id: it is opened, or its job moves. -/
inductive Advance (R : Prop) :
    Option (Job Place Task) → Option (Job Place Task) → List Event → Prop where
  | opened {m : Nat} {p : Place} : Advance R none (some ⟨m, .waiting p 0⟩) []
  | moved {m : Nat} {a b : Stage Place Task} {new : List Event} :
      Move R m a b new → Advance R (some ⟨m, a⟩) (some ⟨m, b⟩) new

/-- What is always known of a job: its number of attempts is within the budget,
and outside irregular stages its events are those of a gapless retry history. -/
structure Sound (m : Nat) (stage : Stage Place Task) (events : List Event) : Prop where
  waiting : ∀ p n, stage = .waiting p n → n = 0 ∨ n < m
  positive : ∀ t n r, stage = .held t n r → 1 ≤ n
  within : stage.attempts ≤ max 1 m
  spent : ∀ n, stage = .failed n → n = max 1 m
  begun : ∀ n, stage = .completed n → 1 ≤ n
  executions : ¬ stage.Irregular → executions events = List.range' 1 stage.attempts
  results : ¬ stage.Irregular → results events = stage.history

theorem executions_append (a b : List Event) :
    executions (a ++ b) = executions a ++ executions b := List.filterMap_append

theorem results_append (a b : List Event) : results (a ++ b) = results a ++ results b :=
  List.filterMap_append

theorem range'_snoc (n : Nat) : List.range' 1 n ++ [n + 1] = List.range' 1 (n + 1) := by
  rw [List.range'_1_concat, Nat.add_comm 1 n]

theorem replicate_false_snoc {n : Nat} (positive : 1 ≤ n) :
    List.replicate (n - 1) false ++ [false] = List.replicate n false := by
  obtain ⟨k, rfl⟩ : ∃ k, n = k + 1 := ⟨n - 1, by omega⟩
  rw [Nat.add_sub_cancel, List.replicate_succ']

/-- A move keeps a job sound. -/
theorem Move.sound {R : Prop} {m : Nat} {a b : Stage Place Task} {events new : List Event}
    (move : Move R m a b new) (before : Sound m a events) : Sound m b (events ++ new) := by
  have appended := executions_append events new
  have reported := results_append events new
  cases move with
  | place =>
    have bound := before.waiting _ _ rfl
    have started := before.executions (fun h => h)
    have returned := before.results (fun h => h)
    refine ⟨?_, by simp, before.within, by simp, by simp, fun _ => ?_, fun _ => ?_⟩
    · rintro p n ⟨⟩
      exact bound
    · rw [List.append_nil]
      exact started
    · rw [List.append_nil]
      exact returned
  | @start _ _ n =>
    have bound := before.waiting _ _ rfl
    have started := before.executions (fun h => h)
    have returned := before.results (fun h => h)
    refine ⟨by simp, ?_, ?_, by simp, by simp, fun _ => ?_, fun _ => ?_⟩
    · rintro t k r ⟨⟩
      omega
    · change n + 1 ≤ max 1 m
      omega
    · rw [appended, started]
      exact range'_snoc n
    · rw [reported, returned]
      change List.replicate n false ++ [] = List.replicate (n + 1 - 1) false
      rw [List.append_nil, Nat.add_sub_cancel]
  | finish =>
    have positive := before.positive _ _ _ rfl
    have started := before.executions (fun h => h)
    have returned := before.results (fun h => h)
    refine ⟨by simp, ?_, before.within, by simp, by simp, fun _ => ?_, fun _ => ?_⟩
    · rintro t k r ⟨⟩
      exact positive
    · rw [appended, started]
      exact List.append_nil _
    · rw [reported, returned]
      rfl
  | complete =>
    have positive := before.positive _ _ _ rfl
    have started := before.executions (fun h => h)
    have returned := before.results (fun h => h)
    refine ⟨by simp, by simp, before.within, by simp, ?_, fun _ => ?_, fun _ => ?_⟩
    · rintro k ⟨⟩
      exact positive
    · rw [List.append_nil]
      exact started
    · rw [List.append_nil]
      exact returned
  | @retry _ _ n left =>
    have positive := before.positive _ _ _ rfl
    have started := before.executions (fun h => h)
    have returned := before.results (fun h => h)
    refine ⟨?_, by simp, before.within, by simp, by simp, fun _ => ?_, fun _ => ?_⟩
    · rintro p k ⟨⟩
      exact Or.inr left
    · rw [List.append_nil]
      exact started
    · rw [reported, returned]
      exact (List.append_nil _).trans (replicate_false_snoc positive)
  | @giveUp _ n used =>
    have positive := before.positive _ _ _ rfl
    have within : n ≤ max 1 m := before.within
    have started := before.executions (fun h => h)
    have returned := before.results (fun h => h)
    refine ⟨by simp, by simp, before.within, ?_, by simp, fun _ => ?_, fun _ => ?_⟩
    · rintro k ⟨⟩
      omega
    · rw [List.append_nil]
      exact started
    · rw [reported, returned]
      exact (List.append_nil _).trans (replicate_false_snoc positive)
  | @misread _ n _ =>
    have bound := before.waiting _ _ rfl
    refine ⟨by simp, by simp, ?_, by simp, by simp, fun h => absurd trivial h,
      fun h => absurd trivial h⟩
    change n + 1 ≤ max 1 m
    omega
  | vanish _ =>
    exact ⟨by simp, by simp, before.within, by simp, by simp, fun h => absurd trivial h,
      fun h => absurd trivial h⟩
  | drop _ =>
    exact ⟨by simp, by simp, before.within, by simp, by simp, fun h => absurd trivial h,
      fun h => absurd trivial h⟩

theorem sound_opened (m : Nat) (p : Place) :
    Sound m (.waiting p 0 : Stage Place Task) [] where
  waiting := by
    rintro q n ⟨⟩
    exact Or.inl rfl
  positive := by simp
  within := Nat.zero_le _
  spent := by simp
  begun := by simp
  executions := fun _ => rfl
  results := fun _ => rfl

/-- Nothing moves a completed or failed job. -/
theorem Move.not_terminal {R : Prop} {m : Nat} {a b : Stage Place Task} {new : List Event}
    (move : Move R m a b new) : ¬ a.Terminal := by
  cases move <;> exact fun h => h

/-- The edges of the status graph. -/
inductive StatusEdge : JobStatus → JobStatus → Prop where
  | pendingRunning : StatusEdge .pending .running
  | retryingRunning : StatusEdge .retrying .running
  | runningCompleted : StatusEdge .running .completed
  | runningFailed : StatusEdge .running .failed
  | runningRetrying : StatusEdge .running .retrying

theorem Move.status {R : Prop} {m : Nat} {a b : Stage Place Task} {events new : List Event}
    (move : Move R m a b new) (sound : Sound m a events) {x y : JobStatus}
    (before : a.status = some x) (after : b.status = some y) : x = y ∨ StatusEdge x y := by
  cases move with
  | @place _ _ n =>
    cases n with
    | zero => cases before; cases after; exact Or.inl rfl
    | succ n => cases before; cases after; exact Or.inl rfl
  | @start _ _ n =>
    cases n with
    | zero => cases before; cases after; exact Or.inr .pendingRunning
    | succ n => cases before; cases after; exact Or.inr .retryingRunning
  | finish => cases before; cases after; exact Or.inl rfl
  | complete => cases before; cases after; exact Or.inr .runningCompleted
  | @retry _ _ n left =>
    have positive := sound.positive _ _ _ rfl
    obtain ⟨k, rfl⟩ : ∃ k, n = k + 1 := ⟨n - 1, by omega⟩
    cases before
    cases after
    exact Or.inr .runningRetrying
  | giveUp _ => cases before; cases after; exact Or.inr .runningFailed
  | @misread _ n _ =>
    cases n with
    | zero => cases before; cases after; exact Or.inr .pendingRunning
    | succ n => cases before; cases after; exact Or.inr .retryingRunning
  | vanish _ => cases before; cases after; exact Or.inl rfl
  | drop _ => cases after

end Lifecycle
end ApiBoilerplate
