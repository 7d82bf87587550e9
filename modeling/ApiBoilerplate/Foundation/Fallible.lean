import Mathlib.Logic.Basic

/-!
# Stateful programs that may fail

The state outlives an error: what a program did before it failed stays done. A
triple therefore has two ends, one for a value and one for an error.
-/

namespace Foundation

/-- The parts of a computation that came to a value. -/
theorem exists_of_bind_ok {ε α β : Type} {x : Except ε α} {f : α → Except ε β} {b : β}
    (ended : (x >>= f) = .ok b) : ∃ a, x = .ok a ∧ f a = .ok b := by
  cases x with
  | error e => cases ended
  | ok a => exact ⟨a, rfl, ended⟩

abbrev Fallible (ε σ : Type) := ExceptT ε (StateM σ)

namespace Fallible
variable {ε σ α β : Type}

/-- How a program ends, and in which state. -/
def outcome (m : Fallible ε σ α) (s : σ) : Except ε α × σ := m.run.run s

/-- The program with its error made a value. -/
def attempt (m : Fallible ε σ α) : Fallible ε σ (Except ε α) := ExceptT.mk (Except.ok <$> m.run)

theorem outcome_bind (m : Fallible ε σ α) (k : α → Fallible ε σ β) (s : σ) :
    (m >>= k).outcome s =
      match m.outcome s with
      | (.ok a, t) => (k a).outcome t
      | (.error e, t) => (.error e, t) := by
  change ExceptT.bindCont k (m s).1 (m s).2 = _
  simp only [outcome, ExceptT.run, StateT.run]
  split
  · rename_i a t same
    rw [same]
    rfl
  · rename_i e t same
    rw [same]
    rfl

theorem outcome_bind_ok {m : Fallible ε σ α} {k : α → Fallible ε σ β} {s t : σ} {a : α}
    (ended : m.outcome s = (.ok a, t)) : (m >>= k).outcome s = (k a).outcome t := by
  rw [outcome_bind, ended]

theorem outcome_bind_error {m : Fallible ε σ α} {k : α → Fallible ε σ β} {s t : σ} {e : ε}
    (failed : m.outcome s = (.error e, t)) : (m >>= k).outcome s = (.error e, t) := by
  rw [outcome_bind, failed]

theorem outcome_of_ok {m : Fallible ε σ α} {s : σ} {a : α}
    (ended : (m.outcome s).1.toOption = some a) : m.outcome s = (.ok a, (m.outcome s).2) := by
  refine Prod.ext ?_ rfl
  cases result : (m.outcome s).1 with
  | error e =>
    rw [result] at ended
    cases ended
  | ok b =>
    rw [result] at ended
    exact congrArg Except.ok (Option.some.inj ended)

/-- The parts of a program that came to a value. -/
theorem ok_of_outcome_bind {m : Fallible ε σ α} {k : α → Fallible ε σ β} {s t : σ} {b : β}
    (ended : (m >>= k).outcome s = (.ok b, t)) :
    ∃ a r, m.outcome s = (.ok a, r) ∧ (k a).outcome r = (.ok b, t) := by
  rw [outcome_bind] at ended
  split at ended
  · rename_i a r first
    exact ⟨a, r, first, ended⟩
  · cases ended

theorem outcome_attempt (m : Fallible ε σ α) (s : σ) :
    m.attempt.outcome s = (.ok (m.outcome s).1, (m.outcome s).2) := rfl

/-- From a state that meets `pre`, a value comes with `post` and an error leaves
`fails` behind. -/
def Triple (pre : σ → Prop) (m : Fallible ε σ α) (post : α → σ → Prop) (fails : σ → Prop) :
    Prop :=
  ∀ s, pre s →
    match m.outcome s with
    | (.ok a, t) => post a t
    | (.error _, t) => fails t

variable {pre pre' fails fails' : σ → Prop} {post post' : α → σ → Prop} {m : Fallible ε σ α}

theorem Triple.of_ok (triple : Triple pre m post fails) {s t : σ} {a : α} (start : pre s)
    (ended : m.outcome s = (.ok a, t)) : post a t := by
  have := triple s start
  rwa [ended] at this

/-- A fact that both ends keep holds of the state a run ends in. -/
theorem Triple.ends {kept : σ → Prop} (triple : Triple pre m (fun _ => kept) kept) {s : σ}
    (start : pre s) : kept (m.outcome s).2 := by
  have reached := triple s start
  cases ended : m.outcome s with
  | mk result t =>
    rw [ended] at reached
    cases result <;> exact reached

theorem Triple.value {a : α} (holds : ∀ s, pre s → post a s) :
    Triple pre (pure a : Fallible ε σ α) post fails := by
  intro s start
  exact holds s start

theorem Triple.bind (mid : α → σ → Prop) {k : α → Fallible ε σ β} {last : β → σ → Prop}
    (first : Triple pre m mid fails) (second : ∀ a, Triple (mid a) (k a) last fails) :
    Triple pre (m >>= k) last fails := by
  intro s start
  have reached := first s start
  rw [outcome_bind]
  cases ended : m.outcome s with
  | mk result t =>
    rw [ended] at reached
    cases result with
    | ok a => exact second a t reached
    | error e => exact reached

theorem Triple.consequence (triple : Triple pre m post fails) (before : ∀ s, pre' s → pre s)
    (after : ∀ a s, post a s → post' a s) (failed : ∀ s, fails s → fails' s) :
    Triple pre' m post' fails' := by
  intro s start
  have reached := triple s (before s start)
  cases ended : m.outcome s with
  | mk result t =>
    rw [ended] at reached
    cases result with
    | ok a => exact after a t reached
    | error e => exact failed t reached

/-- An attempt never fails. -/
theorem Triple.attempt {last : Except ε α → σ → Prop} (triple : Triple pre m post fails)
    (ok : ∀ a s, post a s → last (.ok a) s) (error : ∀ e s, fails s → last (.error e) s) :
    Triple pre m.attempt last fails' := by
  intro s start
  have reached := triple s start
  rw [outcome_attempt]
  cases ended : m.outcome s with
  | mk result t =>
    rw [ended] at reached
    cases result with
    | ok a => exact ok a t reached
    | error e => exact error e t reached

/-- The fact holds after the program, however it ends, if it held before. -/
def Keeps (kept : σ → Prop) (m : Fallible ε σ α) : Prop := Triple kept m (fun _ => kept) kept

variable {kept : σ → Prop}

theorem Keeps.of_outcome (keeps : ∀ s, kept s → kept (m.outcome s).2) : Keeps kept m := by
  intro s start
  have reached := keeps s start
  cases ended : m.outcome s with
  | mk result t =>
    rw [ended] at reached
    cases result <;> exact reached

theorem Keeps.value (a : α) : Keeps kept (pure a : Fallible ε σ α) := Triple.value fun _ => id

theorem Keeps.bind {k : α → Fallible ε σ β} (first : Keeps kept m)
    (second : ∀ a, Keeps kept (k a)) : Keeps kept (m >>= k) :=
  Triple.bind _ first second

theorem Keeps.attempt (keeps : Keeps kept m) : Keeps kept m.attempt :=
  Triple.attempt keeps (fun _ _ => id) (fun _ _ => id)

theorem Keeps.holds (keeps : Keeps kept m) {s : σ} (start : kept s) : kept (m.outcome s).2 :=
  Triple.ends keeps start

end Fallible
end Foundation
