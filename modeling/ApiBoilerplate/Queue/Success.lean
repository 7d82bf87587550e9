import ApiBoilerplate.Queue.Tracking

/-!
# A job succeeds at most once

A job whose handler has succeeded is held until that is acknowledged, and stays where it is
if it never is. So no later attempt can succeed again, whatever crashes in between.
-/

namespace ApiBoilerplate
namespace Lifecycle

open Foundation

/-- How many handlers came back with `Ok`. -/
def successes (events : List Event) : Nat := (results events).count true

theorem successes_append (a b : List Event) : successes (a ++ b) = successes a + successes b := by
  rw [successes, results_append, List.count_append]
  rfl

theorem successes_eventsOf (history : List (Uuid × Event)) (i j : Uuid) (e : Event) :
    successes (eventsOf (history ++ [(i, e)]) j) =
      successes (eventsOf history j) + if j = i then successes [e] else 0 := by
  have appended := eventsOf_append history i j [e]
  rw [List.map_singleton] at appended
  rw [appended, successes_append]
  split <;> rfl

section Stages
variable {Place Task : Type}

/-- The successes so far; an irregular job may have been held by a task that had one. -/
def Stage.Settled : Stage Place Task → Nat → Prop
  | .held _ _ (some true), n => n = 1
  | .completed _, n => n = 1
  | .stranded _, n => n ≤ 1
  | _, n => n = 0

theorem Stage.Settled.le_one {stage : Stage Place Task} {n : Nat} (settled : stage.Settled n) :
    n ≤ 1 := by
  unfold Stage.Settled at settled
  split at settled <;> omega

theorem Move.settled {R : Prop} {m n : Nat} {a b : Stage Place Task} {new : List Event}
    (move : Move R m a b new) (settled : a.Settled n) : b.Settled (n + successes new) := by
  have most := settled.le_one
  cases move with
  | @finish t k ok =>
    obtain rfl : n = 0 := settled
    cases ok with
    | true => rfl
    | false => rfl
  | vanish _ => exact most
  | misread _ =>
    obtain rfl : n = 0 := settled
    exact Nat.zero_le 1
  | place | start | complete | retry | giveUp | drop => exact settled

end Stages

section Tracked
variable {σ ℓ Place Task ρ : Type} {M : Machine σ ℓ} {v : View σ Task ρ} {disturbs : σ → ℓ → Prop}
  {relates : σ → Ledger Place Task → Prop}

def SettledLedger (v : View σ Task ρ) (s : σ) (L : Ledger Place Task) : Prop :=
  ∀ i m stage, L i = some ⟨m, stage⟩ → stage.Settled (successes (v.events s i))

theorem SettledLedger.next {s s' : σ} {L L' : Ledger Place Task} {R : Prop}
    (sound : SoundLedger v s L) (settled : SettledLedger v s L)
    (step : ∀ i, (L' i = L i ∧ v.events s' i = v.events s i ∧ v.record s' i = v.record s i) ∨
      ∃ new, Advance R (L i) (L' i) new ∧ v.events s' i = v.events s i ++ new) :
    SettledLedger v s' L' := by
  intro i m stage account
  rcases step i with ⟨same, events, _⟩ | ⟨new, advance, events⟩
  · rw [events]
    exact settled i m stage (same ▸ account)
  · rw [events, successes_append]
    rw [account] at advance
    generalize found : L i = before at advance
    cases advance with
    | opened =>
      have silent := sound i
      rw [found] at silent
      have none : v.events s i = [] := silent
      rw [none]
      rfl
    | moved move => exact move.settled (settled i m _ found)

theorem Tracking.reachable_settled (tracking : Tracking M v disturbs relates) {s : σ}
    (reach : M.Reachable s) : ∃ L, relates s L ∧ SoundLedger v s L ∧ SettledLedger v s L := by
  refine Machine.ReachableWhere.invariant
    (I := fun s => ∃ L, relates s L ∧ SoundLedger v s L ∧ SettledLedger v s L)
    ⟨_, tracking.start, tracking.silent, nofun⟩ ?_ reach
  rintro s l s' ⟨L, related, sound, settled⟩ _ step
  obtain ⟨L', related', moves⟩ := tracking.next related sound step
  exact ⟨L', related', sound.next moves, settled.next sound moves⟩

/-- No job succeeds twice, and a completed one has succeeded. -/
theorem Tracking.succeeds_once (tracking : Tracking M v disturbs relates) {s : σ}
    (reach : M.Reachable s) (i : Uuid) : successes (v.events s i) ≤ 1 ∧
      (v.status s i .completed → successes (v.events s i) = 1) := by
  obtain ⟨L, related, sound, settled⟩ := tracking.reachable_settled reach
  constructor
  · cases account : L i with
    | none =>
      have silent := sound i
      rw [account] at silent
      have none : v.events s i = [] := silent
      rw [none]
      exact Nat.zero_le 1
    | some job => exact (settled i job.maxAttempts job.stage account).le_one
  · intro completed
    obtain ⟨m, stage, account, status⟩ := (tracking.status related i .completed).mp completed
    have here := settled i m stage account
    cases stage with
    | completed n => exact here
    | waiting p n => cases n <;> cases status
    | _ => cases status

end Tracked
end Lifecycle
end ApiBoilerplate
