import Mathlib.Data.Set.Insert
import Mathlib.Order.BooleanAlgebra.Set
import Mathlib.Data.Set.Subsingleton

/-!
# A flag tested and raised in two steps

Claimants test a flag; those who find it down raise it later, in a step of its
own. Whoever has raised it holds the slot, may hand it on, and lowers the flag
when done. Between the test and the raise nothing keeps the others out, so the
slot has one holder only as long as every raise finds the flag down.
-/

namespace Foundation

universe u

structure Slot (H : Type u) where
  flag : Bool
  holds : Set H
  passed : Set H

namespace Slot
variable {H : Type u} {s : Slot H}

inductive Action (H : Type u) where
  | pass (h : H)
  | raise (h : H)
  | handOver (h k : H)
  | release (h : H)
  | idle

def Enabled (s : Slot H) : Action H → Prop
  | .pass _ => s.flag = false
  | .raise h => h ∉ s.holds
  | .handOver h k => h ∈ s.holds ∧ k ∉ s.holds
  | .release h => h ∈ s.holds
  | .idle => True

def act (s : Slot H) : Action H → Slot H
  | .pass h => { s with passed := insert h s.passed }
  | .raise h => ⟨true, insert h s.holds, s.passed \ {h}⟩
  | .handOver h k => { s with holds := insert k (s.holds \ {h}) }
  | .release h => ⟨false, s.holds \ {h}, s.passed⟩
  | .idle => s

/-- A raise finds the flag down, and no other claimant waiting to raise it. -/
def Careful (s : Slot H) : Action H → Prop
  | .raise h => s.flag = false ∧ s.passed ⊆ {h}
  | _ => True

/-- One holder at most, the flag up exactly while there is one, and no claimant
past the test meanwhile. -/
structure Exclusive (s : Slot H) : Prop where
  single : s.holds.Subsingleton
  flagged : s.flag = true ↔ s.holds.Nonempty
  alone : s.holds.Nonempty → s.passed = ∅

theorem Exclusive.free (exclusive : s.Exclusive) (down : s.flag = false) : s.holds = ∅ := by
  apply Set.not_nonempty_iff_eq_empty.mp
  intro held
  have up := exclusive.flagged.mpr held
  rw [down] at up
  cases up

theorem Exclusive.only_holder (exclusive : s.Exclusive) {h : H} (held : h ∈ s.holds) :
    s.holds = {h} :=
  exclusive.single.eq_singleton_of_mem held

theorem Exclusive.act (exclusive : s.Exclusive) {a : Action H} (enabled : s.Enabled a)
    (careful : s.Careful a) : (s.act a).Exclusive := by
  cases a with
  | pass h =>
    have free := exclusive.free enabled
    refine ⟨exclusive.single, exclusive.flagged, fun held => ?_⟩
    exact absurd held (by simp [Slot.act, free])
  | raise h =>
    have free := exclusive.free careful.1
    constructor
    · simp [Slot.act, free]
    · simp [Slot.act]
    · intro _
      exact Set.sdiff_eq_empty.mpr careful.2
  | handOver h k =>
    have holder := exclusive.only_holder enabled.1
    constructor
    · simp [Slot.act, holder]
    · simpa [Slot.act] using exclusive.flagged.mpr ⟨h, enabled.1⟩
    · intro _
      exact exclusive.alone ⟨h, enabled.1⟩
  | release h =>
    have holder := exclusive.only_holder enabled
    constructor
    · simp [Slot.act, holder]
    · simp [Slot.act, holder]
    · intro held
      exact absurd held (by simp [Slot.act, holder])
  | idle => exact exclusive

/-- What a careless raise meets: another holder, or another claimant past the test. -/
theorem Exclusive.careless (exclusive : s.Exclusive) {h : H} (fresh : h ∉ s.holds)
    (careless : ¬ s.Careful (.raise h)) :
    (∃ k, k ∈ s.holds ∧ k ≠ h) ∨ ∃ k, k ∈ s.passed ∧ k ≠ h := by
  rcases up : s.flag with _ | _
  · right
    by_contra none
    push Not at none
    exact careless ⟨up, fun k hk => none k hk⟩
  · left
    obtain ⟨k, held⟩ := exclusive.flagged.mp up
    exact ⟨k, held, fun same => fresh (same ▸ held)⟩

end Slot
end Foundation
