import ApiBoilerplate.Foundation.Machine
import Mathlib.Algebra.BigOperators.Group.Finset.Basic

/-!
# Amounts that are only moved or added to

An amount that every step changes by what its label adds is, at the end of a
run, what it was plus everything the labels added. Amounts are spread over
places; what one place gains is what the sum gains.
-/

namespace Foundation

universe u v w x

open scoped BigOperators

section Runs
variable {σ : Type u} {ℓ : Type v} {A : Type w} [AddCommMonoid A]
  {M : Machine σ ℓ} {C : σ → ℓ → Prop} {I : σ → Prop}

theorem Machine.Run.conserved {ls : List ℓ} {s : σ} (run : M.Run C ls s) (amount : σ → A)
    (added : ℓ → A) (start : I M.init)
    (next : ∀ s l t, I s → C s l → M.step s l = some t → I t ∧ amount t = amount s + added l) :
    I s ∧ amount s = amount M.init + (ls.map added).sum := by
  induction run with
  | start => exact ⟨start, by simp⟩
  | next _ cond step ih =>
    obtain ⟨holds, total⟩ := next _ _ _ ih.1 cond step
    refine ⟨holds, ?_⟩
    rw [total, ih.2, List.map_append, List.sum_append, add_assoc]
    simp

/-- Labels that add nothing can be left out of the sum. -/
theorem sum_map_filterMap {κ : Type x} (pick : ℓ → Option κ) (f : κ → A) (ls : List ℓ) :
    (ls.map (fun l => ((pick l).map f).getD 0)).sum = ((ls.filterMap pick).map f).sum := by
  induction ls with
  | nil => rfl
  | cons l ls ih =>
    cases picked : pick l with
    | none => simp [picked, ih]
    | some k => simp [picked, ih]

end Runs

section Places
variable {ι : Type u} [Fintype ι] [DecidableEq ι] {A : Type v} [AddCommMonoid A]

theorem sum_gained {f g : ι → A} {i : ι} {d : A} (others : ∀ j, j ≠ i → g j = f j)
    (gain : g i = f i + d) : ∑ j, g j = ∑ j, f j + d := by
  have rest : ∑ j ∈ Finset.univ.erase i, g j = ∑ j ∈ Finset.univ.erase i, f j :=
    Finset.sum_congr rfl (fun j hj => others j (Finset.ne_of_mem_erase hj))
  rw [← Finset.add_sum_erase _ g (Finset.mem_univ i),
    ← Finset.add_sum_erase _ f (Finset.mem_univ i), rest, gain, add_right_comm]

end Places

end Foundation
