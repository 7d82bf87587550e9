import ApiBoilerplate.Foundation.Semaphore
import Mathlib.Algebra.BigOperators.Finprod
import Mathlib.Combinatorics.Enumerative.DoubleCounting

/-!
# Totals over finite maps and indexes

A figure summed over the entries of a finite map changes with the entry that is
put in. The pairs of a reverse index can be counted by key or by value.
-/

namespace Foundation

universe u v

open scoped BigOperators

namespace FinMap
variable {K : Type u} {V : Type v} [DecidableEq K] {f : V → Nat} {m m' : FinMap K V} {k : K}

/-- The figure of the entry under a key, zero when there is none. -/
def figure (f : V → Nat) (m : FinMap K V) (k : K) : Nat := ((m.lookup k).map f).getD 0

/-- The sum of a figure over the entries. -/
def total (f : V → Nat) (m : FinMap K V) : Nat := ∑ k ∈ m.keys, figure f m k

theorem figure_of_lookup {v : V} (found : m.lookup k = some v) : figure f m k = f v := by
  rw [figure, found]
  rfl

theorem total_insert_fresh (fresh : m.lookup k = none) (v : V) :
    total f (m.insert k v) = total f m + f v := by
  have absent : k ∉ m.keys := fun listed =>
    Finmap.lookup_eq_none.mp fresh (Finmap.mem_keys.mp listed)
  have others : ∑ j ∈ m.keys, figure f (m.insert k v) j = ∑ j ∈ m.keys, figure f m j := by
    refine Finset.sum_congr rfl fun j listed => ?_
    have other : j ≠ k := fun same => absent (same ▸ listed)
    rw [figure, Finmap.lookup_insert_of_ne _ other, figure]
  rw [total, keys_insert, Finset.sum_insert absent, others,
    figure_of_lookup (Finmap.lookup_insert m), total, Nat.add_comm]

/-- The figures of some entries have gone up by one. -/
theorem total_raised {raised : Finset K} (keys : m'.keys = m.keys) (within : raised ⊆ m.keys)
    (figures : ∀ j ∈ m.keys, figure f m' j = figure f m j + if j ∈ raised then 1 else 0) :
    total f m' = total f m + raised.card := by
  rw [total, keys, Finset.sum_congr rfl figures, Finset.sum_add_distrib, total,
    Finset.sum_ite_mem, Finset.inter_eq_right.mpr within]
  simp

end FinMap

namespace Index
variable {K : Type u} {V : Type v} [DecidableEq K] [DecidableEq V] {ix : Index K V}

omit [DecidableEq V] in
theorem mem_keys_of_member {k : K} {v : V} (filed : v ∈ ix.members k) : k ∈ ix.keys := by
  cases found : ix.lookup k with
  | none => simp [members, found] at filed
  | some s => exact FinMap.mem_keys_of_lookup found

omit [DecidableEq V] in
/-- An index that keeps no empty set has the keys something is filed under. -/
theorem NoEmpty.mem_keys_iff (noEmpty : ix.NoEmpty) (k : K) :
    k ∈ ix.keys ↔ 0 < (ix.members k).card := by
  constructor
  · intro listed
    obtain ⟨s, found⟩ := Finmap.mem_iff.mp (Finmap.mem_keys.mp listed)
    have filled := noEmpty k s found
    simpa [members, found, Finset.card_pos, Finset.nonempty_iff_ne_empty] using filled
  · intro filled
    obtain ⟨v, filed⟩ := Finset.card_pos.mp filled
    exact mem_keys_of_member filed

omit [DecidableEq V] in
/-- Nothing is filed under any other key. -/
theorem support_subset (ix : Index K V) :
    (Function.support fun k => (ix.members k).card) ⊆ ix.keys := by
  intro k listed
  obtain ⟨v, filed⟩ := Finset.card_pos.mp (Nat.pos_of_ne_zero listed)
  exact mem_keys_of_member filed

omit [DecidableEq V] in
theorem support_finite (ix : Index K V) :
    (Function.support fun k => (ix.members k).card).Finite :=
  ix.keys.finite_toSet.subset ix.support_subset

omit [DecidableEq V] in
theorem finsum_card_members (ix : Index K V) :
    finsum (fun k => (ix.members k).card) = ∑ k ∈ ix.keys, (ix.members k).card :=
  finsum_eq_sum_of_support_subset _ ix.support_subset

/-- The pairs of an index, counted by key and by value. -/
theorem sum_card_members {values : Finset V} (covered : ∀ k v, v ∈ ix.members k → v ∈ values) :
    ∑ k ∈ ix.keys, (ix.members k).card =
      ∑ v ∈ values, (ix.keys.filter (fun k => v ∈ ix.members k)).card := by
  have filed : ∀ k, ix.members k = values.bipartiteAbove (fun k v => v ∈ ix.members k) k := by
    intro k
    ext v
    rw [Finset.mem_bipartiteAbove]
    exact ⟨fun filed => ⟨covered k v filed, filed⟩, fun listed => listed.2⟩
  calc ∑ k ∈ ix.keys, (ix.members k).card
      = ∑ k ∈ ix.keys, (values.bipartiteAbove (fun k v => v ∈ ix.members k) k).card :=
        Finset.sum_congr rfl fun k _ => congrArg Finset.card (filed k)
    _ = _ := Finset.sum_card_bipartiteAbove_eq_sum_card_bipartiteBelow _

end Index
end Foundation
