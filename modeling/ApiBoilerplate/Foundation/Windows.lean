import Mathlib.Data.Int.GCD
import Mathlib.Data.Nat.Prime.Basic
import Mathlib.Data.Set.Lattice
import Mathlib.Order.CompletePartialOrder
import Mathlib.Order.Interval.Set.Basic

/-!
# Windows of one width

Positions are cut into windows of one width, the first one starting at zero.
Windows never overlap, and as many as the ceiling division says cover what lies
below a total. The slices of a list at the windows give the list back. In machine
numbers a start past the last window may wrap round to an early one.
-/

namespace Foundation

universe u

/-- The positions of a window. -/
def window (width k : Nat) : Set Nat := Set.Ico (k * width) (k * width + width)

/-- How many windows start below the total. -/
def windowCount (width total : Nat) : Nat := (total + width - 1) / width

variable {width : Nat}

theorem mem_window_iff (positive : 0 < width) {k x : Nat} :
    x ∈ window width k ↔ x / width = k := by
  rw [window, Set.mem_Ico, Nat.div_eq_iff positive]
  constructor
  · intro between
    omega
  · intro between
    omega

theorem windows_disjoint (positive : 0 < width) {j k : Nat} (other : j ≠ k) :
    Disjoint (window width j) (window width k) := by
  rw [Set.disjoint_left]
  intro x left right
  rw [mem_window_iff positive] at left right
  exact other (left.symm.trans right)

theorem lt_windowCount_iff (positive : 0 < width) {k total : Nat} :
    k < windowCount width total ↔ k * width < total := by
  rw [windowCount, Nat.lt_div_iff_mul_lt positive]
  omega

/-- The windows up to the count, cut off at the total, are what lies below it. -/
theorem windows_cover (positive : 0 < width) (total : Nat) :
    (⋃ k < windowCount width total, window width k ∩ Set.Iio total) = Set.Iio total := by
  ext x
  simp only [Set.mem_iUnion, Set.mem_inter_iff, Set.mem_Iio]
  constructor
  · rintro ⟨_, _, _, below⟩
    exact below
  · intro below
    refine ⟨x / width, ?_, (mem_window_iff positive).mpr rfl, below⟩
    rw [lt_windowCount_iff positive]
    exact (Nat.div_mul_le_self x width).trans_lt below

theorem window_nonempty (positive : 0 < width) {k total : Nat}
    (counted : k < windowCount width total) : (window width k ∩ Set.Iio total).Nonempty := by
  rw [lt_windowCount_iff positive] at counted
  refine ⟨k * width, Set.mem_Ico.mpr ⟨le_rfl, ?_⟩, counted⟩
  omega

section Wrapping
variable {bits total : Nat}

/-- An even width comes back to zero half way round. -/
theorem start_wraps_of_even (even : Even width) (narrow : width + 1 < 2 ^ bits)
    (positive : 0 < width) : ∃ k, k + 1 < 2 ^ bits ∧ 2 ^ bits ≤ k * width ∧
      k * width % 2 ^ bits = 0 := by
  obtain ⟨half, twice⟩ := even
  cases bits with
  | zero => omega
  | succ bits =>
    rw [Nat.pow_succ] at narrow ⊢
    have product : 2 ^ bits * width = 2 ^ bits * 2 * half := by
      rw [twice, Nat.mul_assoc, Nat.two_mul]
    refine ⟨2 ^ bits, by omega, ?_, ?_⟩
    · exact Nat.mul_le_mul_left _ (by omega)
    · rw [product, Nat.mul_mod_right]

/-- An odd width comes back to one; the start before it would be the negated width. -/
theorem start_wraps_of_odd (odd : Odd width) (narrow : width + 1 < 2 ^ bits)
    (wide : 1 < width) : ∃ k, k + 1 < 2 ^ bits ∧ 2 ^ bits ≤ k * width ∧
      k * width % 2 ^ bits = 1 := by
  have coprime : Nat.Coprime width (2 ^ bits) := odd.coprime_two_right.pow_right bits
  obtain ⟨k, below, inverse⟩ := Nat.exists_mul_mod_eq_one_of_coprime coprime (by omega)
  rw [Nat.mul_comm] at inverse
  have split := Nat.div_add_mod (k * width) (2 ^ bits)
  rw [inverse] at split
  refine ⟨k, ?_, ?_, inverse⟩
  · by_contra last
    have top : k + 1 = 2 ^ bits := by omega
    have round : (k * width + width) % 2 ^ bits = 0 := by
      rw [← Nat.succ_mul, Nat.succ_eq_add_one, top, Nat.mul_mod_right]
    have small : width % 2 ^ bits = width := Nat.mod_eq_of_lt (by omega)
    rw [Nat.add_mod, inverse, small, Nat.mod_eq_of_lt (by omega)] at round
    omega
  · rcases Nat.eq_zero_or_pos (k * width / 2 ^ bits) with none | some
    · rw [none, Nat.mul_zero, Nat.zero_add] at split
      have one := Nat.eq_one_of_mul_eq_one_left split.symm
      omega
    · have round := Nat.le_mul_of_pos_right (2 ^ bits) some
      omega

/-- When no start past the count wraps round to below the total. -/
theorem starts_past_iff (positive : 0 < width) (narrow : width + 1 < 2 ^ bits)
    (bound : total < 2 ^ bits) :
    (∀ k, windowCount width total ≤ k → k + 1 < 2 ^ bits → total ≤ k * width % 2 ^ bits) ↔
      total = 0 ∨ width = 1 ∨ total = 1 ∧ Odd width := by
  have counted_le {k : Nat} : windowCount width total ≤ k ↔ total ≤ k * width := by
    rw [← Nat.not_lt, lt_windowCount_iff positive, Nat.not_lt]
  simp only [counted_le]
  constructor
  · intro past
    rcases Nat.even_or_odd width with even | odd
    · obtain ⟨k, fits, round, start⟩ := start_wraps_of_even even narrow positive
      have none := past k (by omega) fits
      omega
    · by_cases one : width = 1
      · exact Or.inr (Or.inl one)
      · obtain ⟨k, fits, round, start⟩ := start_wraps_of_odd odd narrow (by omega)
        have few := past k (by omega) fits
        rw [start] at few
        rcases Nat.le_one_iff_eq_zero_or_eq_one.mp few with zero | one
        · exact Or.inl zero
        · exact Or.inr (Or.inr ⟨one, odd⟩)
  · rintro (rfl | rfl | ⟨rfl, odd⟩) k counted fits
    · exact Nat.zero_le _
    · rw [Nat.mul_one] at counted ⊢
      rwa [Nat.mod_eq_of_lt (by omega)]
    · have coprime : Nat.Coprime (2 ^ bits) width :=
        (odd.coprime_two_right.pow_right bits).symm
      apply Nat.pos_of_ne_zero
      intro zero
      have divides := coprime.dvd_of_dvd_mul_right (Nat.dvd_of_mod_eq_zero zero)
      have positive_k : 0 < k := Nat.pos_of_ne_zero (by rintro rfl; omega)
      have large := Nat.le_of_dvd positive_k divides
      omega

end Wrapping

section Slices
variable {α : Type u}

/-- The elements of a list at the positions of a window. -/
def slice (width k : Nat) (xs : List α) : List α := (xs.drop (k * width)).take width

theorem flatMap_slice (xs : List α) (n : Nat) :
    (List.range n).flatMap (fun k => slice width k xs) = xs.take (n * width) := by
  induction n with
  | zero => simp
  | succ n ih =>
    rw [List.range_succ, List.flatMap_append, ih, List.flatMap_singleton, slice, Nat.succ_mul,
      List.take_add]

/-- As many slices as the list has windows are the whole list. -/
theorem flatMap_slice_windowCount (positive : 0 < width) (xs : List α) :
    (List.range (windowCount width xs.length)).flatMap (fun k => slice width k xs) = xs := by
  rw [flatMap_slice]
  apply List.take_of_length_le
  by_contra short
  have counted := (lt_windowCount_iff positive).mpr (Nat.lt_of_not_le short)
  exact Nat.lt_irrefl _ counted

theorem slice_eq_nil_of_short {xs : List α} {k : Nat} (short : (slice width k xs).length < width) :
    xs.drop ((k + 1) * width) = [] := by
  rw [slice, List.length_take, List.length_drop] at short
  rw [List.drop_eq_nil_iff, Nat.succ_mul]
  omega

theorem mem_take_or_suffix_drop {xs back : List α} {x : α} (n : Nat)
    (suffix : x :: back <:+ xs) : x ∈ xs.take n ∨ x :: back <:+ xs.drop n := by
  obtain ⟨front, rfl⟩ := suffix
  by_cases near : front.length < n
  · left
    obtain ⟨rest, count⟩ := Nat.exists_eq_add_of_lt near
    rw [List.take_append, count, show front.length + rest + 1 - front.length = rest + 1 by omega]
    simp
  · right
    rw [List.drop_append_of_le_length (by omega)]
    exact List.suffix_append _ _

theorem suffix_drop_of_suffix {xs ys zs : List α} {n : Nat} (grown : ys <:+ zs)
    (suffix : xs <:+ ys.drop n) : xs <:+ zs.drop n := by
  obtain ⟨front, rfl⟩ := grown
  refine suffix.trans ?_
  rw [List.drop_append]
  exact (List.drop_suffix_drop_left ys (Nat.sub_le n front.length)).trans (List.suffix_append _ _)

/-- A list that only grows at its front is read slice by slice, from one slice to the
next as it is then: up to a short slice, nothing that was there at the start is missed. -/
theorem mem_slice_of_growing {xs : Nat → List α} (grows : ∀ k, xs k <:+ xs (k + 1)) {n : Nat}
    (short : (slice width n (xs n)).length < width) {x : α} (present : x ∈ xs 0) :
    ∃ k ≤ n, x ∈ slice width k (xs k) := by
  obtain ⟨front, back, split⟩ := List.append_of_mem present
  have found (k : Nat) (behind : x :: back <:+ (xs k).drop (k * width)) :
      x ∈ slice width k (xs k) ∨ x :: back <:+ (xs k).drop ((k + 1) * width) := by
    rw [slice, Nat.succ_mul, ← List.drop_drop]
    exact mem_take_or_suffix_drop width behind
  have unread (k : Nat) : (∃ j ≤ k, x ∈ slice width j (xs j)) ∨
      x :: back <:+ (xs k).drop ((k + 1) * width) := by
    induction k with
    | zero =>
      have whole : x :: back <:+ (xs 0).drop (0 * width) := by
        rw [Nat.zero_mul, List.drop_zero, split]
        exact List.suffix_append front _
      exact (found 0 whole).imp_left fun here => ⟨0, le_rfl, here⟩
    | succ k ih =>
      rcases ih with ⟨j, before, here⟩ | behind
      · exact Or.inl ⟨j, Nat.le_succ_of_le before, here⟩
      · have later := found (k + 1) (suffix_drop_of_suffix (grows k) behind)
        exact later.imp_left fun here => ⟨k + 1, le_rfl, here⟩
  rcases unread n with here | behind
  · exact here
  · rw [slice_eq_nil_of_short short] at behind
    exact absurd (List.suffix_nil.mp behind) (List.cons_ne_nil x back)

end Slices
end Foundation
