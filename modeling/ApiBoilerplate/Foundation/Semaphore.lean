import ApiBoilerplate.Foundation.ReverseIndex
import Mathlib.Data.Finset.Card

/-!
# Semaphores and their holders

A semaphore counts the permits nobody holds. Holders kept in a finite map are
counted by its keys: a holder comes with a permit and goes with one.
-/

namespace Foundation

universe u v

structure Semaphore where
  free : Nat
  deriving DecidableEq, Repr

namespace Semaphore

def new (permits : Nat) : Semaphore := ⟨permits⟩

def tryAcquire (s : Semaphore) : Option Semaphore :=
  if 0 < s.free then some ⟨s.free - 1⟩ else none

def release (s : Semaphore) : Semaphore := ⟨s.free + 1⟩

/-- A waiter for `n` permits at once can be served. -/
def Grants (s : Semaphore) (n : Nat) : Prop := n ≤ s.free

instance (s : Semaphore) (n : Nat) : Decidable (s.Grants n) :=
  inferInstanceAs (Decidable (n ≤ s.free))

/-- The permits out of `capacity` that are not free are held. -/
def Balanced (s : Semaphore) (capacity held : Nat) : Prop := s.free + held = capacity

variable {s t : Semaphore} {capacity held : Nat}

theorem balanced_new (capacity : Nat) : (new capacity).Balanced capacity 0 := rfl

theorem tryAcquire_none : s.tryAcquire = none ↔ s.free = 0 := by
  unfold tryAcquire
  split
  · simp only [reduceCtorEq, false_iff]
    omega
  · simp only [true_iff]
    omega

theorem tryAcquire_some (acquired : s.tryAcquire = some t) : t.free + 1 = s.free := by
  unfold tryAcquire at acquired
  split at acquired
  · obtain rfl := Option.some.inj acquired
    change s.free - 1 + 1 = s.free
    omega
  · cases acquired

theorem Balanced.acquire (balanced : s.Balanced capacity held)
    (acquired : s.tryAcquire = some t) : t.Balanced capacity (held + 1) := by
  have taken := tryAcquire_some acquired
  unfold Balanced at *
  omega

theorem Balanced.release (balanced : s.Balanced capacity (held + 1)) :
    s.release.Balanced capacity held := by
  change s.free + 1 + held = capacity
  unfold Balanced at balanced
  omega

theorem Balanced.held_le (balanced : s.Balanced capacity held) : held ≤ capacity :=
  Nat.le.intro ((Nat.add_comm _ _).trans balanced)

/-- All permits are free only when nobody holds one. -/
theorem Balanced.of_grants (balanced : s.Balanced capacity held) (grants : s.Grants capacity) :
    held = 0 := by
  unfold Balanced Grants at *
  omega

end Semaphore

namespace FinMap
variable {K : Type u} {V : Type v} [DecidableEq K] {m : FinMap K V} {k : K}

theorem keys_insert (m : FinMap K V) (k : K) (v : V) : (m.insert k v).keys = insert k m.keys := by
  ext k'
  simp [Finmap.mem_keys, eq_comm]

theorem keys_erase (m : FinMap K V) (k : K) : (m.erase k).keys = m.keys.erase k := by
  ext k'
  simp [Finmap.mem_keys, Finset.mem_erase]

theorem mem_keys_of_lookup {v : V} (found : m.lookup k = some v) : k ∈ m.keys :=
  Finmap.mem_keys.mpr (Finmap.mem_of_lookup_eq_some found)

/-- A new holder. -/
theorem card_insert_fresh (fresh : m.lookup k = none) (v : V) :
    (m.insert k v).keys.card = m.keys.card + 1 := by
  rw [keys_insert, Finset.card_insert_of_notMem]
  intro listed
  exact Finmap.lookup_eq_none.mp fresh (Finmap.mem_keys.mp listed)

theorem card_insert_known {v : V} (found : m.lookup k = some v) (v' : V) :
    (m.insert k v').keys.card = m.keys.card := by
  rw [keys_insert, Finset.insert_eq_of_mem (mem_keys_of_lookup found)]

/-- A holder gone. -/
theorem card_erase {v : V} (found : m.lookup k = some v) :
    (m.erase k).keys.card + 1 = m.keys.card := by
  rw [keys_erase]
  exact Finset.card_erase_add_one (mem_keys_of_lookup found)

end FinMap
end Foundation
