import Mathlib.Data.List.Basic
import Mathlib.Data.List.Pairwise

/-!
# Items that arrive in time

Items arrive one after the other and are taken in that order, some time later. An inbox
holds both those taken and those that wait, each with the time of its arrival, and the
clock.
-/

namespace Foundation

universe u

structure Inbox (α : Type u) where
  now : Nat
  taken : List (Nat × α)
  unread : List (Nat × α)
  inOrder : (taken ++ unread).Pairwise fun e f => e.1 ≤ f.1
  past : ∀ e ∈ taken ++ unread, e.1 ≤ now

namespace Inbox
variable {α : Type u}

def new : Inbox α := ⟨0, [], [], .nil, nofun⟩

def elapse (inbox : Inbox α) (d : Nat) : Inbox α :=
  { inbox with
    now := inbox.now + d
    past := fun e member => Nat.le_add_right_of_le (inbox.past e member) }

def arrive (inbox : Inbox α) (a : α) : Inbox α where
  now := inbox.now
  taken := inbox.taken
  unread := inbox.unread ++ [(inbox.now, a)]
  inOrder := by
    rw [← List.append_assoc, List.pairwise_append]
    refine ⟨inbox.inOrder, List.pairwise_singleton _ _, fun e member f last => ?_⟩
    rw [List.mem_singleton.mp last]
    exact inbox.past e member
  past := by
    rw [← List.append_assoc, List.forall_mem_append]
    refine ⟨inbox.past, fun e last => ?_⟩
    obtain rfl := List.mem_singleton.mp last
    exact Nat.le_refl _

/-- The item that waits longest, and the inbox without it. -/
def take (inbox : Inbox α) : Option (α × Inbox α) :=
  match waiting : inbox.unread with
  | [] => none
  | e :: rest =>
    have whole : inbox.taken ++ inbox.unread = (inbox.taken ++ [e]) ++ rest := by
      rw [waiting, List.append_assoc, List.singleton_append]
    some (e.2, {
      now := inbox.now
      taken := inbox.taken ++ [e]
      unread := rest
      inOrder := whole ▸ inbox.inOrder
      past := whole ▸ inbox.past })

theorem take_some {inbox rest : Inbox α} {a : α} (took : inbox.take = some (a, rest)) :
    rest.now = inbox.now ∧ ∃ t, inbox.unread = (t, a) :: rest.unread ∧
      rest.taken = inbox.taken ++ [(t, a)] := by
  unfold take at took
  split at took
  · cases took
  · rename_i e others waiting
    cases took
    exact ⟨rfl, e.1, waiting, rfl⟩

/-- What was taken has arrived before what waits. -/
theorem taken_le {inbox : Inbox α} {e f : Nat × α} (taken : e ∈ inbox.taken)
    (unread : f ∈ inbox.unread) : e.1 ≤ f.1 :=
  (List.pairwise_append.mp inbox.inOrder).2.2 e taken f unread

theorem taken_past {inbox : Inbox α} {e : Nat × α} (taken : e ∈ inbox.taken) :
    e.1 ≤ inbox.now :=
  inbox.past e (List.mem_append_left _ taken)

end Inbox
end Foundation
