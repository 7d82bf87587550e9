import ApiBoilerplate.Foundation.Mpsc
import Mathlib.Data.Set.Card

/-!
# A broker of bounded mailboxes

Who is a member, and the mailbox of everyone who ever joined. A post is for the members
a predicate selects: whoever has room gets the message, whoever does not keep up is put
out, and nobody else notices.
-/

namespace Foundation

universe u v w

@[ext] structure Broker (ι : Type u) (κ : Type v) (μ : Type w) where
  members : ι → Option κ
  inboxes : ι → Option (Mpsc μ)

namespace Broker
variable {ι : Type u} {κ : Type v} {μ : Type w}

def empty : Broker ι κ μ := ⟨fun _ => none, fun _ => none⟩

section Queries
variable (b : Broker ι κ μ)

noncomputable def size : Nat := Set.ncard {i | (b.members i).isSome}

/-- The members that the predicate holds of. -/
def selected (p : ι → κ → Bool) : Set ι := {i | (b.members i).any (p i)}

def ready : Set ι := {i | ∃ c, b.inboxes i = some c ∧ c.HasRoom}

/-- Mailboxes that are read too slowly. -/
def behind : Set ι := {i | ∃ c, b.inboxes i = some c ∧ c.IsFull}

end Queries

open Classical in
noncomputable def post (b : Broker ι κ μ) (p : ι → κ → Bool) (m : μ) : Broker ι κ μ where
  members i := if i ∈ b.selected p ∩ b.behind then none else b.members i
  inboxes i := if i ∈ b.selected p then (b.inboxes i).map (fun c => c.offered m) else b.inboxes i

section Updates
variable [DecidableEq ι] (b : Broker ι κ μ) (i : ι)

def join (k : κ) (capacity : Nat) : Broker ι κ μ where
  members := Function.update b.members i (some k)
  inboxes := Function.update b.inboxes i (some (Mpsc.channel capacity))

def leave : Broker ι κ μ := { b with members := Function.update b.members i none }

/-- A member's entry is replaced. -/
def revise (k : κ) : Broker ι κ μ := { b with members := Function.update b.members i (some k) }

/-- The owner of a mailbox has used it. -/
def hold (c : Mpsc μ) : Broker ι κ μ := { b with inboxes := Function.update b.inboxes i (some c) }

end Updates

section Post
variable {b : Broker ι κ μ} {p : ι → κ → Bool} {m : μ} {i : ι}

/-- A post puts out exactly the selected members that do not keep up. -/
theorem post_members_iff {k : κ} : (b.post p m).members i = some k ↔
    b.members i = some k ∧ ¬ (i ∈ b.selected p ∧ i ∈ b.behind) := by
  by_cases out : i ∈ b.selected p ∧ i ∈ b.behind
  · simp [post, out]
  · simp [post, out]

theorem post_inbox_selected (chosen : i ∈ b.selected p) :
    (b.post p m).inboxes i = (b.inboxes i).map (fun c => c.offered m) := if_pos chosen

theorem post_inbox_other (other : i ∉ b.selected p) : (b.post p m).inboxes i = b.inboxes i :=
  if_neg other

end Post

end Broker
end Foundation
