import Mathlib.Data.List.Basic

/-!
# Bounded channels

A bounded first-in first-out channel, with the messages its receiver has taken
so far kept beside the ones still queued. The bound is part of the type, so a
channel holding more messages than its capacity cannot be built. Dropping the
receiver closes the channel to senders and loses what is queued.
-/

namespace Foundation

universe u

inductive TrySendError where
  | full
  | closed
  deriving DecidableEq, Repr

structure Mpsc (α : Type u) where
  taken : List α
  queue : List α
  capacity : Nat
  rxAlive : Bool
  bounded : queue.length ≤ capacity

namespace Mpsc
variable {α : Type u}

def channel (capacity : Nat) : Mpsc α := ⟨[], [], capacity, true, Nat.zero_le _⟩

/-- Every message ever accepted, oldest first. -/
def sent (c : Mpsc α) : List α := c.taken ++ c.queue

def push (c : Mpsc α) (a : α) (room : c.queue.length < c.capacity) : Mpsc α where
  taken := c.taken
  queue := c.queue ++ [a]
  capacity := c.capacity
  rxAlive := c.rxAlive
  bounded := by
    rw [List.length_append, List.length_singleton]
    exact room

/-- A closed channel is reported as closed even when it is full as well. -/
def trySend (c : Mpsc α) (a : α) : Except TrySendError (Mpsc α) :=
  if c.rxAlive then
    if room : c.queue.length < c.capacity then .ok (c.push a room) else .error .full
  else .error .closed

/-- The channel after a send that may have been refused. -/
def offered (c : Mpsc α) (a : α) : Mpsc α :=
  match c.trySend a with
  | .ok c' => c'
  | .error _ => c

def recv (c : Mpsc α) : Option (α × Mpsc α) :=
  match split : c.queue with
  | [] => none
  | a :: rest => some (a, ⟨c.taken ++ [a], rest, c.capacity, c.rxAlive, by
      have := c.bounded
      rw [split, List.length_cons] at this
      omega⟩)

def dropReceiver (c : Mpsc α) : Mpsc α := { c with rxAlive := false }

/-- A send would be accepted. -/
def HasRoom (c : Mpsc α) : Prop := c.rxAlive = true ∧ c.queue.length < c.capacity

/-- A send would be refused because the receiver does not keep up. -/
def IsFull (c : Mpsc α) : Prop := c.rxAlive = true ∧ c.capacity ≤ c.queue.length

instance (c : Mpsc α) : Decidable c.HasRoom := inferInstanceAs (Decidable (_ ∧ _))

instance (c : Mpsc α) : Decidable c.IsFull := inferInstanceAs (Decidable (_ ∧ _))

@[simp] theorem channel_sent (n : Nat) : (channel n : Mpsc α).sent = [] := rfl

@[simp] theorem push_sent (c : Mpsc α) (a : α) (room : c.queue.length < c.capacity) :
    (c.push a room).sent = c.sent ++ [a] := by
  simp [sent, push]

@[simp] theorem dropReceiver_sent (c : Mpsc α) : c.dropReceiver.sent = c.sent := rfl

theorem trySend_of_room {c : Mpsc α} (h : c.HasRoom) (a : α) :
    c.trySend a = .ok (c.push a h.2) := by
  simp [trySend, h.1, h.2]

theorem trySend_ok {c c' : Mpsc α} {a : α} (h : c.trySend a = .ok c') :
    ∃ room : c.HasRoom, c' = c.push a room.2 := by
  unfold trySend at h
  split_ifs at h with alive room
  exact ⟨⟨alive, room⟩, (Except.ok.inj h).symm⟩

theorem trySend_full_iff (c : Mpsc α) (a : α) :
    c.trySend a = .error .full ↔ c.IsFull := by
  unfold trySend IsFull
  split_ifs with alive room
  · simp [Nat.not_le.mpr room]
  · simp [alive, Nat.not_lt.mp room]
  · simp [alive]

theorem offered_of_room {c : Mpsc α} (h : c.HasRoom) (a : α) : c.offered a = c.push a h.2 := by
  simp [offered, trySend_of_room h a]

theorem offered_of_not_room {c : Mpsc α} (h : ¬ c.HasRoom) (a : α) : c.offered a = c := by
  unfold offered
  split
  · rename_i c' sent
    exact absurd (trySend_ok sent).1 h
  · rfl

@[simp] theorem offered_capacity (c : Mpsc α) (a : α) : (c.offered a).capacity = c.capacity := by
  by_cases h : c.HasRoom
  · rw [offered_of_room h]
    rfl
  · rw [offered_of_not_room h]

@[simp] theorem offered_rxAlive (c : Mpsc α) (a : α) : (c.offered a).rxAlive = c.rxAlive := by
  by_cases h : c.HasRoom
  · rw [offered_of_room h]
    rfl
  · rw [offered_of_not_room h]

theorem offered_sent (c : Mpsc α) (a : α) :
    (c.offered a).sent = if c.HasRoom then c.sent ++ [a] else c.sent := by
  by_cases h : c.HasRoom
  · rw [offered_of_room h, push_sent, if_pos h]
  · rw [offered_of_not_room h, if_neg h]

theorem recv_some {c c' : Mpsc α} {a : α} (h : c.recv = some (a, c')) :
    c.queue = a :: c'.queue ∧ c'.taken = c.taken ++ [a] ∧ c'.capacity = c.capacity ∧
      c'.rxAlive = c.rxAlive := by
  unfold recv at h
  split at h
  · cases h
  · rename_i b rest split
    cases h
    exact ⟨split, rfl, rfl, rfl⟩

/-- Taking a message moves it from the queue to what was taken. -/
theorem recv_sent {c c' : Mpsc α} {a : α} (h : c.recv = some (a, c')) : c'.sent = c.sent := by
  obtain ⟨queue, taken, _, _⟩ := recv_some h
  simp [sent, queue, taken]

end Mpsc
end Foundation
