import Mathlib.Data.List.Basic

/-!
# Stores that are asked until they are empty

A call on a store answers an item, that there is none, or an error. When every
item lowers a count by one and the answer is "none" at zero only, any number of
calls answers as many items as were counted and nothing from then on. A relation
between an item and whatever may still come relates the answers pairwise.
-/

namespace Foundation

universe u v w

structure Supply (σ : Type u) (ε : Type v) (α : Type w) where
  call : σ → Except ε (Option α) → σ → Prop
  count : σ → Nat
  /-- What a later call may answer. -/
  comes : σ → α → Prop

namespace Supply
variable {σ : Type u} {ε : Type v} {α : Type w}

/-- The answers of calls made one after the other. -/
inductive Calls (S : Supply σ ε α) : σ → List (Except ε (Option α)) → σ → Prop where
  | nil {s : σ} : Calls S s [] s
  | cons {s t u : σ} {answer : Except ε (Option α)} {answers : List (Except ε (Option α))} :
      S.call s answer t → Calls S t answers u → Calls S s (answer :: answers) u

/-- What one call does in the states within `I`. -/
structure Lawful (S : Supply σ ε α) (I : σ → Prop) (R : α → α → Prop) : Prop where
  answered : ∀ s, I s → ∃ answer t, S.call s answer t
  flawless : ∀ s e t, I s → ¬ S.call s (.error e) t
  empty : ∀ s t, I s → S.call s (.ok none) t → S.count s = 0 ∧ t = s
  taken : ∀ s a t, I s → S.call s (.ok (some a)) t → I t ∧ S.count s = S.count t + 1 ∧
    S.comes s a ∧ ∀ b, S.comes t b → S.comes s b ∧ R a b

/-- Any number of calls answers the counted items, each related to the later ones,
and then nothing. -/
structure Drains (S : Supply σ ε α) (R : α → α → Prop) (s : σ) : Prop where
  answered : ∀ n, ∃ answers t, S.Calls s answers t ∧ answers.length = n
  lowers : ∀ a t, S.call s (.ok (some a)) t → S.count s = S.count t + 1
  exact : ∀ answers t, S.Calls s answers t → ∃ items : List α,
    answers = items.map (fun a => .ok (some a)) ++
      List.replicate (answers.length - S.count s) (.ok none) ∧
    items.length = min answers.length (S.count s) ∧ items.Pairwise R ∧ ∀ a ∈ items, S.comes s a

variable {S : Supply σ ε α} {I : σ → Prop} {R : α → α → Prop} {s : σ}

theorem Lawful.kept (lawful : S.Lawful I R) (holds : I s) {answer : Except ε (Option α)} {t : σ}
    (called : S.call s answer t) : I t := by
  rcases answer with e | _ | a
  · exact absurd called (lawful.flawless s e t holds)
  · exact (lawful.empty s t holds called).2 ▸ holds
  · exact (lawful.taken s a t holds called).1

theorem Lawful.calls (lawful : S.Lawful I R) (holds : I s) (n : Nat) :
    ∃ answers t, S.Calls s answers t ∧ answers.length = n := by
  induction n generalizing s with
  | zero => exact ⟨[], s, .nil, rfl⟩
  | succ n ih =>
    obtain ⟨answer, t, called⟩ := lawful.answered s holds
    obtain ⟨answers, u, rest, length⟩ := ih (lawful.kept holds called)
    exact ⟨answer :: answers, u, .cons called rest, by rw [List.length_cons, length]⟩

theorem Lawful.items (lawful : S.Lawful I R) (holds : I s)
    {answers : List (Except ε (Option α))} {t : σ} (calls : S.Calls s answers t) :
    ∃ items : List α, answers = items.map (fun a => .ok (some a)) ++
        List.replicate (answers.length - S.count s) (.ok none) ∧
      items.length = min answers.length (S.count s) ∧ items.Pairwise R ∧
      ∀ a ∈ items, S.comes s a := by
  induction calls with
  | nil => exact ⟨[], by simp⟩
  | @cons s t u answer answers called rest ih =>
    obtain ⟨items, split, length, ordered, come⟩ := ih (lawful.kept holds called)
    rcases answer with e | _ | a
    · exact absurd called (lawful.flawless s e t holds)
    · obtain ⟨zero, rfl⟩ := lawful.empty s t holds called
      rw [zero, Nat.min_zero, List.length_eq_zero_iff] at length
      subst length
      refine ⟨[], ?_, by rw [zero]; rfl, .nil, by simp⟩
      rw [zero, Nat.sub_zero, List.map_nil, List.nil_append] at split ⊢
      rw [List.length_cons, List.replicate_succ, ← split]
    · obtain ⟨_, lowered, comes, later⟩ := lawful.taken s a t holds called
      refine ⟨a :: items, ?_, ?_, ?_, ?_⟩
      · rw [List.length_cons, lowered, Nat.add_sub_add_right, List.map_cons, List.cons_append,
          ← split]
      · rw [List.length_cons, List.length_cons, length, lowered]
        omega
      · exact .cons (fun b listed => (later b (come b listed)).2) ordered
      · intro b listed
        rcases List.mem_cons.mp listed with rfl | listed
        · exact comes
        · exact (later b (come b listed)).1

theorem Lawful.drains (lawful : S.Lawful I R) (holds : I s) : S.Drains R s where
  answered := lawful.calls holds
  lowers := fun a t called => (lawful.taken s a t holds called).2.1
  exact := fun _ _ calls => lawful.items holds calls

end Supply
end Foundation
