import Mathlib.Data.List.Basic

/-!
# Scanning an argument vector

A loop walks over the arguments by index. What one of them does is decided with the
one after it in sight, which it may take as its value. The loop is the recursion on
what is left of the vector.
-/

namespace Foundation

/-- What an argument does, seen with the one after it; `true` when that one is taken
with it. -/
abbrev ArgumentStep (ε σ α : Type) := σ → α → Option α → Except ε (σ × Bool)

namespace ArgumentStep
variable {ε σ α : Type} (step : ArgumentStep ε σ α)

/-- The loop from an index. -/
def loop (args : List α) (i : Nat) (s : σ) : Except ε σ :=
  if inside : i < args.length then
    match step s args[i] args[i + 1]? with
    | .error e => .error e
    | .ok (s, true) => loop args (i + 2) s
    | .ok (s, false) => loop args (i + 1) s
  else .ok s
termination_by args.length - i

def scan : List α → σ → Except ε σ
  | [], s => .ok s
  | [a], s => (step s a none).map Prod.fst
  | a :: b :: rest, s =>
    match step s a (some b) with
    | .error e => .error e
    | .ok (s, true) => scan rest s
    | .ok (s, false) => scan (b :: rest) s

theorem scan_cons (a : α) (rest : List α) (s : σ) :
    scan step (a :: rest) s =
      match step s a rest.head? with
      | .error e => .error e
      | .ok (s, true) => scan step rest.tail s
      | .ok (s, false) => scan step rest s := by
  cases rest with
  | cons b rest => rw [scan]; rfl
  | nil =>
    rw [scan, List.head?_nil, List.tail_nil]
    rcases step s a none with e | ⟨t, _ | _⟩ <;> simp only [Except.map, scan]

theorem loop_eq_scan (args : List α) (i : Nat) (s : σ) :
    loop step args i s = scan step (args.drop i) s := by
  induction i, s using loop.induct step args with
  | case1 i s inside e failed =>
    rw [loop, dif_pos inside, failed, List.drop_eq_getElem_cons inside, scan_cons,
      List.head?_drop, failed]
  | case2 i s inside t taken ih =>
    rw [loop, dif_pos inside, taken, List.drop_eq_getElem_cons inside, scan_cons,
      List.head?_drop, taken, List.tail_drop]
    exact ih
  | case3 i s inside t alone ih =>
    rw [loop, dif_pos inside, alone, List.drop_eq_getElem_cons inside, scan_cons,
      List.head?_drop, alone]
    exact ih
  | case4 i s outside =>
    rw [loop, dif_neg outside, List.drop_eq_nil_of_le (Nat.le_of_not_lt outside), scan]

/-- Every argument that is no value takes one. -/
def Valued : Prop := ∀ s a next t valued, step s a next = .ok (t, valued) →
  valued = true ∧ next ≠ none

/-- An argument with its value. -/
def put (s : σ) (pair : α × α) : Except ε σ := (step s pair.1 (some pair.2)).map Prod.fst

/-- Arguments and values in a row. -/
def spread (pairs : List (α × α)) : List α := pairs.flatMap fun pair => [pair.1, pair.2]

variable {step}

/-- Where every argument takes a value, the scan accepts the rows of pairs. -/
theorem scan_ok_iff (valued : step.Valued) (args : List α) (s t : σ) :
    scan step args s = .ok t ↔
      ∃ pairs, args = spread pairs ∧ pairs.foldlM step.put s = .ok t := by
  constructor
  · intro accepted
    induction args, s using scan.induct step with
    | case1 s => exact ⟨[], rfl, accepted⟩
    | case2 a s =>
      rw [scan] at accepted
      rcases reads : step s a none with e | ⟨u, took⟩
      · simp [reads, Except.map] at accepted
      · exact absurd rfl (valued _ _ _ _ _ reads).2
    | case3 a b rest s e failed =>
      rw [scan, failed] at accepted
      cases accepted
    | case4 a b rest s u taken ih =>
      rw [scan, taken] at accepted
      obtain ⟨pairs, rfl, folded⟩ := ih accepted
      refine ⟨(a, b) :: pairs, rfl, ?_⟩
      rw [List.foldlM_cons, put, taken]
      exact folded
    | case5 a b rest s u alone ih =>
      exact absurd (valued _ _ _ _ _ alone).1 nofun
  · rintro ⟨pairs, rfl, folded⟩
    induction pairs generalizing s with
    | nil => exact folded
    | cons pair pairs ih =>
      rw [List.foldlM_cons, put] at folded
      rcases reads : step s pair.1 (some pair.2) with e | ⟨u, took⟩
      · rw [reads] at folded
        cases folded
      · rw [reads] at folded
        obtain ⟨rfl, _⟩ := valued _ _ _ _ _ reads
        have accepted := ih u folded
        rw [spread, List.flatMap_cons, List.cons_append, List.cons_append, List.nil_append, scan,
          reads]
        exact accepted

end ArgumentStep
end Foundation
