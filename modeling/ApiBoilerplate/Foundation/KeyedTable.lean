import Mathlib.Data.List.Nodup

/-!
# Tables with a key

Rows with a column that is unique, as a list: a lookup, an update and a deletion by
the value of the column, and what each leaves of the other rows and of another key.
-/

namespace Foundation

universe u v w

/-- No two rows have the same key. -/
def Keyed {ρ : Type u} {κ : Type v} (key : ρ → κ) (rows : List ρ) : Prop := (rows.map key).Nodup

namespace Table
variable {ρ : Type u} {κ : Type v} [DecidableEq κ]

def select (key : ρ → κ) (k : κ) (rows : List ρ) : Option ρ := rows.find? fun r => key r = k

def modify (key : ρ → κ) (k : κ) (f : ρ → ρ) (rows : List ρ) : List ρ :=
  rows.map fun r => if key r = k then f r else r

def delete (key : ρ → κ) (k : κ) (rows : List ρ) : List ρ := rows.filter fun r => key r ≠ k

variable {key : ρ → κ} {rows : List ρ} {r : ρ} {k l : κ} {f : ρ → ρ}

theorem mem_of_select (found : select key k rows = some r) : r ∈ rows ∧ key r = k :=
  ⟨List.mem_of_find?_eq_some found, by simpa using List.find?_some found⟩

theorem select_eq_none : select key k rows = none ↔ ∀ r ∈ rows, key r ≠ k := by
  simp [select, List.find?_eq_none]

/-- In a keyed table the row found is the only one there is. -/
theorem select_eq_some (keyed : Keyed key rows) :
    select key k rows = some r ↔ r ∈ rows ∧ key r = k := by
  constructor
  · exact mem_of_select
  · rintro ⟨listed, rfl⟩
    cases found : select key (key r) rows with
    | none => exact absurd rfl (select_eq_none.mp found r listed)
    | some r' =>
      obtain ⟨listed', same⟩ := mem_of_select found
      rw [List.inj_on_of_nodup_map keyed listed' listed same]

theorem select_append (fresh : select key (key r) rows = none) :
    select key k (rows ++ [r]) = if key r = k then some r else select key k rows := by
  by_cases here : key r = k
  · subst here
    rw [select] at fresh
    simp [select, List.find?_append, fresh]
  · simp [select, List.find?_append, here]

theorem select_modify (keeps : ∀ r, key (f r) = key r) :
    select key l (modify key k f rows) =
      if l = k then (select key l rows).map f else select key l rows := by
  induction rows with
  | nil => simp [select, modify]
  | cons r rows ih =>
    simp only [select, modify, List.map_cons, List.find?_cons] at ih ⊢
    by_cases here : key r = k
    · by_cases wanted : k = l
      · subst wanted
        simp [here, keeps]
      · simp only [here, if_true, keeps, wanted, decide_false, if_neg (Ne.symm wanted)] at ih ⊢
        exact ih
    · by_cases wanted : key r = l
      · subst wanted
        simp [here]
      · simp only [here, if_false, wanted, decide_false] at ih ⊢
        exact ih

theorem select_delete :
    select key l (delete key k rows) = if l = k then none else select key l rows := by
  by_cases here : l = k
  · rw [if_pos here, select_eq_none]
    intro r listed
    rw [here]
    simpa using (List.mem_filter.mp listed).2
  · rw [if_neg here, select, delete, List.find?_filter, select]
    congr 1
    funext r
    by_cases wanted : key r = l
    · simp [wanted, here]
    · simp [wanted]

theorem mem_modify (h : r ∈ modify key k f rows) :
    ∃ before ∈ rows, r = before ∨ (key before = k ∧ r = f before) := by
  obtain ⟨before, listed, rfl⟩ := List.mem_map.mp h
  refine ⟨before, listed, ?_⟩
  split
  · exact Or.inr ⟨‹_›, rfl⟩
  · exact Or.inl rfl

theorem mem_of_mem_delete (h : r ∈ delete key k rows) : r ∈ rows := (List.mem_filter.mp h).1

section OtherKeys
variable {κ' : Type w} {column : ρ → κ'}

/-- A column that the update leaves alone stays a key. -/
theorem keyed_modify (keyed : Keyed column rows) (keeps : ∀ r, column (f r) = column r) :
    Keyed column (modify key k f rows) := by
  have same : (modify key k f rows).map column = rows.map column := by
    rw [modify, List.map_map]
    refine List.map_congr_left fun r _ => ?_
    simp only [Function.comp_apply]
    split
    · exact keeps r
    · rfl
  rw [Keyed, same]
  exact keyed

theorem keyed_delete (keyed : Keyed column rows) : Keyed column (delete key k rows) :=
  keyed.sublist (List.filter_sublist.map column)

end OtherKeys

theorem keyed_append (keyed : Keyed key rows) (fresh : select key (key r) rows = none) :
    Keyed key (rows ++ [r]) := by
  rw [Keyed, List.map_append, List.map_singleton]
  refine keyed.append (List.nodup_singleton _) ?_
  rw [List.disjoint_singleton]
  rintro held
  obtain ⟨other, listed, same⟩ := List.mem_map.mp held
  exact select_eq_none.mp fresh other listed same

section Related
variable {σ : Type w} {key' : σ → κ} {R : ρ → σ → Prop} {rows' : List σ} {f' : σ → σ}

theorem select_related (keys : ∀ r r', R r r' → key r = key' r')
    (related : List.Forall₂ R rows rows') :
    Option.Rel R (select key k rows) (select key' k rows') := by
  induction related with
  | nil => exact .none
  | @cons r r' rows rows' first rest ih =>
    have same : key r = key' r' := keys r r' first
    simp only [select, List.find?_cons, ← same] at ih ⊢
    by_cases here : key r = k
    · simpa [here] using Option.Rel.some first
    · simpa [here] using ih

theorem modify_related (keys : ∀ r r', R r r' → key r = key' r')
    (changes : ∀ r r', R r r' → R (f r) (f' r')) (related : List.Forall₂ R rows rows') :
    List.Forall₂ R (modify key k f rows) (modify key' k f' rows') := by
  induction related with
  | nil => exact .nil
  | @cons r r' rows rows' first rest ih =>
    refine .cons ?_ ih
    change R (if key r = k then f r else r) (if key' r' = k then f' r' else r')
    rw [← keys r r' first]
    split
    · exact changes r r' first
    · exact first

theorem delete_related (keys : ∀ r r', R r r' → key r = key' r')
    (related : List.Forall₂ R rows rows') :
    List.Forall₂ R (delete key k rows) (delete key' k rows') := by
  induction related with
  | nil => exact .nil
  | @cons r r' rows rows' first rest ih =>
    have same : key r = key' r' := keys r r' first
    by_cases here : key r = k
    · simpa [delete, ← same, here] using ih
    · simpa [delete, ← same, here] using And.intro first ih

end Related

end Table
end Foundation
