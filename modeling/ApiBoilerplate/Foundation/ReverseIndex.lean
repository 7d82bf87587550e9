import Mathlib.Data.Finmap
import Mathlib.Data.Finset.Basic

/-!
# Finite maps and reverse indexes

`FinMap` is a finite map that is equal to another one exactly when all lookups
agree. A reverse index maps a key to the nonempty set of values filed under it;
`attach` and `detach` are its two updates. Sets are folded as multisets, which
is well defined only because the folded updates commute: no result depends on
the order in which a hash set is traversed.
-/

namespace Foundation

universe u v w

abbrev FinMap (K : Type u) (V : Type v) := Finmap (fun _ : K => V)

namespace FinMap
variable {K : Type u} {V : Type v} [DecidableEq K]

theorem lookup_insert_eq (m : FinMap K V) (k k' : K) (v : V) :
    (m.insert k v).lookup k' = if k' = k then some v else m.lookup k' := by
  by_cases h : k' = k
  · subst h
    simp
  · simp [h, Finmap.lookup_insert_of_ne m h]

theorem lookup_erase_eq (m : FinMap K V) (k k' : K) :
    (m.erase k).lookup k' = if k' = k then none else m.lookup k' := by
  by_cases h : k' = k
  · subst h
    simp
  · simp [h, Finmap.lookup_erase_ne h]

section Entries
variable {A : Type w} (key : A → K) (value : A → V)

/-- Entries are written one after the other. -/
def insertAll (m : FinMap K V) (entries : List A) : FinMap K V :=
  entries.foldl (fun m a => m.insert (key a) (value a)) m

theorem lookup_insertAll_of_absent (m : FinMap K V) {entries : List A} {k : K}
    (absent : ∀ a ∈ entries, key a ≠ k) :
    (insertAll key value m entries).lookup k = m.lookup k := by
  induction entries generalizing m with
  | nil => rfl
  | cons a rest ih =>
    obtain ⟨other, absent⟩ := List.forall_mem_cons.mp absent
    exact (ih _ absent).trans (Finmap.lookup_insert_of_ne m other.symm)

/-- Of the entries under one key, the last one stays. -/
theorem lookup_insertAll_of_last (m : FinMap K V) (before : List A) (a : A) {after : List A}
    (last : ∀ b ∈ after, key b ≠ key a) :
    (insertAll key value m (before ++ a :: after)).lookup (key a) = some (value a) := by
  rw [insertAll, List.foldl_append, List.foldl_cons]
  exact (lookup_insertAll_of_absent key value _ last).trans (Finmap.lookup_insert _)

end Entries

end FinMap

/-- The values filed under each key. -/
abbrev Index (K : Type u) (V : Type v) := FinMap K (Finset V)

namespace Index
variable {K : Type u} {V : Type v} [DecidableEq K] [DecidableEq V]

def members (ix : Index K V) (k : K) : Finset V := (ix.lookup k).getD ∅

def attach (ix : Index K V) (k : K) (v : V) : Index K V :=
  ix.insert k (insert v (ix.members k))

/-- Take `v` out of the set under `k`, leaving the set behind even if empty. -/
def remove (ix : Index K V) (k : K) (v : V) : Index K V :=
  match ix.lookup k with
  | some s => ix.insert k (s.erase v)
  | none => ix

/-- Drop the entry of `k` if its set is empty. -/
def prune (ix : Index K V) (k : K) : Index K V :=
  match ix.lookup k with
  | some s => if s = ∅ then ix.erase k else ix
  | none => ix

def detach (ix : Index K V) (k : K) (v : V) : Index K V := (ix.remove k v).prune k

def NoEmpty (ix : Index K V) : Prop := ∀ k s, ix.lookup k = some s → s ≠ ∅

omit [DecidableEq V] in
@[simp] theorem members_empty (k : K) : (∅ : Index K V).members k = ∅ := by
  simp [members]

@[simp] theorem mem_members_attach (ix : Index K V) (k k' : K) (v w : V) :
    w ∈ (ix.attach k v).members k' ↔ (k' = k ∧ w = v) ∨ w ∈ ix.members k' := by
  by_cases h : k' = k
  · subst h
    simp [attach, members]
  · simp [attach, members, h]

theorem lookup_remove (ix : Index K V) (k k' : K) (v : V) :
    (ix.remove k v).lookup k' =
      if k' = k then (ix.lookup k).map (fun s => s.erase v) else ix.lookup k' := by
  unfold remove
  cases hk : ix.lookup k with
  | none =>
    by_cases h : k' = k
    · subst h
      simp [hk]
    · simp [h]
  | some s => simp [FinMap.lookup_insert_eq]

theorem lookup_prune (ix : Index K V) (k k' : K) :
    (ix.prune k).lookup k' =
      if k' = k then (ix.lookup k).filter (fun s => s ≠ ∅) else ix.lookup k' := by
  unfold prune
  by_cases h : k' = k
  · subst h
    cases hk : ix.lookup k' with
    | none => simp [hk]
    | some s =>
      by_cases hs : s = ∅
      · simp [hs, Option.filter]
      · simp [hs, hk, Option.filter]
  · cases hk : ix.lookup k with
    | none => simp [h]
    | some s =>
      by_cases hs : s = ∅
      · simp [hs, h]
      · simp [hs, h]

@[simp] theorem members_prune (ix : Index K V) (k k' : K) :
    (ix.prune k).members k' = ix.members k' := by
  simp only [members, lookup_prune]
  by_cases h : k' = k
  · subst h
    cases hk : ix.lookup k' with
    | none => simp
    | some s =>
      by_cases hs : s = ∅
      · simp [hs, Option.filter]
      · simp [hs, Option.filter]
  · simp [h]

@[simp] theorem mem_members_remove (ix : Index K V) (k k' : K) (v w : V) :
    w ∈ (ix.remove k v).members k' ↔ w ∈ ix.members k' ∧ ¬ (k' = k ∧ w = v) := by
  simp only [members, lookup_remove]
  by_cases h : k' = k
  · subst h
    cases hk : ix.lookup k' with
    | none => simp
    | some s => simp [and_comm]
  · simp [h]

@[simp] theorem mem_members_detach (ix : Index K V) (k k' : K) (v w : V) :
    w ∈ (ix.detach k v).members k' ↔ w ∈ ix.members k' ∧ ¬ (k' = k ∧ w = v) := by
  simp only [detach, members_prune, mem_members_remove]

theorem lookup_detach (ix : Index K V) (k k' : K) (v : V) :
    (ix.detach k v).lookup k' =
      if k' = k then ((ix.lookup k).map (fun s => s.erase v)).filter (fun s => s ≠ ∅)
      else ix.lookup k' := by
  by_cases h : k' = k
  · subst h
    simp [detach, lookup_prune, lookup_remove]
  · simp [detach, lookup_prune, lookup_remove, h]

omit [DecidableEq K] [DecidableEq V] in
theorem filter_erase_comm [DecidableEq V] (o : Option (Finset V)) (v w : V) :
    ((((o.map (fun s => s.erase v)).filter (fun s => s ≠ ∅)).map (fun s => s.erase w)).filter
        (fun s => s ≠ ∅)) = (o.map (fun s => (s.erase v).erase w)).filter (fun s => s ≠ ∅) := by
  cases o with
  | none => rfl
  | some s =>
    by_cases h : s.erase v = ∅
    · simp [h, Option.filter]
    · simp [h, Option.filter]

/-- Two detaches commute, also when they empty the same entry. -/
theorem detach_comm (ix : Index K V) (k k' : K) (v v' : V) :
    (ix.detach k v).detach k' v' = (ix.detach k' v').detach k v := by
  apply Finmap.ext_lookup
  intro x
  by_cases same : k' = k
  · subst same
    by_cases hx : x = k'
    · subst hx
      have swap : (fun s : Finset V => (s.erase v).erase v') =
          (fun s => (s.erase v').erase v) := by
        funext s
        exact Finset.erase_right_comm
      rw [lookup_detach, if_pos rfl, lookup_detach, if_pos rfl, lookup_detach, if_pos rfl,
        lookup_detach, if_pos rfl, filter_erase_comm, filter_erase_comm, swap]
    · simp [lookup_detach, hx]
  · have other : ¬ k = k' := fun h => same h.symm
    by_cases hx : x = k
    · subst hx
      simp [lookup_detach, other]
    · by_cases hx' : x = k'
      · subst hx'
        simp [lookup_detach, same]
      · simp [lookup_detach, hx, hx']

instance (v : V) : RightCommutative (fun (ix : Index K V) (k : K) => ix.detach k v) where
  right_comm ix k k' := detach_comm ix k k' v v

/-- Take `v` out from under every key of `ks`. -/
def detachAll (ix : Index K V) (ks : Finset K) (v : V) : Index K V :=
  ks.val.foldl (fun ix k => ix.detach k v) ix

theorem mem_members_foldl_detach (ks : Multiset K) (ix : Index K V) (k' : K) (v w : V) :
    w ∈ (ks.foldl (fun ix k => ix.detach k v) ix).members k' ↔
      w ∈ ix.members k' ∧ ¬ (k' ∈ ks ∧ w = v) := by
  induction ks using Multiset.induction generalizing ix with
  | empty => simp
  | cons k ks ih =>
    rw [Multiset.foldl_cons, ih]
    simp only [mem_members_detach, Multiset.mem_cons]
    tauto

@[simp] theorem mem_members_detachAll (ix : Index K V) (ks : Finset K) (k' : K) (v w : V) :
    w ∈ (ix.detachAll ks v).members k' ↔ w ∈ ix.members k' ∧ ¬ (k' ∈ ks ∧ w = v) :=
  mem_members_foldl_detach ks.val ix k' v w

theorem detachAll_detach_comm (ix : Index K V) (ks : Finset K) (k' : K) (v v' : V) :
    (ix.detachAll ks v).detach k' v' = (ix.detach k' v').detachAll ks v := by
  unfold detachAll
  induction ks.val using Multiset.induction generalizing ix with
  | empty => rfl
  | cons k ks ih => rw [Multiset.foldl_cons, Multiset.foldl_cons, ih, detach_comm]

theorem detachAll_comm (ix : Index K V) (ks ks' : Finset K) (v v' : V) :
    (ix.detachAll ks v).detachAll ks' v' = (ix.detachAll ks' v').detachAll ks v := by
  conv_lhs => rw [detachAll]
  conv_rhs => rw [detachAll.eq_def ix ks' v']
  induction ks'.val using Multiset.induction generalizing ix with
  | empty => rfl
  | cons k ks' ih => rw [Multiset.foldl_cons, Multiset.foldl_cons, detachAll_detach_comm, ih]

omit [DecidableEq V] in
theorem NoEmpty.empty : (∅ : Index K V).NoEmpty := by
  intro k s h
  simp at h

theorem NoEmpty.attach {ix : Index K V} (h : ix.NoEmpty) (k : K) (v : V) :
    (ix.attach k v).NoEmpty := by
  intro k' s hs
  rw [Index.attach, FinMap.lookup_insert_eq] at hs
  split_ifs at hs with hk
  · rw [← Option.some.inj hs]
    exact Finset.insert_ne_empty v _
  · exact h k' s hs

theorem NoEmpty.detach {ix : Index K V} (h : ix.NoEmpty) (k : K) (v : V) :
    (ix.detach k v).NoEmpty := by
  intro k' s hs
  rw [lookup_detach] at hs
  split_ifs at hs with hk
  · have kept := (Option.filter_eq_some_iff.mp hs).2
    simpa using kept
  · exact h k' s hs

theorem NoEmpty.detachAll {ix : Index K V} (h : ix.NoEmpty) (ks : Finset K) (v : V) :
    (ix.detachAll ks v).NoEmpty := by
  unfold Index.detachAll
  induction ks.val using Multiset.induction generalizing ix with
  | empty => exact h
  | cons k ks ih =>
    rw [Multiset.foldl_cons]
    exact ih (h.detach k v)

end Index
end Foundation
