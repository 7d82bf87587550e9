import Mathlib.Logic.Basic

/-!
# Deterministic labelled machines

All nondeterminism of a system sits in its labels: which task moves, what an
outside call answers, in which order a hash set is read. The step function
stays computable, a run is a list of labels, and a concrete run is replayed by
evaluation. Runs may be restricted to steps that meet a condition on the state
they start from.
-/

namespace Foundation

universe u v w u' v'

structure Machine (σ : Type u) (ℓ : Type v) where
  init : σ
  step : σ → ℓ → Option σ

namespace Machine
variable {σ : Type u} {ℓ : Type v}

/-- Runs whose every step meets `C` in the state it starts from. -/
inductive Run (M : Machine σ ℓ) (C : σ → ℓ → Prop) : List ℓ → σ → Prop where
  | start : Run M C [] M.init
  | next {ls : List ℓ} {s t : σ} {l : ℓ} :
      Run M C ls s → C s l → M.step s l = some t → Run M C (ls ++ [l]) t

def ReachableWhere (M : Machine σ ℓ) (C : σ → ℓ → Prop) (s : σ) : Prop :=
  ∃ ls, M.Run C ls s

def Reachable (M : Machine σ ℓ) (s : σ) : Prop := M.ReachableWhere (fun _ _ => True) s

variable {M : Machine σ ℓ} {C D : σ → ℓ → Prop}

theorem ReachableWhere.next {s t : σ} {l : ℓ} (reach : M.ReachableWhere C s)
    (cond : C s l) (step : M.step s l = some t) : M.ReachableWhere C t := by
  obtain ⟨ls, run⟩ := reach
  exact ⟨ls ++ [l], .next run cond step⟩

/-- A property of the labels so far and the state, carried along a run. -/
theorem Run.history {I : List ℓ → σ → Prop} (start : I [] M.init)
    (next : ∀ ls s l t, I ls s → C s l → M.step s l = some t → I (ls ++ [l]) t)
    {ls : List ℓ} {s : σ} (run : M.Run C ls s) : I ls s := by
  induction run with
  | start => exact start
  | next _ cond step ih => exact next _ _ _ _ ih cond step

theorem ReachableWhere.invariant {I : σ → Prop} (start : I M.init)
    (next : ∀ s l t, I s → C s l → M.step s l = some t → I t)
    {s : σ} (reach : M.ReachableWhere C s) : I s := by
  obtain ⟨ls, run⟩ := reach
  exact run.history (I := fun _ s => I s) start (fun _ => next)

/-- A property that holds at first and is lost in exactly the steps outside `D`
holds throughout the runs within `D` and no others. -/
theorem Run.throughout_iff {P : σ → Prop} (start : P M.init)
    (lost : ∀ s l t, M.Reachable s → P s → M.step s l = some t → (P t ↔ D s l)) (ls : List ℓ)
    (s : σ) : (M.Run (fun s _ => P s) ls s ∧ P s) ↔ M.Run D ls s := by
  have reached : ∀ {ls s}, M.Run D ls s → M.Reachable s ∧ P s := by
    intro ls s run
    induction run with
    | start => exact ⟨⟨[], .start⟩, start⟩
    | next _ cond step ih =>
      exact ⟨ih.1.next trivial step, (lost _ _ _ ih.1 ih.2 step).mpr cond⟩
  constructor
  · rintro ⟨run, holds⟩
    induction run with
    | start => exact .start
    | next _ before step ih =>
      have within := ih before
      exact .next within ((lost _ _ _ (reached within).1 before step).mp holds) step
  · intro run
    refine ⟨?_, (reached run).2⟩
    induction run with
    | start => exact .start
    | next run _ step ih => exact .next ih (reached run).2 step

theorem Run.mono (weaker : ∀ s l, C s l → D s l) {ls : List ℓ} {s : σ}
    (run : M.Run C ls s) : M.Run D ls s := by
  induction run with
  | start => exact .start
  | next _ cond step ih => exact .next ih (weaker _ _ cond) step

/-- A condition may be replaced by another that follows from it on the steps there are. -/
theorem Run.imp (follows : ∀ s l t, M.Reachable s → M.step s l = some t → C s l → D s l)
    {ls : List ℓ} {s : σ} (run : M.Run C ls s) : M.Run D ls s := by
  induction run with
  | start => exact .start
  | next run cond step ih =>
    have reached : M.Reachable _ := ⟨_, run.mono fun _ _ _ => trivial⟩
    exact .next ih (follows _ _ _ reached step cond) step

theorem ReachableWhere.reachable {s : σ} (reach : M.ReachableWhere C s) : M.Reachable s := by
  obtain ⟨ls, run⟩ := reach
  exact ⟨ls, run.mono (fun _ _ _ => trivial)⟩

/-- Replay labels from a state; `none` as soon as a label is not enabled or
fails the check. -/
def replay (M : Machine σ ℓ) (check : σ → ℓ → Bool) : σ → List ℓ → Option σ
  | s, [] => some s
  | s, l :: ls => if check s l then (M.step s l).bind (fun t => replay M check t ls) else none

theorem Run.extend {check : σ → ℓ → Bool} (sound : ∀ s l, check s l = true → C s l)
    {past : List ℓ} {s : σ} (run : M.Run C past s) (ls : List ℓ) {t : σ}
    (replayed : M.replay check s ls = some t) : M.Run C (past ++ ls) t := by
  induction ls generalizing past s with
  | nil =>
    have same : s = t := Option.some.inj replayed
    subst same
    simpa using run
  | cons l ls ih =>
    cases cond : check s l with
    | false => simp [replay, cond] at replayed
    | true =>
      cases step : M.step s l with
      | none => simp [replay, cond, step] at replayed
      | some r =>
        have rest : M.replay check r ls = some t := by simpa [replay, cond, step] using replayed
        simpa using ih (.next run (sound s l cond) step) rest

theorem run_of_replay {check : σ → ℓ → Bool} (sound : ∀ s l, check s l = true → C s l)
    {ls : List ℓ} {t : σ} (replayed : M.replay check M.init ls = some t) : M.Run C ls t := by
  simpa using Run.extend sound .start ls replayed

/-- Where the labels lead, or the initial state when they cannot be followed. -/
def follow (M : Machine σ ℓ) (check : σ → ℓ → Bool) (ls : List ℓ) : σ :=
  (M.replay check M.init ls).getD M.init

theorem run_follow {check : σ → ℓ → Bool} (sound : ∀ s l, check s l = true → C s l)
    {ls : List ℓ} (followed : (M.replay check M.init ls).isSome = true) :
    M.Run C ls (M.follow check ls) := by
  obtain ⟨s, replayed⟩ := Option.isSome_iff_exists.mp followed
  rw [follow, replayed]
  exact run_of_replay sound replayed

/-- A replayed list of labels whose last state passes the test `p`. -/
theorem exists_run_of_replay {check : σ → ℓ → Bool}
    (sound : ∀ s l, check s l = true → C s l) {p : σ → Bool} (ls : List ℓ)
    (replayed : (M.replay check M.init ls).any p = true) : ∃ s, M.Run C ls s ∧ p s = true := by
  cases h : M.replay check M.init ls with
  | none => simp [h] at replayed
  | some s => exact ⟨s, run_of_replay sound h, by simpa [h] using replayed⟩

theorem reachableWhere_of_replay {check : σ → ℓ → Bool}
    (sound : ∀ s l, check s l = true → C s l) {p : σ → Bool} (ls : List ℓ)
    (replayed : (M.replay check M.init ls).any p = true) :
    ∃ s, M.ReachableWhere C s ∧ p s = true := by
  obtain ⟨s, run, passed⟩ := exists_run_of_replay sound ls replayed
  exact ⟨s, ⟨ls, run⟩, passed⟩

theorem exists_run {p : σ → Bool} (ls : List ℓ)
    (replayed : (M.replay (fun _ _ => true) M.init ls).any p = true) :
    ∃ s, M.Run (fun _ _ => True) ls s ∧ p s = true :=
  exists_run_of_replay (fun _ _ _ => trivial) ls replayed

theorem reachable_of_replay {p : σ → Bool} (ls : List ℓ)
    (replayed : (M.replay (fun _ _ => true) M.init ls).any p = true) :
    ∃ s, M.Reachable s ∧ p s = true :=
  reachableWhere_of_replay (fun _ _ _ => trivial) ls replayed

theorem replay_append {check : σ → ℓ → Bool} {s t : σ} {past : List ℓ} (ls : List ℓ)
    (replayed : M.replay check s past = some t) :
    M.replay check s (past ++ ls) = M.replay check t ls := by
  induction past generalizing s with
  | nil =>
    obtain rfl : s = t := Option.some.inj replayed
    rfl
  | cons l past ih =>
    cases cond : check s l with
    | false => simp [replay, cond] at replayed
    | true =>
      cases step : M.step s l with
      | none => simp [replay, cond, step] at replayed
      | some r =>
        have rest : M.replay check r past = some t := by simpa [replay, cond, step] using replayed
        simpa [replay, cond, step] using ih rest

/-- The labels of a run replay it. -/
theorem Run.replayed {ls : List ℓ} {s : σ} (run : M.Run C ls s) :
    M.replay (fun _ _ => true) M.init ls = some s := by
  induction run with
  | start => rfl
  | next _ _ step ih => simp [replay_append _ ih, replay, step]

/-- The last element of a list is the one split off, or the split is before it. -/
theorem split_last {α : Type w} {xs before after : List α} {x a : α}
    (split : xs ++ [x] = before ++ a :: after) :
    (x = a ∧ before = xs) ∨ ∃ rest, xs = before ++ a :: rest ∧ after = rest ++ [x] := by
  rcases List.eq_nil_or_concat after with rfl | ⟨rest, b, rfl⟩
  · obtain ⟨same, last⟩ := List.append_inj' split rfl
    exact Or.inl ⟨(List.cons.inj last).1, same.symm⟩
  · have shape : xs ++ [x] = (before ++ a :: rest) ++ [b] := by
      rw [split]
      simp
    obtain ⟨same, last⟩ := List.append_inj' shape rfl
    obtain rfl := (List.cons.inj last).1
    exact Or.inr ⟨rest, same, by simp⟩

section Notes
variable {α : Type w}

/-- What is noted while labels are followed from `s`, oldest first; each note
reads the state its step starts from. -/
def notes (M : Machine σ ℓ) (note : σ → ℓ → List α) : σ → List ℓ → List α
  | _, [] => []
  | s, l :: ls => note s l ++ ((M.step s l).map (fun t => notes M note t ls)).getD []

theorem notes_append (note : σ → ℓ → List α) {s t : σ} {past : List ℓ} (ls : List ℓ)
    (replayed : M.replay (fun _ _ => true) s past = some t) :
    M.notes note s (past ++ ls) = M.notes note s past ++ M.notes note t ls := by
  induction past generalizing s with
  | nil =>
    obtain rfl : s = t := Option.some.inj replayed
    rfl
  | cons l past ih =>
    cases step : M.step s l with
    | none => simp [replay, step] at replayed
    | some r =>
      have rest : M.replay (fun _ _ => true) r past = some t := by
        simpa [replay, step] using replayed
      simp [notes, step, ih rest]

/-- A property of the notes so far and the state, carried along a run. -/
theorem Run.noted {note : σ → ℓ → List α} {I : List α → σ → Prop} (start : I [] M.init)
    (next : ∀ noted s l t, I noted s → C s l → M.step s l = some t → I (noted ++ note s l) t)
    {ls : List ℓ} {s : σ} (run : M.Run C ls s) : I (M.notes note M.init ls) s := by
  induction run with
  | start => exact start
  | next past cond step ih =>
    rw [notes_append note _ past.replayed]
    simpa [notes, step] using next _ _ _ _ ih cond step

end Notes

section Recording
variable {ρ : Type w}

/-- The machine with a record kept beside its state. -/
def recording (M : Machine σ ℓ) (start : ρ) (record : σ → ℓ → ρ → ρ) : Machine (σ × ρ) ℓ where
  init := (M.init, start)
  step p l := (M.step p.1 l).map (fun t => (t, record p.1 l p.2))

variable {start : ρ} {record : σ → ℓ → ρ → ρ}

theorem recording_step {p q : σ × ρ} {l : ℓ} :
    (M.recording start record).step p l = some q ↔
      M.step p.1 l = some q.1 ∧ record p.1 l p.2 = q.2 := by
  rw [recording, Option.map_eq_some_iff]
  constructor
  · rintro ⟨t, step, rfl⟩
    exact ⟨step, rfl⟩
  · rintro ⟨step, recorded⟩
    exact ⟨q.1, step, by rw [recorded]⟩

/-- A property of a state and the record that belongs to it. -/
theorem ReachableWhere.recording {C : σ × ρ → ℓ → Prop} {I : σ → ρ → Prop}
    (begins : I M.init start)
    (next : ∀ s r l t, M.Reachable s → I s r → C (s, r) l → M.step s l = some t →
      I t (record s l r))
    {p : σ × ρ} (reach : (M.recording start record).ReachableWhere C p) :
    M.Reachable p.1 ∧ I p.1 p.2 := by
  refine reach.invariant (I := fun p => M.Reachable p.1 ∧ I p.1 p.2)
    ⟨⟨[], .start⟩, begins⟩ ?_
  rintro ⟨s, r⟩ l ⟨t, r'⟩ ⟨before, holds⟩ cond step
  obtain ⟨stepped, recorded⟩ := recording_step.mp step
  obtain rfl : record s l r = r' := recorded
  exact ⟨before.next trivial stepped, next s r l t before holds cond stepped⟩

theorem ReachableWhere.of_recording {C : σ × ρ → ℓ → Prop} {p : σ × ρ}
    (reach : (M.recording start record).ReachableWhere C p) : M.Reachable p.1 :=
  (reach.recording (I := fun _ _ => True) trivial fun _ _ _ _ _ _ _ _ => trivial).1

end Recording

section Relabel
variable {κ : Type u'}

/-- The same steps under labels that carry more. -/
def relabel (M : Machine σ ℓ) (f : κ → ℓ) : Machine σ κ := ⟨M.init, fun s k => M.step s (f k)⟩

theorem ReachableWhere.of_relabel {f : κ → ℓ} {C : σ → κ → Prop} {s : σ}
    (reach : (M.relabel f).ReachableWhere C s) : M.Reachable s := by
  have start : M.Reachable (M.relabel f).init := ⟨[], .start⟩
  refine reach.invariant (I := M.Reachable) start fun s k t before _ step => ?_
  exact before.next (l := f k) trivial step

end Relabel

section Together
variable {τ : Type w} {κ : Type u'} {μ : Type v'}

/-- One step, or none. -/
def move (M : Machine σ ℓ) (s : σ) : Option ℓ → Option σ
  | none => some s
  | some l => M.step s l

/-- Each label says which step of either machine it makes, if any. -/
def together (A : Machine σ ℓ) (B : Machine τ κ) (parts : σ × τ → μ → Option ℓ × Option κ) :
    Machine (σ × τ) μ where
  init := (A.init, B.init)
  step p m := (A.move p.1 (parts p m).1).bind
    fun a => (B.move p.2 (parts p m).2).map fun b => (a, b)

variable {A : Machine σ ℓ} {B : Machine τ κ} {parts : σ × τ → μ → Option ℓ × Option κ}

theorem together_step {p q : σ × τ} {m : μ} : (A.together B parts).step p m = some q ↔
    A.move p.1 (parts p m).1 = some q.1 ∧ B.move p.2 (parts p m).2 = some q.2 := by
  change Option.bind _ _ = _ ↔ _
  rw [Option.bind_eq_some_iff]
  constructor
  · rintro ⟨a, left, rest⟩
    obtain ⟨b, right, rfl⟩ := Option.map_eq_some_iff.mp rest
    exact ⟨left, right⟩
  · rintro ⟨left, right⟩
    exact ⟨q.1, left, by rw [right]; rfl⟩

theorem Reachable.move {s t : σ} {l : Option ℓ} (reach : M.Reachable s)
    (moved : M.move s l = some t) : M.Reachable t := by
  cases l with
  | none =>
    obtain rfl := Option.some.inj moved
    exact reach
  | some l => exact reach.next trivial moved

/-- What is proved of either machine alone holds of the two together. -/
theorem Reachable.together {p : σ × τ} (reach : (A.together B parts).Reachable p) :
    A.Reachable p.1 ∧ B.Reachable p.2 := by
  refine reach.invariant (I := fun p => A.Reachable p.1 ∧ B.Reachable p.2)
    ⟨⟨[], .start⟩, ⟨[], .start⟩⟩ ?_
  rintro p m q ⟨left, right⟩ _ step
  obtain ⟨moved, moved'⟩ := together_step.mp step
  exact ⟨left.move moved, right.move moved'⟩

end Together

section Simulation
variable {τ : Type w} {α : Type u'} {B : Machine τ ℓ} {R : σ → τ → Prop}
  {note : σ → ℓ → List α} {note' : τ → ℓ → List α}

/-- Steps that can be followed make runs that can. -/
theorem Run.followed (start : R M.init B.init)
    (next : ∀ s t l s', R s t → M.step s l = some s' → ∃ t', B.step t l = some t' ∧ R s' t')
    {ls : List ℓ} {s : σ} (run : M.Run C ls s) : ∃ t, B.Run (fun _ _ => True) ls t ∧ R s t := by
  induction run with
  | start => exact ⟨B.init, .start, start⟩
  | next _ _ step ih =>
    obtain ⟨t, run, related⟩ := ih
    obtain ⟨t', step', related'⟩ := next _ _ _ _ related step
    exact ⟨t', run.next trivial step', related'⟩

/-- Steps that can be followed, with the same notes, make runs that can. -/
theorem Run.simulated (start : R M.init B.init)
    (next : ∀ s t l s', R s t → M.step s l = some s' →
      ∃ t', B.step t l = some t' ∧ R s' t' ∧ note s l = note' t l)
    {ls : List ℓ} {s : σ} (run : M.Run C ls s) :
    ∃ t, B.Run (fun _ _ => True) ls t ∧ R s t ∧
      M.notes note M.init ls = B.notes note' B.init ls := by
  induction run with
  | start => exact ⟨B.init, .start, start, rfl⟩
  | next past _ step ih =>
    obtain ⟨t, run, related, noted⟩ := ih
    obtain ⟨t', step', related', same⟩ := next _ _ _ _ related step
    refine ⟨t', run.next trivial step', related', ?_⟩
    rw [notes_append note _ past.replayed, notes_append note' _ run.replayed, noted]
    simp [notes, step, step', same]

end Simulation

/-- The same steps from another state on. -/
def startingAt (M : Machine σ ℓ) (s : σ) : Machine σ ℓ := { M with init := s }

/-- Some labels lead from one state to another. -/
def Leads (M : Machine σ ℓ) (s t : σ) : Prop :=
  ∃ ls, M.replay (fun _ _ => true) s ls = some t

theorem leads_refl (s : σ) : M.Leads s s := ⟨[], rfl⟩

theorem Leads.head {s t u : σ} {l : ℓ} (step : M.step s l = some t) (rest : M.Leads t u) :
    M.Leads s u := by
  obtain ⟨ls, replayed⟩ := rest
  exact ⟨l :: ls, by simpa [replay, step] using replayed⟩

theorem Reachable.leads {s t : σ} (reach : M.Reachable s) (leads : M.Leads s t) :
    M.Reachable t := by
  obtain ⟨past, run⟩ := reach
  obtain ⟨ls, replayed⟩ := leads
  exact ⟨past ++ ls, run.extend (fun _ _ _ => trivial) ls replayed⟩

theorem Run.leads {past ls : List ℓ} {s t : σ} (before : M.Run C past s)
    (after : M.Run D (past ++ ls) t) : M.Leads s t :=
  ⟨ls, (replay_append ls before.replayed).symm.trans after.replayed⟩

/-- Labels that pass the test lead from one state to another. -/
def LeadsBy (M : Machine σ ℓ) (p : ℓ → Bool) (s t : σ) : Prop :=
  ∃ ls, M.replay (fun _ l => p l) s ls = some t

variable {p : ℓ → Bool}

theorem leadsBy_refl (s : σ) : M.LeadsBy p s s := ⟨[], rfl⟩

theorem LeadsBy.head {s t u : σ} {l : ℓ} (step : M.step s l = some t) (passed : p l = true)
    (rest : M.LeadsBy p t u) : M.LeadsBy p s u := by
  obtain ⟨ls, replayed⟩ := rest
  exact ⟨l :: ls, by simpa [replay, step, passed] using replayed⟩

theorem LeadsBy.invariant {I : σ → Prop}
    (next : ∀ s l t, I s → p l = true → M.step s l = some t → I t) {s t : σ} (holds : I s)
    (leads : M.LeadsBy p s t) : I t := by
  obtain ⟨ls, replayed⟩ := leads
  induction ls generalizing s with
  | nil =>
    obtain rfl : s = t := Option.some.inj replayed
    exact holds
  | cons l ls ih =>
    cases passed : p l with
    | false => simp [replay, passed] at replayed
    | true =>
      cases step : M.step s l with
      | none => simp [replay, passed, step] at replayed
      | some r =>
        have rest : M.replay (fun _ l => p l) r ls = some t := by
          simpa [replay, passed, step] using replayed
        exact ih (next s l r holds passed step) rest

end Machine
end Foundation
