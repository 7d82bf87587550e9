import ApiBoilerplate.Foundation.Slot
import ApiBoilerplate.Updater.Machine

/-!
# The update status as a slot

The flag `in_progress` is tested in one acquisition of the lock and raised in
another. Requests and the checker that raise it, and the tasks they start, are
the holders of a slot whose flag it is; every step of the machine is an action
on that slot.
-/

namespace ApiBoilerplate.Updater

open Foundation Http

inductive Holder where
  | request (r : Nat)
  | checker
  | apply (i : Nat)
  deriving DecidableEq, Repr

/-- A task whose download or updater is under way. -/
def Stage.isActive : Stage → Bool
  | .downloading | .spawning | .takenOver => true
  | _ => false

/-- A task that has yet to lower the flag, or never will. -/
def Stage.keepsFlag : Stage → Bool
  | .reset => false
  | _ => true

namespace State

def ActiveAt (s : State) (i : Nat) : Prop :=
  ∃ stage, s.stageAt i = some stage ∧ stage.isActive = true

def Holds (s : State) : Holder → Prop
  | .request r => ∃ m, s.requests r = .marked m
  | .checker => ∃ m, s.checker = .marked m
  | .apply i => ∃ stage, s.stageAt i = some stage ∧ stage.keepsFlag = true

def Passed (s : State) : Holder → Prop
  | .request r => ∃ m, s.requests r = .checked m
  | _ => False

def slot (s : State) : Slot Holder := 
  ⟨s.status.inProgress, {h | s.Holds h}, {h | s.Passed h}⟩

theorem ActiveAt.holds {s : State} {i : Nat} (active : s.ActiveAt i) : s.Holds (.apply i) := by
  obtain ⟨stage, found, running⟩ := active
  refine ⟨stage, found, ?_⟩
  cases stage <;> first | rfl | cases running

theorem stageAt_setStage (s : State) (i j : Nat) (stage : Stage) :
    (s.setStage i stage).stageAt j =
      if i = j then (s.stageAt j).map (fun _ => stage) else s.stageAt j := by
  simp only [stageAt, setStage, List.getElem?_modify]
  split <;> cases s.applies[j]? <;> rfl

theorem stageAt_triggerApply (s : State) (manifest : VersionManifest) (j : Nat) :
    (s.triggerApply manifest).stageAt j =
      if j = s.applies.length then some .downloading else s.stageAt j := by
  simp only [stageAt, triggerApply]
  rcases Nat.lt_trichotomy j s.applies.length with lt | eq | gt
  · rw [if_neg (by omega), List.getElem?_append_left lt]
  · rw [if_pos eq, eq, List.getElem?_concat_length]
    rfl
  · rw [if_neg (by omega), List.getElem?_eq_none (by simp; omega),
      List.getElem?_eq_none (by omega)]

theorem not_holds_next (s : State) : ¬ s.Holds (.apply s.applies.length) := by
  rintro ⟨stage, found, _⟩
  simp [stageAt] at found

theorem holds_setRequest (s : State) (r r' : Nat) (request : Request) :
    (s.setRequest r request).Holds (.request r') ↔
      if r' = r then ∃ m, request = .marked m else s.Holds (.request r') := by
  simp only [Holds, setRequest, Function.update_apply]
  split <;> rfl

theorem passed_setRequest (s : State) (r r' : Nat) (request : Request) :
    (s.setRequest r request).Passed (.request r') ↔
      if r' = r then ∃ m, request = .checked m else s.Passed (.request r') := by
  simp only [Passed, setRequest, Function.update_apply]
  split <;> rfl

theorem holds_setStage {s : State} {i : Nat} {old new : Stage} (found : s.stageAt i = some old)
    (j : Nat) : (s.setStage i new).Holds (.apply j) ↔
      if j = i then new.keepsFlag = true else s.Holds (.apply j) := by
  simp only [Holds, stageAt_setStage]
  by_cases same : j = i
  · subst same
    simp [found]
  · rw [if_neg (fun eq => same eq.symm), if_neg same]

theorem holds_triggerApply (s : State) (manifest : VersionManifest) (j : Nat) :
    (s.triggerApply manifest).Holds (.apply j) ↔
      j = s.applies.length ∨ s.Holds (.apply j) := by
  simp only [Holds, stageAt_triggerApply]
  by_cases last : j = s.applies.length
  · simp [last, Stage.keepsFlag]
  · simp [last]

theorem slot_eq {t : State} {a : Slot Holder} (flag : t.status.inProgress = a.flag)
    (holds : ∀ h, t.Holds h ↔ h ∈ a.holds) (passed : ∀ h, t.Passed h ↔ h ∈ a.passed) :
    t.slot = a := by
  obtain ⟨f, hs, ps⟩ := a
  have eqHolds : {h | t.Holds h} = hs := Set.ext holds
  have eqPassed : {h | t.Passed h} = ps := Set.ext passed
  rw [slot, eqHolds, eqPassed, flag]

end State

/-- The action on the slot that a step is. -/
def action (app : AppState) (s : State) : Label → Slot.Action Holder
  | .request r =>
    match applyUpdate app s.status with
    | .ok _ => .pass (.request r)
    | .error _ => .idle
  | .mark r => .raise (.request r)
  | .trigger r => .handOver (.request r) (.apply s.applies.length)
  | .checkerMark => .raise .checker
  | .checkerTrigger => .handOver .checker (.apply s.applies.length)
  | .resetProgress i => .release (.apply i)
  | _ => .idle

universe u
variable {V : Type u} [LinearOrder V] {parse : String → Except String V} {app : AppState}

/-- What a step has to show to be the given action. -/
def Simulates (s t : State) (a : Slot.Action Holder) : Prop :=
  s.slot.Enabled a ∧ t.slot = s.slot.act a

theorem simulates_quiet {s t : State} (flag : t.status.inProgress = s.status.inProgress)
    (holds : ∀ h, t.Holds h ↔ s.Holds h) (passed : ∀ h, t.Passed h ↔ s.Passed h) :
    Simulates s t .idle :=
  ⟨trivial, State.slot_eq flag holds passed⟩

theorem simulates_request {s : State} {r : Nat} (absent : s.requests r = .absent) :
    (∀ response, Simulates s (s.setRequest r (.answered response)) .idle) ∧
      ∀ manifest, s.status.inProgress = false →
        Simulates s (s.setRequest r (.checked manifest)) (.pass (.request r)) := by
  have notHeld : ¬ s.Holds (.request r) := by rintro ⟨m, held⟩; rw [absent] at held; cases held
  have notPassed : ¬ s.Passed (.request r) := by rintro ⟨m, h⟩; rw [absent] at h; cases h
  have holds : ∀ request, (∀ m, request ≠ .marked m) →
      ∀ h, (s.setRequest r request).Holds h ↔ s.Holds h := by
    intro request plain h
    cases h with
    | request r' =>
      rw [State.holds_setRequest]
      by_cases same : r' = r
      · subst same
        simp [notHeld, plain]
      · rw [if_neg same]
    | checker => rfl
    | apply i => rfl
  constructor
  · intro response
    refine simulates_quiet rfl (holds _ (fun m => by simp)) ?_
    intro h
    cases h with
    | request r' =>
      rw [State.passed_setRequest]
      by_cases same : r' = r
      · subst same
        simp [notPassed]
      · rw [if_neg same]
    | checker => rfl
    | apply i => rfl
  · intro manifest down
    refine ⟨down, State.slot_eq rfl (holds _ (fun m => by simp)) ?_⟩
    intro h
    cases h with
    | request r' =>
      rw [State.passed_setRequest]
      by_cases same : r' = r
      · subst same
        simp [Slot.act]
      · simp [same, Slot.act, State.slot]
    | checker => simp [Slot.act, State.slot, State.Passed]
    | apply i => simp [Slot.act, State.slot, State.Passed]

theorem simulates_mark {s : State} {r : Nat} {manifest : VersionManifest}
    (checked : s.requests r = .checked manifest) :
    Simulates s { s.setRequest r (.marked manifest) with status := s.status.setInProgress true }
      (.raise (.request r)) := by
  constructor
  · rintro ⟨m, held⟩
    rw [checked] at held
    cases held
  · apply State.slot_eq rfl
    · intro h
      cases h with
      | request r' =>
        refine (State.holds_setRequest s r r' _).trans ?_
        by_cases same : r' = r
        · simp [same, Slot.act]
        · simp [same, Slot.act, State.slot]
      | checker => simp [Slot.act, State.slot, State.Holds, State.setRequest, State.stageAt]
      | apply i => simp [Slot.act, State.slot, State.Holds, State.setRequest, State.stageAt]
    · intro h
      cases h with
      | request r' =>
        refine (State.passed_setRequest s r r' _).trans ?_
        by_cases same : r' = r
        · simp [same, Slot.act]
        · simp [same, Slot.act, State.slot]
      | checker => simp [Slot.act, State.slot, State.Passed]
      | apply i => simp [Slot.act, State.slot, State.Passed]

theorem simulates_checkerMark {s : State} {manifest : VersionManifest}
    (cleared : s.checker = .cleared manifest) :
    Simulates s { s with checker := .marked manifest, status := s.status.setInProgress true }
      (.raise .checker) := by
  constructor
  · rintro ⟨m, held⟩
    rw [cleared] at held
    cases held
  · apply State.slot_eq rfl
    · intro h
      cases h with
      | request r => simp [Slot.act, State.slot, State.Holds, State.stageAt]
      | checker => simp [Slot.act, State.Holds]
      | apply i => simp [Slot.act, State.slot, State.Holds, State.stageAt]
    · intro h
      cases h with
      | request r => simp [Slot.act, State.slot, State.Passed]
      | checker => simp [Slot.act, State.slot, State.Passed]
      | apply i => simp [Slot.act, State.slot, State.Passed]

theorem simulates_trigger {s : State} {r : Nat} {manifest : VersionManifest}
    (marked : s.requests r = .marked manifest) (response : HttpResponse) :
    Simulates s ((s.setRequest r (.answered response)).triggerApply manifest)
      (.handOver (.request r) (.apply s.applies.length)) := by
  refine ⟨⟨⟨manifest, marked⟩, s.not_holds_next⟩, State.slot_eq rfl ?_ ?_⟩
  · intro h
    cases h with
    | request r' =>
      refine (State.holds_setRequest s r r' (.answered response)).trans ?_
      by_cases same : r' = r
      · simp [same, Slot.act]
      · simp [same, Slot.act, State.slot]
    | checker => simp [Slot.act, State.slot, State.Holds, State.setRequest, State.triggerApply]
    | apply j =>
      rw [State.holds_triggerApply]
      simp [Slot.act, State.slot, State.setRequest]
      rfl
  · intro h
    cases h with
    | request r' =>
      refine (State.passed_setRequest s r r' (.answered response)).trans ?_
      by_cases same : r' = r
      · simp [same, Slot.act, State.slot, State.Passed, marked]
      · simp [same, Slot.act, State.slot]
    | checker => rfl
    | apply i => rfl

theorem simulates_checkerTrigger {s : State} {manifest : VersionManifest}
    (marked : s.checker = .marked manifest) :
    Simulates s ({ s with checker := .waiting }.triggerApply manifest)
      (.handOver .checker (.apply s.applies.length)) := by
  refine ⟨⟨⟨manifest, marked⟩, s.not_holds_next⟩, State.slot_eq rfl ?_ (fun h => ?_)⟩
  · intro h
    cases h with
    | request r => simp [Slot.act, State.slot, State.Holds, State.triggerApply, State.stageAt]
    | checker => simp [Slot.act, State.Holds, State.triggerApply]
    | apply j =>
      rw [State.holds_triggerApply]
      simp [Slot.act, State.slot]
      rfl
  · cases h <;> rfl

/-- A task moves on while it keeps the flag. -/
theorem simulates_stage {s : State} {i : Nat} {old new : Stage} (found : s.stageAt i = some old)
    (keeps : old.keepsFlag = true) (keeps' : new.keepsFlag = true) :
    Simulates s (s.setStage i new) .idle := by
  refine simulates_quiet rfl ?_ (fun h => ?_)
  · intro h
    cases h with
    | request r => rfl
    | checker => rfl
    | apply j =>
      rw [State.holds_setStage found]
      by_cases same : j = i
      · subst same
        simp [keeps', State.Holds, found, keeps]
      · rw [if_neg same]
  · cases h <;> rfl

theorem simulates_reset {s : State} {i : Nat} {old : Stage} (found : s.stageAt i = some old)
    (keeps : old.keepsFlag = true) :
    Simulates s { s.setStage i .reset with status := s.status.setInProgress false }
      (.release (.apply i)) := by
  refine ⟨⟨old, found, keeps⟩, State.slot_eq rfl ?_ (fun h => ?_)⟩
  · intro h
    cases h with
    | request r => simp [Slot.act, State.slot, State.Holds, State.setStage, State.stageAt]
    | checker => simp [Slot.act, State.slot, State.Holds, State.setStage, State.stageAt]
    | apply j =>
      refine (State.holds_setStage found j).trans ?_
      by_cases same : j = i
      · simp [same, Slot.act, Stage.keepsFlag]
      · simp [same, Slot.act, State.slot]
  · cases h <;> rfl

theorem simulates_tick (service : UpdaterService) (fetched : Fetched) (now : DateTime)
    {s : State} (waiting : s.checker = .waiting) :
    Simulates s (tick parse app service fetched now s) .idle := by
  have free : ¬ s.Holds .checker := by
    rintro ⟨m, held⟩
    rw [waiting] at held
    cases held
  unfold tick
  split
  · refine simulates_quiet rfl (fun h => ?_) (fun h => by cases h <;> rfl)
    cases h with
    | request r => rfl
    | checker =>
      refine iff_of_false ?_ free
      rintro ⟨m, held⟩
      dsimp only at held
      split at held <;> cases held
    | apply i => rfl
  · exact simulates_quiet rfl (fun h => by cases h <;> rfl) (fun h => by cases h <;> rfl)
  · exact simulates_quiet rfl (fun h => Iff.rfl) (fun h => Iff.rfl)

/-- Every step of the machine is its action on the slot. -/
theorem step_simulates {s t : State} {l : Label} (stepped : step parse app s l = some t) :
    Simulates s t (action app s l) := by
  cases step_move stepped with
  | refused absent refused =>
    simp only [action, refused]
    exact (simulates_request absent).1 _
  | passed absent passed =>
    simp only [action, passed]
    exact (simulates_request absent).2 _ (applyUpdate_ok passed).2.2
  | mark checked => exact simulates_mark checked
  | trigger marked => exact simulates_trigger marked _
  | @manualCheck fetched now =>
    exact simulates_quiet (checkForUpdate_inProgress parse app fetched now s.status)
      (fun h => by cases h <;> rfl) (fun h => by cases h <;> rfl)
  | @tick fetched now service waiting _ _ => exact simulates_tick service fetched now waiting
  | look stored =>
    refine simulates_quiet rfl (fun h => ?_) (fun h => by cases h <;> rfl)
    cases h with
    | request r => rfl
    | checker =>
      simp only [State.Holds, stored, reduceCtorEq, exists_false, iff_false]
      split <;> simp
    | apply i => rfl
  | checkerMark cleared => exact simulates_checkerMark cleared
  | checkerTrigger marked => exact simulates_checkerTrigger marked
  | downloaded found | downloadFailed found | spawned found | spawnFailed found =>
    exact simulates_stage found rfl rfl
  | resetProgress found => exact simulates_reset found rfl

end ApiBoilerplate.Updater
