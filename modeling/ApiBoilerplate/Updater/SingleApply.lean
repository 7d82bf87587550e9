import ApiBoilerplate.Updater.SlotView

/-!
# One update at a time

One apply is active at a time in the runs whose every mark finds the flag down
and no other request past its test. The first mark that does not opens the way
to a second one.
-/

namespace ApiBoilerplate.Updater

open Foundation Http

universe u
variable {V : Type u} [LinearOrder V] {parse : String → Except String V} {app : AppState}

/-- The updater is switched on and its service is there. -/
def Ready (app : AppState) : Prop :=
  app.config.enabled = true ∧ app.updaterService.isSome = true

/-- No request has passed its test, the checker is between ticks and no task was started. -/
structure State.Untouched (s : State) : Prop where
  unchecked : ∀ r m, s.requests r ≠ .checked m
  unmarked : ∀ r m, s.requests r ≠ .marked m
  waiting : s.checker = .waiting
  unstarted : s.applies = []

theorem State.Untouched.not_holds {s : State} (untouched : s.Untouched) (h : Holder) :
    ¬ s.Holds h := by
  cases h with
  | request r => exact fun ⟨m, marked⟩ => untouched.unmarked r m marked
  | checker =>
    rintro ⟨m, marked⟩
    rw [untouched.waiting] at marked
    cases marked
  | apply i =>
    rintro ⟨stage, found, _⟩
    simp [stageAt, untouched.unstarted] at found

theorem untouched_step {s t : State} {l : Label} (untouched : s.Untouched)
    (stepped : step parse app s l = some t) : Ready app ∨ t.Untouched := by
  have nothing : ∀ i, s.stageAt i = none := fun i => by
    simp [State.stageAt, untouched.unstarted]
  cases step_move stepped with
  | refused _ _ =>
    right
    refine ⟨fun r' m => ?_, fun r' m => ?_, untouched.waiting, untouched.unstarted⟩
    · simp only [State.setRequest, Function.update_apply]
      split
      · simp
      · exact untouched.unchecked r' m
    · simp only [State.setRequest, Function.update_apply]
      split
      · simp
      · exact untouched.unmarked r' m
  | passed _ passed =>
    obtain ⟨enabled, service, _⟩ := applyUpdate_ok passed
    exact Or.inl ⟨enabled, service⟩
  | mark checked => exact absurd checked (untouched.unchecked _ _)
  | trigger marked => exact absurd marked (untouched.unmarked _ _)
  | manualCheck =>
    exact Or.inr ⟨untouched.unchecked, untouched.unmarked, untouched.waiting, untouched.unstarted⟩
  | tick _ runs _ =>
    simp only [checkerRuns, Bool.and_eq_true] at runs
    exact Or.inl ⟨runs.1.1, runs.2⟩
  | look busy | checkerMark busy | checkerTrigger busy =>
    rw [untouched.waiting] at busy
    cases busy
  | downloaded found | downloadFailed found | spawned found | spawnFailed found
  | resetProgress found =>
    rw [nothing] at found
    cases found

/-- What "at most one update in progress" asks of a state: one active task, the
flag up meanwhile, every request that comes refused, and none past its test. -/
structure AtMostOne (parse : String → Except String V) (app : AppState) (s : State) : Prop where
  single : ∀ i j, s.ActiveAt i → s.ActiveAt j → i = j
  flagged : ∀ i, s.ActiveAt i → s.status.inProgress = true
  refused : ∀ i, s.ActiveAt i → ∀ r t, step parse app s (.request r) = some t →
    ∃ response, t.requests r = .answered response ∧ response.statusCode = 409
  noneInside : ∀ i, s.ActiveAt i → ∀ r m, s.requests r ≠ .checked m

theorem atMostOne_of_exclusive {s : State} (exclusive : s.slot.Exclusive)
    (ready : Ready app ∨ s.Untouched) : AtMostOne parse app s := by
  have held : ∀ i, s.ActiveAt i → Holder.apply i ∈ s.slot.holds := fun i active => active.holds
  have flagged : ∀ i, s.ActiveAt i → s.status.inProgress = true := fun i active =>
    exclusive.flagged.mpr ⟨_, held i active⟩
  constructor
  · intro i j active active'
    exact Holder.apply.inj (exclusive.single (held i active) (held j active'))
  · exact flagged
  · intro i active r t stepped
    rcases ready with ⟨enabled, service⟩ | untouched
    · have conflict := applyUpdate_conflict enabled service (flagged i active)
      cases step_move stepped with
      | refused _ refused =>
        rw [conflict] at refused
        cases refused
        exact ⟨alreadyInProgress, by simp [State.setRequest], rfl⟩
      | passed _ passed =>
        rw [conflict] at passed
        cases passed
    · exact absurd active.holds (untouched.not_holds _)
  · intro i active r m checked
    have inside : Holder.request r ∈ s.slot.passed := ⟨m, checked⟩
    rw [exclusive.alone ⟨_, held i active⟩] at inside
    exact inside

/-- The marking write finds the flag up already, or leaves another request
behind that has passed its test. -/
def Careless (s : State) : Label → Prop
  | .mark r => s.status.inProgress = true ∨ ∃ r' m, r' ≠ r ∧ s.requests r' = .checked m
  | .checkerMark => s.status.inProgress = true ∨ ∃ r' m, s.requests r' = .checked m
  | _ => False

theorem careful_action {s : State} {l : Label} (careful : ¬ Careless s l) :
    s.slot.Careful (action app s l) := by
  have inside : ∀ {h}, h ∈ s.slot.passed → ∃ r m, h = .request r ∧ s.requests r = .checked m := by
    intro h passed
    cases h with
    | request r =>
      obtain ⟨m, checked⟩ := passed
      exact ⟨r, m, rfl, checked⟩
    | checker => exact passed.elim
    | apply i => exact passed.elim
  cases l with
  | mark r =>
    simp only [Careless, not_or] at careful
    refine ⟨by simpa [State.slot] using careful.1, fun h passed => ?_⟩
    obtain ⟨r', m, rfl, checked⟩ := inside passed
    by_contra other
    exact careful.2 ⟨r', m, fun same => other (by rw [same]; rfl), checked⟩
  | checkerMark =>
    simp only [Careless, not_or] at careful
    refine ⟨by simpa [State.slot] using careful.1, fun h passed => ?_⟩
    obtain ⟨r', m, rfl, checked⟩ := inside passed
    exact absurd ⟨r', m, checked⟩ careful.2
  | request r =>
    simp only [action]
    split <;> trivial
  | trigger r => trivial
  | manualCheck fetched now => trivial
  | tick fetched now => trivial
  | look => trivial
  | checkerTrigger => trivial
  | downloaded i result => trivial
  | spawned i result => trivial
  | resetProgress i => trivial

theorem exclusive_of_careful {s : State}
    (reach : (machine parse app).ReachableWhere (fun s l => ¬ Careless s l) s) :
    s.slot.Exclusive ∧ (Ready app ∨ s.Untouched) := by
  refine reach.invariant (I := fun s => s.slot.Exclusive ∧ (Ready app ∨ s.Untouched)) ?_ ?_
  · have untouched : (machine parse app).init.Untouched :=
      ⟨fun _ _ => by simp [machine], fun _ _ => by simp [machine], rfl, rfl⟩
    have free : (machine parse app).init.slot.holds = ∅ :=
      Set.eq_empty_iff_forall_notMem.mpr untouched.not_holds
    refine ⟨⟨?_, ?_, ?_⟩, Or.inr untouched⟩
    · rw [free]
      exact Set.subsingleton_empty
    · rw [free]
      exact iff_of_false (by simp [State.slot, machine, UpdateStatus.new]) Set.not_nonempty_empty
    · rw [free]
      exact fun held => absurd held Set.not_nonempty_empty
  · rintro s l t ⟨exclusive, ready⟩ careful stepped
    obtain ⟨enabled, acted⟩ := step_simulates stepped
    refine ⟨?_, ?_⟩
    · rw [acted]
      exact exclusive.act enabled (careful_action careful)
    · rcases ready with ready | untouched
      · exact Or.inl ready
      · exact untouched_step untouched stepped

section Converse

theorem State.ActiveAt.of_stage {s : State} {i : Nat} {stage : Stage}
    (found : s.stageAt i = some stage)
    (active : stage.isActive = true) : s.ActiveAt i := ⟨stage, found, active⟩

variable (parse app) in
/-- A request or a checker that holds the slot starts its task next. -/
theorem exists_trigger {s : State} {h : Holder} (held : s.Holds h) (task : ∀ i, h ≠ .apply i) :
    ∃ l t, step parse app s l = some t ∧
      action app s l = .handOver h (.apply s.applies.length) ∧
      ∀ j, t.stageAt j = if j = s.applies.length then some .downloading else s.stageAt j := by
  cases h with
  | request r =>
    obtain ⟨manifest, marked⟩ := held
    refine ⟨.trigger r, _, by simp only [step, marked]; rfl, rfl, fun j => ?_⟩
    exact State.stageAt_triggerApply _ manifest j
  | checker =>
    obtain ⟨manifest, marked⟩ := held
    refine ⟨.checkerTrigger, _, by simp only [step, marked]; rfl, rfl, fun j => ?_⟩
    exact State.stageAt_triggerApply _ manifest j
  | apply i => exact absurd rfl (task i)

theorem lt_of_stageAt {s : State} {i : Nat} {stage : Stage} (found : s.stageAt i = some stage) :
    i < s.applies.length := by
  by_contra past
  have none : s.stageAt i = none := by
    simp [State.stageAt, List.getElem?_eq_none (Nat.le_of_not_lt past)]
  rw [none] at found
  cases found

/-- Two holders, one of them about to start its task: one update at a time is lost. -/
theorem two_holders_break {s : State} {h k : Holder} (held : s.Holds h)
    (task : ∀ i, h ≠ .apply i) (held' : s.Holds k) (other : k ≠ h) :
    ∃ u, (machine parse app).Leads s u ∧ ¬ AtMostOne parse app u := by
  obtain ⟨l, t, stepped, acted, stages⟩ := exists_trigger parse app held task
  have started : t.stageAt s.applies.length = some .downloading := by rw [stages, if_pos rfl]
  have active : t.ActiveAt s.applies.length := .of_stage started rfl
  by_cases running : ∃ j, k = .apply j
  · obtain ⟨j, rfl⟩ := running
    obtain ⟨stage, found, keeps⟩ := held'
    have before : j < s.applies.length := lt_of_stageAt found
    have kept : t.stageAt j = some stage := by rw [stages, if_neg (by omega), found]
    by_cases live : stage.isActive = true
    · refine ⟨t, .head stepped (Machine.leads_refl t), fun atMost => ?_⟩
      have same := atMost.single j s.applies.length (.of_stage kept live) active
      omega
    · rcases stage with _ | _ | error | _ | _
      · exact absurd rfl live
      · exact absurd rfl live
      · have lowered : (machine parse app).step t (.resetProgress j) =
            some { t.setStage j .reset with status := t.status.setInProgress false } := by
          simp only [machine, step, kept]
        refine ⟨_, .head stepped (.head lowered (Machine.leads_refl _)),
          fun atMost => ?_⟩
        have up := atMost.flagged s.applies.length
          (@State.ActiveAt.of_stage _ _ .downloading ?_ rfl)
        · cases up
        · refine (State.stageAt_setStage t j s.applies.length .reset).trans ?_
          rw [if_neg (by omega), started]
      · exact absurd rfl live
      · cases keeps
  · have kept : t.Holds k := by
      have member : k ∈ t.slot.holds := by
        rw [(step_simulates stepped).2, acted]
        exact Or.inr ⟨held', other⟩
      exact member
    obtain ⟨l', u, stepped', _, stages'⟩ := exists_trigger parse app kept
      (fun i same => running ⟨i, same⟩)
    have before : s.applies.length < t.applies.length := lt_of_stageAt started
    refine ⟨u, .head stepped (.head stepped' (Machine.leads_refl u)), fun atMost => ?_⟩
    have first : u.ActiveAt s.applies.length :=
      .of_stage (by rw [stages', if_neg (by omega), started]) rfl
    have second : u.ActiveAt t.applies.length := .of_stage (by rw [stages', if_pos rfl]) rfl
    have same := atMost.single _ _ first second
    omega

theorem holder_beside_claimant_breaks {s : State} {h : Holder} (held : s.Holds h)
    (task : ∀ i, h ≠ .apply i) {k : Holder} (passed : s.Passed k) :
    ∃ u, (machine parse app).Leads s u ∧ ¬ AtMostOne parse app u := by
  obtain ⟨l, t, stepped, acted, stages⟩ := exists_trigger parse app held task
  have active : t.ActiveAt s.applies.length := .of_stage (by rw [stages, if_pos rfl]) rfl
  have inside : k ∈ t.slot.passed := by
    rw [(step_simulates stepped).2, acted]
    exact passed
  refine ⟨t, .head stepped (Machine.leads_refl t), fun ⟨_, _, _, noneInside⟩ => ?_⟩
  cases k with
  | request r =>
    obtain ⟨m, checked⟩ := inside
    exact noneInside _ active r m checked
  | checker => exact inside
  | apply i => exact inside

/-- The first careless marking leads on to a state with more than one update. -/
theorem careless_breaks {s t : State} {l : Label} (exclusive : s.slot.Exclusive)
    (careless : Careless s l) (stepped : step parse app s l = some t) :
    ∃ u, (machine parse app).Leads t u ∧ ¬ AtMostOne parse app u := by
  obtain ⟨h, acted, task⟩ : ∃ h, action app s l = .raise h ∧ ∀ i, h ≠ .apply i := by
    cases l with
    | mark r => exact ⟨.request r, rfl, by simp⟩
    | checkerMark => exact ⟨.checker, rfl, by simp⟩
    | _ => exact careless.elim
  have unguarded : ¬ s.slot.Careful (.raise h) := by
    rintro ⟨down, alone⟩
    cases l with
    | mark r =>
      cases acted
      rcases careless with up | ⟨r', m, other, checked⟩
      · exact absurd (down.symm.trans up) (by simp)
      · have same := alone (a := .request r') ⟨m, checked⟩
        exact other (Holder.request.inj same)
    | checkerMark =>
      cases acted
      rcases careless with up | ⟨r', m, checked⟩
      · exact absurd (down.symm.trans up) (by simp)
      · have same := alone (a := .request r') ⟨m, checked⟩
        cases same
    | _ => exact careless.elim
  obtain ⟨fresh, after⟩ := step_simulates stepped
  rw [acted] at fresh after
  have held : t.Holds h := by
    have member : h ∈ t.slot.holds := by rw [after]; exact Or.inl rfl
    exact member
  rcases exclusive.careless fresh unguarded with ⟨k, held', other⟩ | ⟨k, passed, other⟩
  · have kept : t.Holds k := by
      have member : k ∈ t.slot.holds := by rw [after]; exact Or.inr held'
      exact member
    exact two_holders_break held task kept other
  · have kept : t.Passed k := by
      have member : k ∈ t.slot.passed := by rw [after]; exact ⟨passed, other⟩
      exact member
    exact holder_beside_claimant_breaks held task kept

end Converse

/-- In a run whose every mark is careful there is at most one update in progress,
and the first mark that is not leads on to a state where there is not. -/
theorem atMostOne_of_careful {s : State}
    (reach : (machine parse app).ReachableWhere (fun s l => ¬ Careless s l) s) :
    AtMostOne parse app s ∧
      ∀ l t, Careless s l → (machine parse app).step s l = some t →
        ∃ u, (machine parse app).Leads t u ∧ ¬ AtMostOne parse app u := by
  obtain ⟨exclusive, ready⟩ := exclusive_of_careful reach
  exact ⟨atMostOne_of_exclusive exclusive ready,
    fun l t careless stepped => careless_breaks exclusive careless stepped⟩

section Runs

/-- Two versions are enough for the runs below. -/
def twoVersions (text : String) : Except String Nat :=
  if text = "1.0.0" then .ok 0
  else if text = "1.1.0" then .ok 1
  else .error "unexpected character"

def runningOld : AppState := buildState
  { enabled := true
    checkUrl := "https://updates.example.com/manifest.json"
    autoUpdate := true
    checkIntervalSeconds := 3600
    currentVersion := "1.0.0" }

def newer : VersionManifest where
  version := "1.1.0"
  releaseNotes := none
  publishedAt := none
  downloadUrl := "https://updates.example.com/api.zip"
  checksumSha256 := "e3b0c44298fc1c149afbf4c8996fb92427ae41e4649b934ca495991b7852b855"
  binaryName := "api"

/-- Two requests test the flag before either raises it. -/
def twoApplies : List Label :=
  [.manualCheck (.manifest newer) 0, .request 0, .request 1, .mark 0, .trigger 0, .mark 1,
    .trigger 1]

/-- A manual check has found the update, and one request has passed its test. -/
def beforeMark : State where
  status := (UpdateStatus.new "1.0.0").available newer 0
  requests := Function.update (fun _ => .absent) 0 (.checked newer)
  checker := .waiting
  applies := []

theorem beforeMark_careful : ¬ Careless beforeMark (.mark 0) := by
  rintro (up | ⟨r, m, other, checked⟩)
  · cases up
  · simp [beforeMark, other] at checked

theorem oneApply_reachable : ∃ s, (machine twoVersions runningOld).ReachableWhere
    (fun s l => ¬ Careless s l) s ∧ s.ActiveAt 0 := by
  have start : (machine twoVersions runningOld).ReachableWhere (fun s l => ¬ Careless s l)
      (machine twoVersions runningOld).init := ⟨[], .start⟩
  have found := start.next (l := Label.manualCheck (.manifest newer) 0) (fun marks => marks) rfl
  have checked : (machine twoVersions runningOld).ReachableWhere (fun s l => ¬ Careless s l)
      beforeMark := found.next (l := Label.request 0) (fun marks => marks) rfl
  have marked := checked.next (l := Label.mark 0) beforeMark_careful rfl
  exact ⟨_, marked.next (l := Label.trigger 0) (fun marks => marks) rfl, .of_stage rfl rfl⟩

theorem atMostOne_of_careful_oneApply :
    ∃ s : State, s.ActiveAt 0 ∧ AtMostOne twoVersions runningOld s := by
  obtain ⟨s, reach, active⟩ := oneApply_reachable
  exact ⟨s, active, (atMostOne_of_careful reach).1⟩

theorem two_requests_apply :
    ¬ ∀ s, (machine twoVersions runningOld).Reachable s → AtMostOne twoVersions runningOld s := by
  intro always
  obtain ⟨s, reach, both⟩ := Machine.reachable_of_replay (M := machine twoVersions runningOld)
    (p := fun s => s.stageAt 0 = some .downloading ∧ s.stageAt 1 = some .downloading)
    twoApplies (by decide)
  obtain ⟨first, second⟩ := of_decide_eq_true both
  have same := (always s reach).single 0 1 (.of_stage first rfl) (.of_stage second rfl)
  cases same

end Runs

end ApiBoilerplate.Updater
