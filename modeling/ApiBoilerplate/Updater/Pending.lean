import ApiBoilerplate.Updater.SingleApply

/-!
# What may be applied

Every manifest on its way to a task was offered by a check, so it is newer than
the running version. As long as the status says that there is an update it keeps
the manifest it describes.
-/

namespace ApiBoilerplate.Updater

open Foundation Http

universe u
variable {V : Type u} [LinearOrder V]

/-- The version of the manifest is newer than the given one. -/
def Newer (parse : String → Except String V) (version : String) (manifest : VersionManifest) :
    Prop :=
  ∃ current remote, parse version = .ok current ∧ parse manifest.version = .ok remote ∧
    current < remote

section Check
variable {parse : String → Except String V} {service : UpdaterService} {manifest : VersionManifest}

theorem checkForUpdate_some {fetched : Fetched}
    (offered : service.checkForUpdate parse fetched = .ok (some manifest)) :
    service.config.checkUrl ≠ "" ∧ Newer parse service.config.currentVersion manifest := by
  unfold UpdaterService.checkForUpdate at offered
  split at offered
  · cases offered
  · rename_i configured
    split at offered
    · cases offered
    · cases offered
    · split at offered
      · cases offered
      · rename_i current parsed
        split at offered
        · cases offered
        · rename_i remote parsed'
          split at offered
          · rename_i newer
            cases offered
            exact ⟨configured, current, remote, parsed, parsed', newer⟩
          · cases offered

/-- The manifest that a check has fetched, if the check succeeds. -/
def UpdaterService.fetches (parse : String → Except String V) (service : UpdaterService)
    (fetched : Fetched) : Option VersionManifest :=
  match fetched, service.checkForUpdate parse fetched with
  | .manifest manifest, .ok _ => some manifest
  | _, _ => none

/-- How a check ends. -/
theorem checkForUpdate_cases (parse : String → Except String V) (service : UpdaterService)
    (fetched : Fetched) :
    (∃ e, service.checkForUpdate parse fetched = .error e ∧ service.fetches parse fetched = none) ∨
    ∃ m, service.fetches parse fetched = some m ∧
      (service.checkForUpdate parse fetched = .ok (some m) ∧
          Newer parse service.config.currentVersion m ∨
        service.checkForUpdate parse fetched = .ok none ∧
          ¬ Newer parse service.config.currentVersion m) := by
  cases outcome : service.checkForUpdate parse fetched with
  | error e =>
    refine Or.inl ⟨e, rfl, ?_⟩
    simp [UpdaterService.fetches, outcome]
  | ok found =>
    right
    simp only [UpdaterService.fetches, outcome]
    unfold UpdaterService.checkForUpdate at outcome
    split at outcome
    · cases outcome
    · split at outcome
      · cases outcome
      · cases outcome
      · split at outcome
        · cases outcome
        · rename_i m _ current parsed
          split at outcome
          · cases outcome
          · rename_i remote parsed'
            refine ⟨m, rfl, ?_⟩
            split at outcome
            · rename_i newer
              cases outcome
              exact Or.inl ⟨rfl, current, remote, parsed, parsed', newer⟩
            · rename_i old
              cases outcome
              refine Or.inr ⟨rfl, ?_⟩
              rintro ⟨current', remote', readCurrent, readRemote, newer⟩
              rw [parsed] at readCurrent
              rw [parsed'] at readRemote
              cases readCurrent
              cases readRemote
              exact old newer

end Check

section Status
variable {parse : String → Except String V} {app : AppState} {s t : State} {l : Label}

variable (parse app) in
/-- The manifest that the step has fetched, if it is a check that succeeds. -/
def checkedBy : Label → Option VersionManifest
  | .manualCheck fetched _ | .tick fetched _ =>
    if app.config.enabled then
      app.updaterService.bind (fun service => service.fetches parse fetched)
    else none
  | _ => none

variable (parse app) in
/-- What a step does to the status, by the manifest it has fetched. -/
inductive StatusMove (status : UpdateStatus) : Option VersionManifest → UpdateStatus → Prop
  | unchecked (up : Bool) : StatusMove status none (status.setInProgress up)
  | newer {m : VersionManifest} (newer : Newer parse app.config.currentVersion m)
      (now : DateTime) : StatusMove status (some m) (status.available m now)
  | upToDate {m : VersionManifest} (old : ¬ Newer parse app.config.currentVersion m)
      (now : DateTime) : StatusMove status (some m) (status.checked now)

theorem StatusMove.same (status : UpdateStatus) : StatusMove parse app status none status :=
  .unchecked status.inProgress

/-- The service has the configuration of the application. -/
theorem buildState_service {config : UpdaterConfig} {service : UpdaterService}
    (running : (buildState config).updaterService = some service) :
    config.enabled = true ∧ service.config = config := by
  rw [buildState] at running
  dsimp only at running
  split at running
  · rename_i enabled
    cases running
    exact ⟨enabled, rfl⟩
  · cases running

theorem manualCheck_status {config : UpdaterConfig} (fetched : Fetched) (now : DateTime)
    (status : UpdateStatus) :
    StatusMove parse (buildState config) status
      (checkedBy parse (buildState config) (.manualCheck fetched now))
      (checkForUpdate parse (buildState config) fetched now status).1 := by
  simp only [checkForUpdate, checkedBy]
  rcases running : (buildState config).updaterService with _ | service
  · simp only [Option.bind_none, ite_self]
    split
    · exact .same status
    · exact .same status
  · obtain ⟨enabled, same⟩ := buildState_service running
    have on : (buildState config).config.enabled = true := enabled
    simp only [on, Bool.not_true, Bool.false_eq_true, if_false, if_true, Option.bind_some]
    have ends := checkForUpdate_cases parse service fetched
    rw [same] at ends
    rcases ends with ⟨e, outcome, none⟩ | ⟨m, some, ⟨outcome, newer⟩ | ⟨outcome, old⟩⟩
    · rw [outcome, none]
      exact .same status
    · rw [outcome, some]
      exact .newer newer now
    · rw [outcome, some]
      exact .upToDate old now

theorem tick_status {config : UpdaterConfig} {service : UpdaterService}
    (running : (buildState config).updaterService = some service) (fetched : Fetched)
    (now : DateTime) (s : State) :
    StatusMove parse (buildState config) s.status
      (checkedBy parse (buildState config) (.tick fetched now))
      (tick parse (buildState config) service fetched now s).status := by
  obtain ⟨enabled, same⟩ := buildState_service running
  have on : (buildState config).config.enabled = true := enabled
  simp only [tick, checkedBy, running, on, if_true, Option.bind_some]
  have ends := checkForUpdate_cases parse service fetched
  rw [same] at ends
  rcases ends with ⟨e, outcome, none⟩ | ⟨m, some, ⟨outcome, newer⟩ | ⟨outcome, old⟩⟩
  · rw [outcome, none]
    exact .same s.status
  · rw [outcome, some]
    exact .newer newer now
  · rw [outcome, some]
    exact .upToDate old now

theorem step_status {config : UpdaterConfig}
    (stepped : step parse (buildState config) s l = some t) :
    StatusMove parse (buildState config) s.status (checkedBy parse (buildState config) l)
      t.status := by
  cases step_move stepped with
  | @manualCheck fetched now => exact manualCheck_status fetched now s.status
  | @tick fetched now service _ _ running => exact tick_status running fetched now s
  | mark | checkerMark => exact .unchecked true
  | resetProgress => exact .unchecked false
  | refused | passed | trigger | look | checkerTrigger | downloaded | downloadFailed | spawned
  | spawnFailed => exact .same s.status

end Status

/-- The manifest that a request past its test is going to apply. -/
def Request.manifest : Request → Option VersionManifest
  | .checked m | .marked m => some m
  | .absent | .answered _ => none

/-- The manifest that the checker has found in this tick. -/
def Checker.manifest : Checker → Option VersionManifest
  | .stored m | .cleared m | .marked m => some m
  | .waiting => none

/-- A task applies the manifest, or a request or the checker is about to start one. -/
def State.Handed (s : State) (m : VersionManifest) : Prop :=
  (∃ r, (s.requests r).manifest = some m) ∨ s.checker.manifest = some m ∨
    ∃ a ∈ s.applies, a.manifest = m

section Handed
variable {s t : State} {m : VersionManifest}

theorem State.handed_setRequest {r : Nat} {request : Request}
    (handed : (s.setRequest r request).Handed m) : s.Handed m ∨ request.manifest = some m := by
  rcases handed with ⟨r', carried⟩ | checker | task
  · simp only [State.setRequest, Function.update_apply] at carried
    split at carried
    · exact Or.inr carried
    · exact Or.inl (Or.inl ⟨r', carried⟩)
  · exact Or.inl (Or.inr (Or.inl checker))
  · exact Or.inl (Or.inr (Or.inr task))

theorem State.handed_setChecker {checker : Checker} {status : UpdateStatus}
    (handed : State.Handed { s with checker, status } m) :
    s.Handed m ∨ checker.manifest = some m := by
  rcases handed with request | found | task
  · exact Or.inl (Or.inl request)
  · exact Or.inr found
  · exact Or.inl (Or.inr (Or.inr task))

theorem State.handed_triggerApply {m' : VersionManifest}
    (handed : (s.triggerApply m').Handed m) : s.Handed m ∨ m' = m := by
  rcases handed with request | checker | ⟨a, listed, rfl⟩
  · exact Or.inl (Or.inl request)
  · exact Or.inl (Or.inr (Or.inl checker))
  · rcases List.mem_append.mp listed with earlier | this
    · exact Or.inl (Or.inr (Or.inr ⟨a, earlier, rfl⟩))
    · rw [List.mem_singleton.mp this]
      exact Or.inr rfl

/-- A task of the list moves to another stage. -/
theorem State.handed_setStage {i : Nat} {stage : Stage} (handed : (s.setStage i stage).Handed m) :
    s.Handed m := by
  rcases handed with request | checker | ⟨a, listed, rfl⟩
  · exact Or.inl request
  · exact Or.inr (Or.inl checker)
  · obtain ⟨j, found⟩ := List.mem_iff_getElem?.mp listed
    simp only [State.setStage, List.getElem?_modify] at found
    obtain ⟨a', found', rfl⟩ := Option.map_eq_some_iff.mp found
    refine Or.inr (Or.inr ⟨a', List.mem_of_getElem? found', ?_⟩)
    split
    · rfl
    · rfl

variable {parse : String → Except String V} {l : Label}

/-- Only the test of a request and a successful check bring in a manifest. -/
theorem step_handed {config : UpdaterConfig} (stepped : step parse (buildState config) s l = some t)
    (handed : t.Handed m) :
    s.Handed m ∨ applyUpdate (buildState config) s.status = .ok m ∨
      Newer parse config.currentVersion m := by
  cases step_move stepped with
  | refused _ _ =>
    rcases s.handed_setRequest handed with before | none
    · exact Or.inl before
    · cases none
  | passed _ passed =>
    rcases s.handed_setRequest handed with before | same
    · exact Or.inl before
    · cases same
      exact Or.inr (Or.inl passed)
  | @mark r _ checked =>
    rcases s.handed_setRequest handed with before | same
    · exact Or.inl before
    · refine Or.inl (Or.inl ⟨r, ?_⟩)
      rw [checked]
      exact same
  | @trigger r _ marked =>
    rcases State.handed_triggerApply handed with before | rfl
    · rcases s.handed_setRequest before with before | none
      · exact Or.inl before
      · cases none
    · refine Or.inl (Or.inl ⟨r, ?_⟩)
      rw [marked]
      rfl
  | manualCheck => exact Or.inl handed
  | @tick fetched _ service _ _ running =>
    obtain ⟨_, same⟩ := buildState_service running
    have ends := checkForUpdate_cases parse service fetched
    rw [same] at ends
    simp only [tick] at handed
    rcases ends with ⟨e, outcome, _⟩ | ⟨m', _, ⟨outcome, newer⟩ | ⟨outcome, _⟩⟩
    · rw [outcome] at handed
      exact Or.inl handed
    · rw [outcome] at handed
      rcases s.handed_setChecker handed with before | found
      · exact Or.inl before
      · split at found
        · cases found
          exact Or.inr (Or.inr newer)
        · cases found
    · rw [outcome] at handed
      exact Or.inl handed
  | look stored =>
    rcases s.handed_setChecker handed with before | found
    · exact Or.inl before
    · split at found
      · cases found
      · refine Or.inl (Or.inr (Or.inl ?_))
        rw [stored]
        exact found
  | checkerMark cleared =>
    rcases s.handed_setChecker handed with before | found
    · exact Or.inl before
    · refine Or.inl (Or.inr (Or.inl ?_))
      rw [cleared]
      exact found
  | checkerTrigger marked =>
    rcases State.handed_triggerApply handed with before | rfl
    · rcases s.handed_setChecker before with before | none
      · exact Or.inl before
      · cases none
    · refine Or.inl (Or.inr (Or.inl ?_))
      rw [marked]
      rfl
  | downloaded | downloadFailed | spawned | spawnFailed | resetProgress =>
    exact Or.inl (s.handed_setStage handed)

theorem State.answered_setRequest {r r' : Nat} {request : Request} {response : HttpResponse}
    (answered : (s.setRequest r' request).requests r = .answered response) :
    s.requests r = .answered response ∨ request = .answered response := by
  simp only [State.setRequest, Function.update_apply] at answered
  split at answered
  · exact Or.inr answered
  · exact Or.inl answered

/-- A request is answered by its test, or once its task has started. -/
theorem step_answered {app : AppState} (stepped : step parse app s l = some t) {r : Nat}
    {response : HttpResponse} (answered : t.requests r = .answered response) :
    s.requests r = .answered response ∨ applyUpdate app s.status = .error response ∨
      ∃ m, response = applyAccepted m := by
  cases step_move stepped with
  | refused _ refused =>
    rcases s.answered_setRequest answered with before | same
    · exact Or.inl before
    · cases same
      exact Or.inr (Or.inl refused)
  | passed | mark =>
    rcases s.answered_setRequest answered with before | other
    · exact Or.inl before
    · cases other
  | @trigger _ m _ =>
    rcases s.answered_setRequest answered with before | same
    · exact Or.inl before
    · cases same
      exact Or.inr (Or.inr ⟨m, rfl⟩)
  | tick =>
    simp only [tick] at answered
    split at answered
    · exact Or.inl answered
    · exact Or.inl answered
    · exact Or.inl answered
  | manualCheck | look | checkerMark | checkerTrigger | downloaded | downloadFailed | spawned
  | spawnFailed | resetProgress => exact Or.inl answered

end Handed

/-- The status keeps the manifest that it describes. -/
structure UpdateStatus.Describes (status : UpdateStatus) (m : VersionManifest) : Prop where
  pending : status.pendingManifest = some m
  latest : status.latestVersion = some m.version
  notes : status.releaseNotes = m.releaseNotes

namespace UpdateStatus.Describes
variable {status : UpdateStatus} {m : VersionManifest}

theorem setInProgress (described : status.Describes m) (up : Bool) :
    (status.setInProgress up).Describes m :=
  ⟨described.pending, described.latest, described.notes⟩

theorem checked (described : status.Describes m) (now : DateTime) :
    (status.checked now).Describes m :=
  ⟨described.pending, described.latest, described.notes⟩

theorem available (status : UpdateStatus) (m : VersionManifest) (now : DateTime) :
    (status.available m now).Describes m := ⟨rfl, rfl, rfl⟩

end UpdateStatus.Describes

section Reachable
variable {parse : String → Except String V} {config : UpdaterConfig} {s t : State} {l : Label}

variable (parse config) in
/-- The status says that there is an update only with a newer manifest at hand, and
names a version only if it says so. -/
structure Honest (status : UpdateStatus) : Prop where
  current : status.currentVersion = config.currentVersion
  pending : status.updateAvailable = true →
    ∃ m, status.Describes m ∧ Newer parse config.currentVersion m
  untold : status.updateAvailable = false → status.latestVersion = none

variable (parse config) in
/-- All that may be applied was offered by a check. -/
structure Offered (s : State) : Prop where
  honest : Honest parse config s.status
  handed : ∀ m, s.Handed m → Newer parse config.currentVersion m
  answered : ∀ r, s.requests r ≠ .answered pendingMissing

theorem applyUpdate_pending {app : AppState} {status : UpdateStatus} {m : VersionManifest}
    (passed : applyUpdate app status = .ok m) :
    status.updateAvailable = true ∧ status.pendingManifest = some m := by
  unfold applyUpdate at passed
  split at passed
  · cases passed
  · split at passed
    · cases passed
    · split at passed
      · cases passed
      · split at passed
        · cases passed
        · rename_i available
          split at passed
          · cases passed
          · rename_i found
            cases passed
            exact ⟨by simpa using available, found⟩

theorem applyUpdate_pendingMissing {app : AppState} {status : UpdateStatus}
    (refused : applyUpdate app status = .error pendingMissing) :
    status.updateAvailable = true ∧ status.pendingManifest = none := by
  unfold applyUpdate at refused
  split at refused
  · cases refused
  · split at refused
    · simp [serviceUnavailable, pendingMissing] at refused
    · split at refused
      · cases refused
      · split at refused
        · cases refused
        · rename_i available
          split at refused
          · rename_i none
            exact ⟨by simpa using available, none⟩
          · cases refused

/-- What the test of a request lets through is newer, and it never finds the
manifest missing. -/
theorem Offered.applyUpdate (offered : Offered parse config s) (app : AppState) :
    (∀ m, applyUpdate app s.status = .ok m → Newer parse config.currentVersion m) ∧
      applyUpdate app s.status ≠ .error pendingMissing := by
  constructor
  · intro m passed
    obtain ⟨available, found⟩ := applyUpdate_pending passed
    obtain ⟨m', described, newer⟩ := offered.honest.pending available
    obtain rfl : m' = m := Option.some.inj (described.pending.symm.trans found)
    exact newer
  · intro refused
    obtain ⟨available, none⟩ := applyUpdate_pendingMissing refused
    obtain ⟨m, described, _⟩ := offered.honest.pending available
    rw [described.pending] at none
    cases none

theorem StatusMove.honest {status status' : UpdateStatus} {fetched : Option VersionManifest}
    (move : StatusMove parse (buildState config) status fetched status')
    (honest : Honest parse config status) : Honest parse config status' := by
  cases move with
  | unchecked up =>
    refine ⟨honest.current, fun available => ?_, honest.untold⟩
    obtain ⟨m, described, newer⟩ := honest.pending available
    exact ⟨m, described.setInProgress up, newer⟩
  | newer newer now =>
    exact ⟨honest.current, fun _ => ⟨_, .available status _ now, newer⟩,
      fun denied => by cases denied⟩
  | upToDate old now =>
    refine ⟨honest.current, fun available => ?_, honest.untold⟩
    obtain ⟨m, described, newer⟩ := honest.pending available
    exact ⟨m, described.checked now, newer⟩

theorem init_offered : Offered parse config (machine parse (buildState config)).init := by
  refine ⟨⟨rfl, nofun, fun _ => rfl⟩, ?_, nofun⟩
  rintro m (⟨r, request⟩ | checker | ⟨a, listed, _⟩)
  · cases request
  · cases checker
  · cases listed

theorem step_offered (offered : Offered parse config s)
    (stepped : step parse (buildState config) s l = some t) : Offered parse config t := by
  refine ⟨(step_status stepped).honest offered.honest, ?_, ?_⟩
  · intro m handed
    rcases step_handed stepped handed with before | passed | newer
    · exact offered.handed m before
    · exact (offered.applyUpdate _).1 m passed
    · exact newer
  · intro r answered
    rcases step_answered stepped answered with before | refused | ⟨m, accepted⟩
    · exact offered.answered r before
    · exact (offered.applyUpdate _).2 refused
    · cases accepted

theorem reachable_offered (reach : (machine parse (buildState config)).Reachable s) :
    Offered parse config s :=
  reach.invariant (I := Offered parse config) init_offered
    fun _ _ _ offered _ stepped => step_offered offered stepped

end Reachable

/-- Whatever the status offers, it holds in full and it is newer than the running
version, and so is whatever a task applies. -/
theorem pending_newer {parse : String → Except String V} {config : UpdaterConfig} {s : State}
    (reach : (machine parse (buildState config)).Reachable s) :
    s.status.currentVersion = config.currentVersion ∧
    (s.status.updateAvailable = true →
      ∃ m, s.status.Describes m ∧ Newer parse config.currentVersion m) ∧
    applyUpdate (buildState config) s.status ≠ .error pendingMissing ∧
    (∀ r, s.requests r ≠ .answered pendingMissing) ∧
    ∀ a ∈ s.applies, Newer parse config.currentVersion a.manifest := by
  have offered := reachable_offered reach
  exact ⟨offered.honest.current, offered.honest.pending, (offered.applyUpdate _).2,
    offered.answered, fun a listed => offered.handed a.manifest (Or.inr (Or.inr ⟨a, listed, rfl⟩))⟩

/-- Of two requests that have passed the test, both apply the newer version. -/
theorem pending_newer_twoApplies :
    ∃ s : State, s.applies.map (·.manifest) = [newer, newer] ∧ s.status.updateAvailable = true ∧
      s.status.pendingManifest = some newer ∧
      ∀ a ∈ s.applies, Newer twoVersions "1.0.0" a.manifest := by
  obtain ⟨s, reach, started⟩ := Machine.reachable_of_replay
    (M := machine twoVersions runningOld)
    (p := fun s => decide (s.applies.map (·.manifest) = [newer, newer] ∧
      s.status.updateAvailable = true ∧ s.status.pendingManifest = some newer))
    twoApplies (by decide)
  obtain ⟨both, available, pending⟩ := of_decide_eq_true started
  exact ⟨s, both, available, pending, (pending_newer reach).2.2.2.2⟩

end ApiBoilerplate.Updater
