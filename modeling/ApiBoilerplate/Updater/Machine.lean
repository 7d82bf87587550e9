import ApiBoilerplate.Foundation.Machine
import ApiBoilerplate.Updater.Status

/-!
# Updates as interleaved tasks

Apply requests, manual checks, the background checker and the tasks that apply
an update share one status behind a lock. Each acquisition of the lock is one
step, and so is each move of a task between two of them.
-/

namespace ApiBoilerplate.Updater

open Foundation Http

inductive Request where
  | absent
  | checked (manifest : VersionManifest)
  | marked (manifest : VersionManifest)
  | answered (response : HttpResponse)
  deriving DecidableEq, Repr

/-- The loop of the background checker, between two ticks or inside one. -/
inductive Checker where
  | waiting
  | stored (manifest : VersionManifest)
  | cleared (manifest : VersionManifest)
  | marked (manifest : VersionManifest)
  deriving DecidableEq, Repr

/-- The life of one `trigger_apply` task. A failed task has still to reset the flag. -/
inductive Stage where
  | downloading
  | spawning
  | failed (error : AppError)
  | takenOver
  | reset
  deriving DecidableEq, Repr

structure Apply where
  manifest : VersionManifest
  stage : Stage
  deriving DecidableEq, Repr

structure State where
  status : UpdateStatus
  requests : Nat → Request
  checker : Checker
  applies : List Apply

inductive Label where
  | request (r : Nat)
  | mark (r : Nat)
  | trigger (r : Nat)
  | manualCheck (fetched : Fetched) (now : DateTime)
  | tick (fetched : Fetched) (now : DateTime)
  | look
  | checkerMark
  | checkerTrigger
  | downloaded (i : Nat) (result : Except AppError Unit)
  | spawned (i : Nat) (result : Except AppError Unit)
  | resetProgress (i : Nat)

namespace State

def setRequest (s : State) (r : Nat) (request : Request) : State :=
  { s with requests := Function.update s.requests r request }

def setStage (s : State) (i : Nat) (stage : Stage) : State :=
  { s with applies := s.applies.modify i (fun a => { a with stage := stage }) }

/-- Start a task that applies the manifest. -/
def triggerApply (s : State) (manifest : VersionManifest) : State :=
  { s with applies := s.applies ++ [⟨manifest, .downloading⟩] }

def stageAt (s : State) (i : Nat) : Option Stage := (s.applies[i]?).map (·.stage)

end State

/-- The checker runs only with the updater enabled and an interval set. -/
def checkerRuns (app : AppState) : Bool :=
  app.config.enabled && decide (app.config.checkIntervalSeconds ≠ 0) && app.updaterService.isSome

universe u
variable {V : Type u} [LinearOrder V] (parse : String → Except String V) (app : AppState)

/-- A check of the background checker, and what it does next. -/
def tick (service : UpdaterService) (fetched : Fetched) (now : DateTime) (s : State) : State :=
  match service.checkForUpdate parse fetched with
  | .ok (some manifest) =>
    { s with
      status := s.status.available manifest now
      checker := if app.config.autoUpdate then .stored manifest else .waiting }
  | .ok none => { s with status := s.status.checked now }
  | .error _ => s

def step (s : State) : Label → Option State
  | .request r =>
    match s.requests r with
    | .absent =>
      match applyUpdate app s.status with
      | .error response => some (s.setRequest r (.answered response))
      | .ok manifest => some (s.setRequest r (.checked manifest))
    | _ => none
  | .mark r =>
    match s.requests r with
    | .checked manifest =>
      some { s.setRequest r (.marked manifest) with status := s.status.setInProgress true }
    | _ => none
  | .trigger r =>
    match s.requests r with
    | .marked manifest =>
      some ((s.setRequest r (.answered (applyAccepted manifest))).triggerApply manifest)
    | _ => none
  | .manualCheck fetched now =>
    some { s with status := (checkForUpdate parse app fetched now s.status).1 }
  | .tick fetched now =>
    match s.checker, checkerRuns app, app.updaterService with
    | .waiting, true, some service => some (tick parse app service fetched now s)
    | _, _, _ => none
  | .look =>
    match s.checker with
    | .stored manifest =>
      some { s with checker := if s.status.inProgress then .waiting else .cleared manifest }
    | _ => none
  | .checkerMark =>
    match s.checker with
    | .cleared manifest =>
      some { s with checker := .marked manifest, status := s.status.setInProgress true }
    | _ => none
  | .checkerTrigger =>
    match s.checker with
    | .marked manifest => some ({ s with checker := .waiting }.triggerApply manifest)
    | _ => none
  | .downloaded i result =>
    match s.stageAt i with
    | some .downloading =>
      match result with
      | .ok _ => some (s.setStage i .spawning)
      | .error e => some (s.setStage i (.failed e))
    | _ => none
  | .spawned i result =>
    match s.stageAt i with
    | some .spawning =>
      match result with
      | .ok _ => some (s.setStage i .takenOver)
      | .error e => some (s.setStage i (.failed e))
    | _ => none
  | .resetProgress i =>
    match s.stageAt i with
    | some (.failed _) => some { s.setStage i .reset with status := s.status.setInProgress false }
    | _ => none

def machine : Machine State Label where
  init := ⟨UpdateStatus.new app.config.currentVersion, fun _ => .absent, .waiting, []⟩
  step := step parse app

/-- What a step does, and what it found. -/
inductive Move (s : State) : Label → State → Prop where
  | refused {r : Nat} {response : HttpResponse} : s.requests r = .absent →
      applyUpdate app s.status = .error response →
      Move s (.request r) (s.setRequest r (.answered response))
  | passed {r : Nat} {manifest : VersionManifest} : s.requests r = .absent →
      applyUpdate app s.status = .ok manifest →
      Move s (.request r) (s.setRequest r (.checked manifest))
  | mark {r : Nat} {manifest : VersionManifest} : s.requests r = .checked manifest →
      Move s (.mark r)
        { s.setRequest r (.marked manifest) with status := s.status.setInProgress true }
  | trigger {r : Nat} {manifest : VersionManifest} : s.requests r = .marked manifest →
      Move s (.trigger r)
        ((s.setRequest r (.answered (applyAccepted manifest))).triggerApply manifest)
  | manualCheck {fetched : Fetched} {now : DateTime} : Move s (.manualCheck fetched now)
      { s with status := (checkForUpdate parse app fetched now s.status).1 }
  | tick {fetched : Fetched} {now : DateTime} {service : UpdaterService} :
      s.checker = .waiting → checkerRuns app = true → app.updaterService = some service →
      Move s (.tick fetched now) (tick parse app service fetched now s)
  | look {manifest : VersionManifest} : s.checker = .stored manifest →
      Move s .look { s with checker := if s.status.inProgress then .waiting else .cleared manifest }
  | checkerMark {manifest : VersionManifest} : s.checker = .cleared manifest →
      Move s .checkerMark
        { s with checker := .marked manifest, status := s.status.setInProgress true }
  | checkerTrigger {manifest : VersionManifest} : s.checker = .marked manifest →
      Move s .checkerTrigger ({ s with checker := .waiting }.triggerApply manifest)
  | downloaded {i : Nat} : s.stageAt i = some .downloading →
      Move s (.downloaded i (.ok ())) (s.setStage i .spawning)
  | downloadFailed {i : Nat} {e : AppError} : s.stageAt i = some .downloading →
      Move s (.downloaded i (.error e)) (s.setStage i (.failed e))
  | spawned {i : Nat} : s.stageAt i = some .spawning →
      Move s (.spawned i (.ok ())) (s.setStage i .takenOver)
  | spawnFailed {i : Nat} {e : AppError} : s.stageAt i = some .spawning →
      Move s (.spawned i (.error e)) (s.setStage i (.failed e))
  | resetProgress {i : Nat} {e : AppError} : s.stageAt i = some (.failed e) →
      Move s (.resetProgress i)
        { s.setStage i .reset with status := s.status.setInProgress false }

variable {parse app} in
theorem step_move {s t : State} {l : Label} (stepped : step parse app s l = some t) :
    Move parse app s l t := by
  cases l with
  | request r =>
    simp only [step] at stepped
    split at stepped
    · rename_i absent
      split at stepped
      · rename_i refused
        cases stepped
        exact .refused absent refused
      · rename_i passed
        cases stepped
        exact .passed absent passed
    · cases stepped
  | manualCheck fetched now => cases stepped; exact .manualCheck
  | tick fetched now =>
    simp only [step] at stepped
    split at stepped
    · rename_i service waiting runs running
      cases stepped
      exact .tick waiting runs running
    · cases stepped
  | downloaded i result =>
    simp only [step] at stepped
    split at stepped
    · rename_i found
      cases result with
      | ok => cases stepped; exact .downloaded found
      | error e => cases stepped; exact .downloadFailed found
    · cases stepped
  | spawned i result =>
    simp only [step] at stepped
    split at stepped
    · rename_i found
      cases result with
      | ok => cases stepped; exact .spawned found
      | error e => cases stepped; exact .spawnFailed found
    · cases stepped
  | mark r =>
    simp only [step] at stepped
    split at stepped
    · rename_i checked
      cases stepped
      exact .mark checked
    · cases stepped
  | trigger r =>
    simp only [step] at stepped
    split at stepped
    · rename_i marked
      cases stepped
      exact .trigger marked
    · cases stepped
  | look =>
    simp only [step] at stepped
    split at stepped
    · rename_i stored
      cases stepped
      exact .look stored
    · cases stepped
  | checkerMark =>
    simp only [step] at stepped
    split at stepped
    · rename_i cleared
      cases stepped
      exact .checkerMark cleared
    · cases stepped
  | checkerTrigger =>
    simp only [step] at stepped
    split at stepped
    · rename_i marked
      cases stepped
      exact .checkerTrigger marked
    · cases stepped
  | resetProgress i =>
    simp only [step] at stepped
    split at stepped
    · rename_i failed
      cases stepped
      exact .resetProgress failed
    · cases stepped

end ApiBoilerplate.Updater
