import ApiBoilerplate.Http.AppError
import ApiBoilerplate.Uuid
import Mathlib.Order.Defs.LinearOrder

/-!
# The update status and its handlers

What the service knows of updates, the check against the remote manifest, and
the parts of the handlers that run under the lock on the status. Versions are
read by a parser into some linear order.
-/

namespace ApiBoilerplate.Updater

open Http

structure VersionManifest where
  version : String
  releaseNotes : Option String
  publishedAt : Option DateTime
  downloadUrl : String
  checksumSha256 : String
  binaryName : String
  deriving DecidableEq, Repr

structure UpdateStatus where
  currentVersion : String
  latestVersion : Option String
  updateAvailable : Bool
  lastCheckedAt : Option DateTime
  releaseNotes : Option String
  inProgress : Bool
  pendingManifest : Option VersionManifest
  deriving DecidableEq, Repr

namespace UpdateStatus

def new (currentVersion : String) : UpdateStatus :=
  ⟨currentVersion, none, false, none, none, false, none⟩

/-- A check that found a newer version. -/
def available (status : UpdateStatus) (manifest : VersionManifest) (now : DateTime) :
    UpdateStatus :=
  { status with
    latestVersion := some manifest.version
    updateAvailable := true
    lastCheckedAt := some now
    releaseNotes := manifest.releaseNotes
    pendingManifest := some manifest }

/-- A check that found nothing newer. -/
def checked (status : UpdateStatus) (now : DateTime) : UpdateStatus :=
  { status with lastCheckedAt := some now }

def setInProgress (status : UpdateStatus) (inProgress : Bool) : UpdateStatus :=
  { status with inProgress := inProgress }

@[simp] theorem available_inProgress (status : UpdateStatus) (manifest : VersionManifest)
    (now : DateTime) : (status.available manifest now).inProgress = status.inProgress := rfl

@[simp] theorem checked_inProgress (status : UpdateStatus) (now : DateTime) :
    (status.checked now).inProgress = status.inProgress := rfl

@[simp] theorem setInProgress_inProgress (status : UpdateStatus) (inProgress : Bool) :
    (status.setInProgress inProgress).inProgress = inProgress := rfl

end UpdateStatus

structure UpdaterConfig where
  enabled : Bool
  checkUrl : String
  autoUpdate : Bool
  checkIntervalSeconds : Nat
  currentVersion : String
  deriving DecidableEq, Repr

structure UpdaterService where
  config : UpdaterConfig
  deriving DecidableEq, Repr

structure AppState where
  config : UpdaterConfig
  updaterService : Option UpdaterService
  deriving DecidableEq, Repr

def buildState (config : UpdaterConfig) : AppState :=
  ⟨config, if config.enabled then some ⟨config⟩ else none⟩

/-- What the request for the manifest comes back with. -/
inductive Fetched where
  | sendFailed (error : String)
  | parseFailed (error : String)
  | manifest (manifest : VersionManifest)
  deriving DecidableEq, Repr

universe u

/-- The manifest when its version is newer than the running one. -/
def UpdaterService.checkForUpdate {V : Type u} [LinearOrder V] (parse : String → Except String V)
    (service : UpdaterService) (fetched : Fetched) : Except AppError (Option VersionManifest) :=
  if service.config.checkUrl = "" then .error (.internal "updater.check_url is not configured")
  else match fetched with
    | .sendFailed e => .error (.internal ("Failed to fetch update manifest: " ++ e))
    | .parseFailed e => .error (.internal ("Failed to parse update manifest: " ++ e))
    | .manifest manifest =>
      match parse service.config.currentVersion with
      | .error e => .error (.internal ("Invalid current_version in config: " ++ e))
      | .ok current =>
        match parse manifest.version with
        | .error e => .error (.internal ("Invalid version in remote manifest: " ++ e))
        | .ok remote => if current < remote then .ok (some manifest) else .ok none

inductive HttpResponse where
  | notImplemented (body : ErrorBody)
  | conflict (body : ErrorBody)
  | badRequest (body : ErrorBody)
  | accepted (message version : String)
  | status (body : UpdateStatus)
  | appError (error : AppError)
  deriving DecidableEq, Repr

def HttpResponse.statusCode : HttpResponse → Nat
  | .notImplemented _ => 501
  | .conflict _ => 409
  | .badRequest _ => 400
  | .accepted _ _ => 202
  | .status _ => 200
  | .appError e => e.statusCode

def notEnabled : HttpResponse :=
  .notImplemented ⟨"NOT_IMPLEMENTED",
    "The self-updater is not enabled. Set updater.enabled = true in config."⟩

def serviceUnavailable : HttpResponse := .appError (.internal "Updater service unavailable")

def alreadyInProgress : HttpResponse :=
  .conflict ⟨"CONFLICT", "An update is already in progress."⟩

def noUpdate : HttpResponse :=
  .badRequest ⟨"NO_UPDATE",
    "No update is currently available. Run GET /api/updates/check first."⟩

def pendingMissing : HttpResponse := .appError (.internal "Pending manifest missing from status")

def applyAccepted (manifest : VersionManifest) : HttpResponse :=
  .accepted "Update initiated. The service will restart once the download is complete."
    manifest.version

/-- `GET /api/updates/check`: the status after it and the answer. -/
def checkForUpdate {V : Type u} [LinearOrder V] (parse : String → Except String V)
    (app : AppState) (fetched : Fetched) (now : DateTime) (status : UpdateStatus) :
    UpdateStatus × HttpResponse :=
  if !app.config.enabled then (status, notEnabled)
  else match app.updaterService with
    | none => (status, serviceUnavailable)
    | some service =>
      match service.checkForUpdate parse fetched with
      | .error e => (status, .appError e)
      | .ok (some manifest) =>
        let status := status.available manifest now
        (status, .status status)
      | .ok none =>
        let status := status.checked now
        (status, .status status)

/-- `POST /api/updates/apply` up to and including its read of the status: an
answer at once, or the manifest to be applied. -/
def applyUpdate (app : AppState) (status : UpdateStatus) : Except HttpResponse VersionManifest :=
  if !app.config.enabled then .error notEnabled
  else match app.updaterService with
    | none => .error serviceUnavailable
    | some _ =>
      if status.inProgress then .error alreadyInProgress
      else if !status.updateAvailable then .error noUpdate
      else match status.pendingManifest with
        | none => .error pendingMissing
        | some manifest => .ok manifest

theorem checkForUpdate_inProgress {V : Type u} [LinearOrder V] (parse : String → Except String V)
    (app : AppState) (fetched : Fetched) (now : DateTime) (status : UpdateStatus) :
    (checkForUpdate parse app fetched now status).1.inProgress = status.inProgress := by
  unfold checkForUpdate
  split
  · rfl
  · split
    · rfl
    · split <;> rfl

theorem applyUpdate_ok {app : AppState} {status : UpdateStatus} {manifest : VersionManifest}
    (passed : applyUpdate app status = .ok manifest) :
    app.config.enabled = true ∧ app.updaterService.isSome = true ∧ status.inProgress = false := by
  unfold applyUpdate at passed
  split at passed
  · cases passed
  · rename_i enabled
    rcases service : app.updaterService with _ | updater
    · simp [service] at passed
    · rcases down : status.inProgress with _ | _
      · exact ⟨by simpa using enabled, rfl, rfl⟩
      · simp [service, down] at passed

/-- With the updater there, a request is refused whenever the flag is up. -/
theorem applyUpdate_conflict {app : AppState} {status : UpdateStatus}
    (enabled : app.config.enabled = true) (service : app.updaterService.isSome = true)
    (up : status.inProgress = true) : applyUpdate app status = .error alreadyInProgress := by
  obtain ⟨updater, some⟩ := Option.isSome_iff_exists.mp service
  simp [applyUpdate, enabled, some, up]

end ApiBoilerplate.Updater
