import ApiBoilerplate.Foundation.Machine
import ApiBoilerplate.Installer.Installed

/-!
# The configuration of an installation

An installation is installed over, updated and edited, in any order. Whatever becomes of
each of these, the configuration is the one that was edited last.
-/

namespace ApiBoilerplate.Installer

open Foundation
open Updater (FilePath File FileSystem updaterMain Touches)

inductive Event (δ Content : Type) where
  | install (setup : Setup δ Content) (defaultConfig : String) (flags : Flags)
  | update (around : Updater.Surroundings δ Content) (args : List String)
  /-- An operator writes a file. -/
  | edit (p : FilePath δ) (file : File Content)

variable {δ Content : Type} [DecidableEq δ]

/-- The files of a host; they may be any at first. -/
def deployment (files : FileSystem δ Content) :
    Machine (FileSystem δ Content) (Event δ Content) where
  init := files
  step files
    | .install setup defaultConfig flags =>
      some ((cmdInstall setup defaultConfig flags).outcome ⟨files, []⟩).2.files
    | .update around args => (updaterMain around args files).map Updater.Finished.files
    | .edit p file => some (Function.update files p (some file))

/-- What the event says that a file is to be. -/
def Event.written (p : FilePath δ) : Event δ Content → Option (File Content)
  | .edit q file => if q = p then some file else none
  | _ => none

/-- No update is told to replace the file, or to unpack into it. -/
def Event.Spares (p : FilePath δ) : Event δ Content → Prop
  | .update around args => ∀ parsed, Updater.parseArgs args = .ok parsed → ¬ Touches around parsed p
  | _ => True

section Configuration
variable {setup : Setup δ Content} {p config : FilePath δ}

omit [DecidableEq δ] in
theorem locate_joinPath_name {dir name : String} (entry : EntryName name)
    (located : setup.locate (joinPath dir name) = some p) : p.fileName = name := by
  obtain ⟨plain, kept, named⟩ := entry
  have whole : UnixPath.baseName [] ++ name.toList = name.toList := rfl
  have single : UnixPath.ofText name.toList = ⟨false, [name]⟩ := by
    have read : UnixPath.ofText ([] ++ name.toList) = _ :=
      UnixPath.ofText_append plain (by rwa [whole])
    rwa [whole, String.ofList_toList] at read
  rw [Setup.locate, joinPath, String.toList_ofList, UnixPath.ofText_pushText, UnixPath.join,
    single] at located
  dsimp only at located
  rw [if_neg Bool.false_ne_true, Directories.locate_append _ named, Option.map_map] at located
  obtain ⟨d, _, rfl⟩ := Option.map_eq_some_iff.mp located
  rfl

/-- An installation leaves a configuration alone, wherever it installs to and however it
ends. -/
theorem install_spares (defaultConfig : String) (flags : Flags) {host : Host δ Content}
    (named : config.fileName = "default.yaml") (present : (host.files config).isSome) :
    ((cmdInstall setup defaultConfig flags).outcome host).2.files config = host.files config := by
  refine (cmdInstall_keeps defaultConfig flags ?_ (fun _ => present) ?_).holds rfl
  · intro name listed located
    have same : "default.yaml" = name :=
      named.symm.trans (locate_joinPath_name (binaryNames_entries name listed) located)
    exact absurd (same ▸ listed) (by decide)
  · intro located
    refine unit_apart located config.parent List.mem_cons_self ?_
    rw [← named]

/-- One event makes of a configuration what the event says, if anything. -/
theorem deployment_step {start files files' : FileSystem δ Content} {event : Event δ Content}
    {file : File Content} (named : config.fileName = "default.yaml")
    (present : files config = some file) (spares : event.Spares config)
    (step : (deployment start).step files event = some files') :
    files' config = some ((event.written config).getD file) := by
  cases event with
  | install setup defaultConfig flags =>
    obtain rfl := Option.some.inj step
    have kept := @install_spares _ _ _ setup config defaultConfig flags ⟨files, []⟩ named
      (Option.isSome_iff_exists.mpr ⟨file, present⟩)
    exact kept.trans present
  | update around args =>
    obtain ⟨finished, run, rfl⟩ := Option.map_eq_some_iff.mp step
    exact (Updater.updaterMain_keeps run spares).trans present
  | edit p edited =>
    obtain rfl := Option.some.inj step
    rw [Event.written]
    by_cases here : p = config
    · rw [here, if_pos rfl, Function.update_self]
      rfl
    · rw [if_neg here, Function.update_of_ne (Ne.symm here)]
      exact present

/-- A configuration survives every run of installations and updates: it is as it was edited
last, or as it was. -/
theorem config_survives {start files : FileSystem δ Content} {events : List (Event δ Content)}
    {file : File Content} (named : config.fileName = "default.yaml")
    (present : start config = some file)
    (run : (deployment start).Run (fun _ event => event.Spares config) events files) :
    files config = some ((events.filterMap (Event.written config)).getLastD file) := by
  induction run with
  | start => exact present
  | @next events s t event _ spares step ih =>
    rw [deployment_step named ih spares step, List.filterMap_append]
    cases said : event.written config with
    | none => simp [said]
    | some edited => simp [said]

end Configuration

def sampleUpdate : List String :=
  "/opt/api/updater" ::
    Updater.updaterArguments "/tmp/api-update-2.0.0.zip" "/opt/api/api" "api" 4711 .supervisor

def sampleConfig : FilePath (List String) := ⟨["opt", "api", "config"], "default.yaml"⟩

def sampleInstall : Event (List String) String :=
  .install (sampleSetup "/tmp/bundle") "port: 8080" .default

def sampleEdit : Event (List String) String := .edit sampleConfig ⟨"port: 443", 0o600⟩

theorem sampleUpdate_read : Updater.parseArgs sampleUpdate = .ok
    ⟨"/tmp/api-update-2.0.0.zip", "/opt/api/api", "api", 4711, "supervisor"⟩ := by
  decide +kernel

theorem sampleUpdate_spares :
    (Event.update Updater.sampleAround sampleUpdate).Spares sampleConfig := by
  rintro parsed read touches
  obtain rfl := Except.ok.inj (sampleUpdate_read.symm.trans read)
  rcases touches with zipped | extracted | ⟨target, located, replaced⟩
  · revert zipped
    decide +kernel
  · revert extracted
    decide +kernel
  · have exe : Updater.sampleAround.platform.locate (.ofText "/opt/api/api".toList) =
        some ⟨["opt", "api"], "api"⟩ := by decide +kernel
    obtain rfl := Option.some.inj (located.symm.trans exe)
    revert replaced
    decide +kernel

theorem sampleUpdate_ends (files : FileSystem (List String) String) :
    ∃ files', (deployment sampleHost.files).step files
      (.update Updater.sampleAround sampleUpdate) = some files' := by
  have waited : Updater.waitForPidExit Updater.sampleAround.rounds Updater.sampleAround.start =
      some (true, 3) := by decide +kernel
  change ∃ files', (updaterMain _ _ files).map _ = some files'
  rw [updaterMain, sampleUpdate_read]
  dsimp only
  rw [if_neg (by decide), waited]
  exact ⟨_, rfl⟩

/-- What was edited is there after an update and another installation. -/
theorem config_survives_sample :
    ∃ files, (deployment sampleHost.files).Run (fun _ event => event.Spares sampleConfig)
        [sampleInstall, sampleEdit, .update Updater.sampleAround sampleUpdate, sampleInstall]
        files ∧
      files sampleConfig = some ⟨"port: 443", 0o600⟩ := by
  have present : sampleHost.files sampleConfig = some ⟨"port: 80", 0o600⟩ := by decide +kernel
  have installed := Machine.Run.start (M := deployment sampleHost.files)
    (C := fun _ event => event.Spares sampleConfig) |>.next (l := sampleInstall) trivial rfl
  have edited := installed.next (l := sampleEdit) trivial rfl
  obtain ⟨files, updated⟩ := sampleUpdate_ends _
  have run := (edited.next sampleUpdate_spares updated).next (l := sampleInstall) trivial rfl
  exact ⟨_, run, config_survives rfl present run⟩

end ApiBoilerplate.Installer
