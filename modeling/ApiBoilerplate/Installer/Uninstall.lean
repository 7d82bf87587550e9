import ApiBoilerplate.Installer.Deployment

/-!
# What an uninstallation leaves

The subcommand of the installer and the program of its own do the same to the files: the
unit goes, and so does everything in the directory, where the removals succeed; a failed one
is ignored or warned about. Where nothing was there before the first installation, no trace
of any is left but for the temporary files of updates. Symbolic and hard links are not
modelled.
-/

namespace ApiBoilerplate

open Foundation
open Updater (FilePath File FileSystem IoError)

namespace Installer

/-- How the removals of an uninstallation go. -/
structure Removal (δ : Type) where
  /-- The directory, or one below it. -/
  inside : δ → δ → Bool
  unit : Option IoError
  /-- What a failed `remove_dir_all` leaves. -/
  dir : Option (IoError × (FilePath δ → Bool))

/-- The unit of a service. -/
def unitPath (serviceName : String) : String :=
  Plan.unitPath ⟨serviceName, "", "", "", false⟩

section Program
variable {δ Content : Type} (setup : Setup δ Content) (removal : Removal δ)

/-- `remove_dir_all`; an error is only warned about. -/
def removeDirAll (path : String) : Install δ Content Unit := fun host =>
  match setup.dirs.resolve (.ofText path.toList) with
  | none => (.ok (), host)
  | some d =>
    let left : FilePath δ → Bool := (removal.dir.map Prod.snd).getD fun _ => false
    (.ok (), { host with
      files := fun p => if removal.inside d p.parent && !left p then none else host.files p })

variable [DecidableEq δ]

/-- The unit is removed if it is there; an error is ignored. -/
def removeUnit (path : String) : Install δ Content Unit := fun host =>
  match setup.locate path with
  | none => (.ok (), host)
  | some p =>
    match host.files p, removal.unit with
    | some _, none => (.ok (), host.put p none)
    | _, _ => (.ok (), host)

/-- What both programs do, each with its own way to run and to disable. -/
def teardown (run : List String → Install δ Content Unit) (disable : List String)
    (serviceName installDir : String) : Install δ Content Unit := do
  run ["systemctl", "stop", serviceName]
  run disable
  removeUnit setup removal (unitPath serviceName)
  run ["systemctl", "daemon-reload"]
  if setup.around.pathExists installDir then removeDirAll setup removal installDir

/-- The directory that `cmd_uninstall` is about. -/
def uninstallDir (around : Surroundings) (flags : Flags) : String :=
  flags.installDir.getD (defaultInstallDir (serviceName around flags))

/-- `cmd_uninstall` with all it does; `false` when it is not agreed to. -/
def uninstall (flags : Flags) : Install δ Content Bool :=
  match setup.around.privileges with
  | .error e => throw e
  | .ok () =>
    if interactive setup.around flags && !setup.around.confirm.getD false then pure false
    else do
      let name := serviceName setup.around flags
      teardown setup removal (runCmd setup) ["systemctl", "disable", "--now", name] name
        (uninstallDir setup.around flags)
      pure true

end Program
end Installer

namespace Uninstaller
open Installer (Setup Host Install Removal teardown)

section Program
variable {δ Content : Type} (setup : Setup δ Content) (removal : Removal δ)

/-- A command that cannot be run is only warned about. -/
def runCmd (command : List String) : Install δ Content Unit := fun host =>
  match setup.runs command with
  | .error _ => (.ok (), host)
  | .ok _ => (.ok (), { host with commands := host.commands ++ [command] })

def uninstallDir (around : Surroundings) (flags : Flags) : String :=
  flags.installDir.getD (detected around)

variable [DecidableEq δ]

/-- `main` from its flags on; `false` when it is not agreed to. -/
def uninstall (flags : Flags) : Install δ Content Bool :=
  match setup.around.privileges with
  | .error e => throw e
  | .ok () =>
    if (!flags.nonInteractive && setup.around.isTty) && !setup.around.confirm.getD false then
      pure false
    else do
      let name := flags.serviceName.getD "api"
      teardown setup removal (runCmd setup) ["systemctl", "disable", name] name
        (uninstallDir setup.around flags)
      pure true

end Program
end Uninstaller

namespace Installer

section Teardown
variable {δ Content : Type} {setup : Setup δ Content} {removal : Removal δ}
  {serviceName installDir path : String} {host t : Host δ Content} {p : FilePath δ}
  {before : Option (File Content)}

/-- The service's unit, and the files in the directory that is removed. -/
def Removed (setup : Setup δ Content) (removal : Removal δ) (serviceName installDir : String)
    (p : FilePath δ) : Prop :=
  setup.locate (unitPath serviceName) = some p ∨
    ∃ d, setup.dirs.resolve (.ofText installDir.toList) = some d ∧
      removal.inside d p.parent = true

theorem uninstaller_runCmd_keeps (command : List String) :
    KeepsFile p before (Uninstaller.runCmd setup command) := by
  refine Fallible.Keeps.of_outcome fun host kept => ?_
  change (Uninstaller.runCmd setup command host).2.files p = before
  unfold Uninstaller.runCmd
  split <;> exact kept

theorem removeDirAll_keeps
    (spared : before = none ∨ ∀ d, setup.dirs.resolve (.ofText path.toList) = some d →
      removal.inside d p.parent = false) :
    KeepsFile p before (removeDirAll setup removal path) := by
  refine Fallible.Keeps.of_outcome fun host kept => ?_
  change (removeDirAll setup removal path host).2.files p = before
  unfold removeDirAll
  split
  · exact kept
  · rename_i d resolved
    dsimp only
    rcases spared with rfl | outside
    · rw [kept, ite_self]
    · rw [outside d resolved]
      exact kept

theorem removeDirAll_clears {d : δ} (resolved : setup.dirs.resolve (.ofText path.toList) = some d)
    (within : removal.inside d p.parent = true) (faultless : removal.dir = none)
    (done : (removeDirAll setup removal path).outcome host = (.ok (), t)) : t.files p = none := by
  change removeDirAll setup removal path host = _ at done
  simp only [removeDirAll, resolved, faultless] at done
  cases done
  change (if removal.inside d p.parent && !false then none else host.files p) = none
  rw [within]
  rfl

variable [DecidableEq δ]

theorem removeUnit_keeps (spared : before = none ∨ setup.locate path ≠ some p) :
    KeepsFile p before (removeUnit setup removal path) := by
  refine Fallible.Keeps.of_outcome fun host kept => ?_
  change (removeUnit setup removal path host).2.files p = before
  unfold removeUnit
  split
  · exact kept
  · rename_i q located
    split
    · rcases spared with rfl | apart
      · rw [put_files, kept, ite_self]
      · have other : p ≠ q := fun same => apart (same ▸ located)
        exact put_keeps other none kept
    · exact kept

theorem removeUnit_clears (located : setup.locate path = some p) (faultless : removal.unit = none)
    (done : (removeUnit setup removal path).outcome host = (.ok (), t)) : t.files p = none := by
  change removeUnit setup removal path host = _ at done
  simp only [removeUnit, located, faultless] at done
  cases held : host.files p with
  | none =>
    rw [held] at done
    cases done
    exact held
  | some file =>
    rw [held] at done
    cases done
    rw [put_files, if_pos rfl]

variable {run : List String → Install δ Content Unit} {disable : List String}

theorem teardown_keeps (runs : ∀ command, KeepsFile p before (run command))
    (spared : before = none ∨ ¬ Removed setup removal serviceName installDir p) :
    KeepsFile p before (teardown setup removal run disable serviceName installDir) := by
  have unit : before = none ∨ setup.locate (unitPath serviceName) ≠ some p :=
    spared.imp_right fun other located => other (Or.inl located)
  have dir : before = none ∨ ∀ d, setup.dirs.resolve (.ofText installDir.toList) = some d →
      removal.inside d p.parent = false := by
    refine spared.imp_right fun other d resolved => ?_
    exact Bool.eq_false_iff.mpr fun within => other (Or.inr ⟨d, resolved, within⟩)
  unfold teardown
  refine (runs _).bind fun _ => (runs _).bind fun _ => ?_
  refine (removeUnit_keeps unit).bind fun _ => (runs _).bind fun _ => ?_
  split
  · exact removeDirAll_keeps dir
  · exact Fallible.Keeps.value ()

/-- A directory that does not exist has no files. -/
def Setup.FilesIn (setup : Setup δ Content) (removal : Removal δ) (installDir : String)
    (files : FileSystem δ Content) : Prop :=
  setup.around.pathExists installDir = false → ∀ d,
    setup.dirs.resolve (.ofText installDir.toList) = some d → ∀ p,
      removal.inside d p.parent = true → files p = none

/-- Where no removal fails, all that is to be removed is gone. -/
theorem teardown_clears (runs : ∀ command, KeepsFile p none (run command))
    (unitGoes : removal.unit = none) (dirGoes : removal.dir = none)
    (there : setup.FilesIn removal installDir host.files)
    (removed : Removed setup removal serviceName installDir p)
    (done : (teardown setup removal run disable serviceName installDir).outcome host =
      (.ok (), t)) : t.files p = none := by
  have torn := done
  unfold teardown at done
  obtain ⟨_, h₁, _, done₁⟩ := Fallible.ok_of_outcome_bind done
  obtain ⟨_, h₂, _, done₂⟩ := Fallible.ok_of_outcome_bind done₁
  obtain ⟨_, h₃, unlinked, done₃⟩ := Fallible.ok_of_outcome_bind done₂
  obtain ⟨_, h₄, reloaded, done₄⟩ := Fallible.ok_of_outcome_bind done₃
  rcases removed with located | ⟨d, resolved, within⟩
  · have gone : h₃.files p = none := removeUnit_clears located unitGoes unlinked
    have still : h₄.files p = none := (runs _).of_ok gone reloaded
    split at done₄
    · exact (removeDirAll_keeps (Or.inl rfl)).of_ok still done₄
    · cases done₄
      exact still
  · cases dirExists : setup.around.pathExists installDir with
    | true =>
      rw [if_pos dirExists] at done₄
      exact removeDirAll_clears resolved within dirGoes done₄
    | false =>
      have absent : host.files p = none := there dirExists d resolved p within
      exact (teardown_keeps runs (Or.inl rfl)).of_ok absent torn

end Teardown

section Uninstall
variable {δ Content : Type} [DecidableEq δ] {setup : Setup δ Content} {removal : Removal δ}
  {host t : Host δ Content} {p : FilePath δ}

/-- However an uninstallation ends, by either program, no file but the unit and those in the
directory is changed. -/
theorem uninstall_confined (setup : Setup δ Content) (removal : Removal δ) (host : Host δ Content)
    (p : FilePath δ) :
    (∀ flags, ¬ Removed setup removal (serviceName setup.around flags)
        (uninstallDir setup.around flags) p →
      ((uninstall setup removal flags).outcome host).2.files p = host.files p) ∧
    ∀ flags : Uninstaller.Flags, ¬ Removed setup removal (flags.serviceName.getD "api")
        (Uninstaller.uninstallDir setup.around flags) p →
      ((Uninstaller.uninstall setup removal flags).outcome host).2.files p = host.files p := by
  constructor
  · intro flags other
    unfold uninstall
    split
    · rfl
    · split
      · rfl
      · exact ((teardown_keeps runCmd_keeps (Or.inr other)).bind
          fun _ => Fallible.Keeps.value true).holds rfl
  · intro flags other
    unfold Uninstaller.uninstall
    split
    · rfl
    · split
      · rfl
      · exact ((teardown_keeps uninstaller_runCmd_keeps (Or.inr other)).bind
          fun _ => Fallible.Keeps.value true).holds rfl

/-- An uninstallation that came to its end, by either program. -/
inductive Uninstalled (setup : Setup δ Content) (removal : Removal δ) (host t : Host δ Content) :
    String → String → Prop where
  | subcommand (flags : Flags) :
      (uninstall setup removal flags).outcome host = (.ok true, t) →
      Uninstalled setup removal host t (serviceName setup.around flags)
        (uninstallDir setup.around flags)
  | program (flags : Uninstaller.Flags) :
      (Uninstaller.uninstall setup removal flags).outcome host = (.ok true, t) →
      Uninstalled setup removal host t (flags.serviceName.getD "api")
        (Uninstaller.uninstallDir setup.around flags)

/-- Both programs tear down, with a way of their own to run a command. -/
theorem Uninstalled.torn {serviceName installDir : String}
    (uninstalled : Uninstalled setup removal host t serviceName installDir) :
    ∃ run disable,
      (∀ p (before : Option (File Content)) command, KeepsFile p before (run command)) ∧
      (teardown setup removal run disable serviceName installDir).outcome host = (.ok (), t) := by
  cases uninstalled with
  | subcommand flags done =>
    unfold uninstall at done
    split at done
    · cases done
    · split at done
      · cases done
      · obtain ⟨_, h, torn, ended⟩ := Fallible.ok_of_outcome_bind done
        cases ended
        exact ⟨runCmd setup, _, fun _ _ => runCmd_keeps, torn⟩
  | program flags done =>
    unfold Uninstaller.uninstall at done
    split at done
    · cases done
    · split at done
      · cases done
      · obtain ⟨_, h, torn, ended⟩ := Fallible.ok_of_outcome_bind done
        cases ended
        exact ⟨Uninstaller.runCmd setup, _, fun _ _ => uninstaller_runCmd_keeps, torn⟩

theorem Uninstalled.confined {serviceName installDir : String}
    (uninstalled : Uninstalled setup removal host t serviceName installDir)
    (other : ¬ Removed setup removal serviceName installDir p) : t.files p = host.files p := by
  obtain ⟨subcommand, program⟩ := uninstall_confined setup removal host p
  cases uninstalled with
  | subcommand flags done =>
    have kept := subcommand flags other
    rwa [done] at kept
  | program flags done =>
    have kept := program flags other
    rwa [done] at kept

/-- The event writes another file, if any. -/
def Event.Leaves (p : FilePath δ) : Event δ Content → Prop
  | .install setup _ flags =>
    (∀ name ∈ binaryNames,
      setup.locate (joinPath (gather setup flags).installDir name) ≠ some p) ∧
    setup.locate (gather setup flags).configPath ≠ some p ∧
    setup.locate (gather setup flags).unitPath ≠ some p
  | .update around args => (Event.update around args).Spares p
  | .edit q _ => q ≠ p

omit [DecidableEq δ] in
theorem install_leaves {found : Setup δ Content} {flags : Flags} {ds di dc : δ}
    (defaultConfig : String) (placed : Placed found (gather found flags) ds di dc)
    (outside : p.parent ≠ di) (config : p.parent ≠ dc)
    (unit : found.locate (gather found flags).unitPath ≠ some p) :
    (Event.install found defaultConfig flags).Leaves p := by
  refine ⟨fun name listed located => ?_, fun located => ?_, unit⟩
  · have there := locate_joinPath placed.target (binaryNames_entries name listed)
    exact outside (congrArg FilePath.parent (Option.some.inj (there.symm.trans located))).symm
  · exact config (congrArg FilePath.parent
      (Option.some.inj (placed.configPath.symm.trans located))).symm

theorem deployment_leaves {start files files' : FileSystem δ Content} {event : Event δ Content}
    (leaves : event.Leaves p) (step : (deployment start).step files event = some files') :
    files' p = files p := by
  cases event with
  | install setup defaultConfig flags =>
    obtain rfl := Option.some.inj step
    obtain ⟨binaries, config, unit⟩ := leaves
    exact (cmdInstall_keeps defaultConfig flags binaries (fun here => absurd here config)
      unit).holds rfl
  | update around args =>
    obtain ⟨finished, run, rfl⟩ := Option.map_eq_some_iff.mp step
    exact Updater.updaterMain_keeps run leaves
  | edit q edited =>
    obtain rfl := Option.some.inj step
    exact Function.update_of_ne (Ne.symm leaves) ..

/-- Where nothing was there before and nothing was written anywhere else but temporary
files, an uninstallation whose removals succeed undoes every installation, update and edit
since. -/
theorem uninstall_restores {start files : FileSystem δ Content} {events : List (Event δ Content)}
    {serviceName installDir : String} (temporary : FilePath δ → Prop)
    (fresh : ∀ p, Removed setup removal serviceName installDir p → start p = none)
    (run : (deployment start).Run (fun _ event => ∀ p, ¬ temporary p →
      ¬ Removed setup removal serviceName installDir p → event.Leaves p) events files)
    (unitGoes : removal.unit = none) (dirGoes : removal.dir = none)
    (there : setup.FilesIn removal installDir host.files) (installed : host.files = files)
    (uninstalled : Uninstalled setup removal host t serviceName installDir) :
    ∀ p, ¬ temporary p ∨ Removed setup removal serviceName installDir p →
      t.files p = start p := by
  intro p kept
  by_cases removed : Removed setup removal serviceName installDir p
  · obtain ⟨command, disable, runs, torn⟩ := uninstalled.torn
    rw [fresh p removed]
    exact teardown_clears (runs p none) unitGoes dirGoes there removed torn
  · have lasting : ¬ temporary p := kept.resolve_right removed
    have left : files p = start p :=
      run.history (I := fun _ files => files p = start p) rfl fun _ _ _ _ before leaves step =>
        (deployment_leaves (leaves p lasting removed) step).trans before
    exact (uninstalled.confined removed).trans ((congrFun installed p).trans left)

end Uninstall

/-- Every directory is within itself. -/
def sampleRemoval : Removal (List String) where
  inside d e := d.isPrefixOf e
  unit := none
  dir := none

/-- Nothing is there but the bundle. -/
def freshHost : Host (List String) String where
  files p := if p = ⟨["tmp", "bundle"], "api"⟩ then some ⟨"2.0.0", 0o644⟩ else none
  commands := []

abbrev SampleRemoved (p : FilePath (List String)) : Prop :=
  Removed (sampleSetup "/opt/api") sampleRemoval "api" "/opt/api" p

def sampleUninstall : Install (List String) String Bool :=
  Uninstaller.uninstall (sampleSetup "/opt/api") sampleRemoval .default

theorem sampleRemoved_iff (p : FilePath (List String)) :
    SampleRemoved p ↔ p = ⟨["etc", "systemd", "system"], "api.service"⟩ ∨
      (["opt", "api"].isPrefixOf p.parent = true) := by
  have unit : (sampleSetup "/opt/api").locate (unitPath "api") =
      some ⟨["etc", "systemd", "system"], "api.service"⟩ := by decide +kernel
  have dir : (sampleSetup "/opt/api").dirs.resolve (.ofText "/opt/api".toList) =
      some ["opt", "api"] := by decide +kernel
  constructor
  · rintro (located | ⟨d, resolved, within⟩)
    · exact Or.inl (Option.some.inj (located.symm.trans unit))
    · obtain rfl := Option.some.inj (resolved.symm.trans dir)
      exact Or.inr within
  · rintro (rfl | within)
    · exact Or.inl unit
    · exact Or.inr ⟨_, dir, within⟩

theorem sampleInstall_leaves {p : FilePath (List String)} (other : ¬ SampleRemoved p) :
    sampleInstall.Leaves p := by
  rw [sampleRemoved_iff, not_or] at other
  have placed : Placed (sampleSetup "/tmp/bundle") (gather (sampleSetup "/tmp/bundle") .default)
      ["tmp", "bundle"] ["opt", "api"] ["opt", "api", "config"] :=
    sample_placed "/tmp/bundle" (by decide +kernel)
  refine install_leaves _ placed ?_ ?_ ?_
  · rintro here
    simp [here] at other
  · rintro here
    simp [here] at other
  · have unit : (sampleSetup "/tmp/bundle").locate
        (gather (sampleSetup "/tmp/bundle") .default).unitPath =
          some ⟨["etc", "systemd", "system"], "api.service"⟩ := by decide +kernel
    rw [unit]
    rintro here
    exact other.1 (Option.some.inj here).symm

/-- What the service stores before the updater starts. -/
def sampleArchive : Event (List String) String :=
  .edit ⟨["tmp"], "api-update-2.0.0.zip"⟩ ⟨"PK", 0o644⟩

/-- The updater's files that are not in the directory. -/
def sampleTemporary (p : FilePath (List String)) : Prop := p.parent = ["tmp"]

theorem sampleUpdate_leaves {p : FilePath (List String)} (lasting : ¬ sampleTemporary p)
    (other : ¬ SampleRemoved p) : (Event.update Updater.sampleAround sampleUpdate).Leaves p := by
  rintro parsed read touches
  obtain rfl := Except.ok.inj (sampleUpdate_read.symm.trans read)
  rw [sampleRemoved_iff, not_or] at other
  rcases touches with zipped | extracted | ⟨target, located, replaced⟩
  · have archive : Updater.sampleAround.platform.locate
        (.ofText "/tmp/api-update-2.0.0.zip".toList) =
          some ⟨["tmp"], "api-update-2.0.0.zip"⟩ := by decide +kernel
    obtain rfl := Option.some.inj (zipped.symm.trans archive)
    exact lasting rfl
  · have out : Updater.sampleAround.platform.locate (Updater.outPath
        (.ofText "/tmp/api-update-2.0.0.zip".toList) "api") = some ⟨["tmp"], "api.new"⟩ := by
      decide +kernel
    obtain rfl := Option.some.inj (extracted.symm.trans out)
    exact lasting rfl
  · have exe : Updater.sampleAround.platform.locate (.ofText "/opt/api/api".toList) =
        some ⟨["opt", "api"], "api"⟩ := by decide +kernel
    obtain rfl := Option.some.inj (located.symm.trans exe)
    have within : p.parent = ["opt", "api"] := by
      rcases replaced with rfl | rfl
      · rfl
      · decide +kernel
    rw [within] at other
    exact other.2 (by decide)

/-- Installed, edited and ready to be updated. -/
def sampleReady : FileSystem (List String) String :=
  let first := ((sampleRun "/tmp/bundle").outcome ⟨freshHost.files, []⟩).2
  let edited := Function.update first.files sampleConfig (some ⟨"port: 443", 0o600⟩)
  Function.update edited ⟨["tmp"], "api-update-2.0.0.zip"⟩ (some ⟨"PK", 0o644⟩)

def sampleUpdated : FileSystem (List String) String :=
  ((deployment freshHost.files).step sampleReady
    (.update Updater.sampleAround sampleUpdate)).getD sampleReady

theorem sampleUpdated_step : (deployment freshHost.files).step sampleReady
    (.update Updater.sampleAround sampleUpdate) = some sampleUpdated := by
  obtain ⟨files, step⟩ := sampleUpdate_ends sampleReady
  have step : (deployment freshHost.files).step sampleReady
    (.update Updater.sampleAround sampleUpdate) = some files := step
  rw [sampleUpdated, step, Option.getD_some]

/-- Of an installation that was edited and updated nothing is left. -/
theorem uninstall_restores_sample :
    (deployment freshHost.files).Run
        (fun _ event => ∀ p, ¬ sampleTemporary p → ¬ SampleRemoved p → event.Leaves p)
        [sampleInstall, sampleEdit, sampleArchive, .update Updater.sampleAround sampleUpdate]
        sampleUpdated ∧
      sampleUpdated sampleConfig = some ⟨"port: 443", 0o600⟩ ∧
      ∀ p, ¬ sampleTemporary p ∨ SampleRemoved p →
        (sampleUninstall.outcome ⟨sampleUpdated, []⟩).2.files p = freshHost.files p := by
  have fresh (p : FilePath (List String)) (removed : SampleRemoved p) :
      freshHost.files p = none := by
    refine if_neg ?_
    rintro rfl
    rw [sampleRemoved_iff] at removed
    revert removed
    decide
  have edited (p : FilePath (List String)) (other : ¬ SampleRemoved p) : sampleEdit.Leaves p := by
    rintro rfl
    rw [sampleRemoved_iff] at other
    revert other
    decide
  have stored (p : FilePath (List String)) (lasting : ¬ sampleTemporary p) :
      sampleArchive.Leaves p := by
    rintro rfl
    exact lasting rfl
  have run := Machine.Run.start (M := deployment freshHost.files)
    (C := fun _ event => ∀ p, ¬ sampleTemporary p → ¬ SampleRemoved p → event.Leaves p)
    |>.next (l := sampleInstall) (fun _ _ => sampleInstall_leaves) rfl
    |>.next (l := sampleEdit) (fun p _ => edited p) rfl
    |>.next (l := sampleArchive) (t := sampleReady) (fun p lasting _ => stored p lasting) rfl
    |>.next (fun _ => sampleUpdate_leaves) sampleUpdated_step
  have ended : sampleUninstall.outcome ⟨sampleUpdated, []⟩ =
      (.ok true, (sampleUninstall.outcome ⟨sampleUpdated, []⟩).2) :=
    Fallible.outcome_of_ok (by decide +kernel)
  exact ⟨run, by decide +kernel, uninstall_restores sampleTemporary fresh run rfl rfl nofun rfl
    (.program .default ended)⟩

end Installer
end ApiBoilerplate
