import ApiBoilerplate.Installer.CommandLine
import ApiBoilerplate.Updater.Process

/-!
# Installing the service

`cmd_install` on Unix, from the values it gathers to the commands it runs. Every call to
the file system is told whether it fails and what it leaves behind; a file copied over
itself is cut to nothing, since the target is emptied before the source is read. Symbolic
and hard links in the place of a file are not modelled: two paths are one file when the
directories they are in are one and their last names agree.
-/

namespace ApiBoilerplate.Installer

open Foundation
open Updater (FilePath File FileSystem IoError notFound)

/-- How `create_dir_all` may fail. -/
inductive MkdirError where
  | alreadyExists
  | other (error : IoError)

/-- What an installation finds around it, and which of its calls fail. -/
structure Setup (δ Content : Type) where
  around : Surroundings
  /-- The answers to the two questions, unless one cannot be asked. -/
  start : Option Bool
  proceed : Option Bool
  /-- The directories, with those that `create_dir_all` makes. -/
  dirs : Directories δ
  emptied : Content
  text : String → Content
  newMode : BitVec 32
  mkdir : String → Option MkdirError
  /-- By binary; what a failed copy leaves at its target. -/
  copyBinary : String → Option (IoError × Option (File Content))
  metadata : String → Option IoError
  setPermissions : String → Option IoError
  writeConfig : Option (IoError × Option (File Content))
  writeUnit : Option (IoError × Option (File Content))
  /-- Whether a command could be run, and whether it succeeded. -/
  runs : List String → Except IoError Bool

structure Host (δ Content : Type) where
  files : FileSystem δ Content
  /-- The commands that were run, oldest first. -/
  commands : List (List String)

/-- An error is the message of `fatal`, which ends the process with 1. -/
abbrev Install (δ Content : Type) := Fallible String (Host δ Content)

def binaryNames : List String := ["api", "worker", "updater", "installer", "uninstaller"]

/-- `Path::join`, on the texts. -/
@[irreducible] def joinPath (dir name : String) : String :=
  String.ofList (UnixPath.pushText dir.toList name.toList)

/-- The values that `cmd_install` gathers. -/
structure Plan where
  serviceName : String
  installDir : String
  displayName : String
  description : String
  shouldStart : Bool
  deriving DecidableEq, Repr

namespace Plan

def configDir (plan : Plan) : String := joinPath plan.installDir "config"

def configPath (plan : Plan) : String := joinPath plan.configDir "default.yaml"

@[irreducible] def unitPath (plan : Plan) : String :=
  "/etc/systemd/system/" ++ plan.serviceName ++ ".service"

/-- The unit file, the display name as a comment on top. -/
def unit (plan : Plan) : String :=
  "# DisplayName: " ++ plan.displayName ++ "\n" ++
  "[Unit]\n" ++
  "Description=" ++ plan.description ++ "\n" ++
  "After=network-online.target\n" ++
  "Wants=network-online.target\n" ++
  "\n" ++
  "[Service]\n" ++
  "Type=simple\n" ++
  "ExecStart=" ++ joinPath plan.installDir "api" ++ "\n" ++
  "WorkingDirectory=" ++ plan.installDir ++ "\n" ++
  "Environment=APP_ENV=production\n" ++
  "Environment=APP_CONFIG_DIR=" ++ plan.configDir ++ "\n" ++
  "Restart=on-failure\n" ++
  "RestartSec=5\n" ++
  "StandardOutput=journal\n" ++
  "StandardError=journal\n" ++
  "SyslogIdentifier=" ++ plan.serviceName ++ "\n" ++
  "\n" ++
  "[Install]\n" ++
  "WantedBy=multi-user.target\n"

end Plan

section Program
variable {δ Content : Type} (setup : Setup δ Content)

def gather (flags : Flags) : Plan :=
  let asks := interactive setup.around flags
  let serviceName := serviceName setup.around flags
  let default := defaultInstallDir serviceName
  { serviceName := serviceName
    installDir := flags.installDir.getD
      (if asks then (setup.around.input "Install directory").getD default else default)
    displayName := resolve setup.around flags.displayName asks "Display name" "API Service"
    description := resolve setup.around flags.description asks "Description"
      "Rust API boilerplate service"
    shouldStart := if flags.noStart then false else if asks then setup.start.getD true else true }

/-- `installer_dir`. -/
def sourceDir : String := setup.around.exeDirectory.getD "."

def Setup.locate (path : String) : Option (FilePath δ) :=
  (setup.dirs.locate (.ofText path.toList)).map fun entry => ⟨entry.1, entry.2⟩

def Setup.pathExists (path : String) : Install δ Content Bool := fun host =>
  (.ok ((setup.locate path).bind host.files).isSome, host)

def createDirAll (path : String) : Install δ Content Unit := fun host =>
  match setup.mkdir path with
  | none | some .alreadyExists => (.ok (), host)
  | some (.other e) => (.error ("Cannot create directory " ++ path ++ ": " ++ e), host)

variable [DecidableEq δ]

/-- A write to a file, or what a failed one leaves of it. -/
def Host.put (host : Host δ Content) (p : FilePath δ) (file : Option (File Content)) :
    Host δ Content :=
  { host with files := Function.update host.files p file }

def copyFile (fault : Option (IoError × Option (File Content))) (src dst : String) :
    Install δ Content Unit := fun host =>
  let refused (e : IoError) : Except String Unit :=
    .error ("Cannot copy " ++ src ++ " → " ++ dst ++ ": " ++ e)
  match setup.locate src, setup.locate dst with
  | some p, some q =>
    match host.files p, fault with
    | none, _ => (refused notFound, host)
    | some _, some (e, left) => (refused e, host.put q left)
    | some file, none =>
      (.ok (), host.put q (some { file with
        content := if p = q then setup.emptied else file.content }))
  | _, _ => (refused notFound, host)

/-- Errors are ignored. -/
def setExecutable (name path : String) : Install δ Content Unit := fun host =>
  match setup.locate path with
  | none => (.ok (), host)
  | some p =>
    match host.files p, setup.metadata name, setup.setPermissions name with
    | some file, none, none =>
      (.ok (), host.put p (some { file with mode := file.mode ||| 0o111 }))
    | _, _, _ => (.ok (), host)

/-- `fs::write`; a file that is there keeps its permissions. -/
def writeFile (fault : Option (IoError × Option (File Content))) (path contents : String)
    (refused : IoError → String) : Install δ Content Unit := fun host =>
  match setup.locate path with
  | none => (.error (refused notFound), host)
  | some p =>
    match fault with
    | some (e, left) => (.error (refused e), host.put p left)
    | none =>
      let mode := ((host.files p).map File.mode).getD setup.newMode
      (.ok (), host.put p (some ⟨setup.text contents, mode⟩))

omit [DecidableEq δ] in
/-- A command that fails is only warned about. -/
def runCmd (command : List String) : Install δ Content Unit := fun host =>
  match setup.runs command with
  | .error e => (.error ("Failed to run `" ++ " ".intercalate command ++ "`: " ++ e), host)
  | .ok _ => (.ok (), { host with commands := host.commands ++ [command] })

def installBinary (plan : Plan) (name : String) : Install δ Content Unit := do
  let src := joinPath (sourceDir setup) name
  let dst := joinPath plan.installDir name
  if ← setup.pathExists src then
    copyFile setup (setup.copyBinary name) src dst
    setExecutable setup name dst

def installBinaries (plan : Plan) : List String → Install δ Content Unit
  | [] => pure ()
  | name :: names => do
    installBinary setup plan name
    installBinaries plan names

def writeDefaultConfig (defaultConfig : String) (plan : Plan) : Install δ Content Unit := do
  if ← setup.pathExists plan.configPath then pure ()
  else
    writeFile setup setup.writeConfig plan.configPath defaultConfig
      ("Failed to write config: " ++ ·)

def registerService (plan : Plan) : Install δ Content Unit := do
  writeFile setup setup.writeUnit plan.unitPath plan.unit
    ("Failed to write unit file " ++ plan.unitPath ++ ": " ++ ·)
  runCmd setup ["systemctl", "daemon-reload"]
  runCmd setup ["systemctl", "enable", plan.serviceName]

def perform (defaultConfig : String) (plan : Plan) : Install δ Content Unit := do
  createDirAll setup plan.installDir
  createDirAll setup plan.configDir
  installBinaries setup plan binaryNames
  writeDefaultConfig setup defaultConfig plan
  registerService setup plan
  if plan.shouldStart then runCmd setup ["systemctl", "start", plan.serviceName]

/-- `cmd_install`; `false` when the summary is not agreed to. -/
def cmdInstall (defaultConfig : String) (flags : Flags) : Install δ Content Bool :=
  match setup.around.privileges with
  | .error e => throw e
  | .ok () =>
    if interactive setup.around flags && !setup.proceed.getD true then pure false
    else do
      perform setup defaultConfig (gather setup flags)
      pure true

end Program

section Keeps
variable {δ Content : Type} {setup : Setup δ Content} {p : FilePath δ}
  {before : Option (File Content)}

/-- However the program ends, the file is as it was. -/
abbrev KeepsFile {α : Type} (p : FilePath δ) (before : Option (File Content))
    (m : Install δ Content α) : Prop :=
  Fallible.Keeps (fun host => host.files p = before) m

theorem createDirAll_keeps (path : String) : KeepsFile p before (createDirAll setup path) := by
  refine Fallible.Keeps.of_outcome fun host kept => ?_
  change (createDirAll setup path host).2.files p = before
  unfold createDirAll
  split <;> exact kept

theorem pathExists_keeps (path : String) : KeepsFile p before (setup.pathExists path) :=
  fun _ kept => kept

theorem runCmd_keeps (command : List String) : KeepsFile p before (runCmd setup command) := by
  refine Fallible.Keeps.of_outcome fun host kept => ?_
  change (runCmd setup command host).2.files p = before
  unfold runCmd
  split <;> exact kept

variable [DecidableEq δ]

theorem put_files (host : Host δ Content) (q : FilePath δ) (file : Option (File Content)) :
    (host.put q file).files p = if p = q then file else host.files p :=
  Function.update_apply ..

theorem put_keeps {host : Host δ Content} {q : FilePath δ} (other : p ≠ q)
    (file : Option (File Content)) (kept : host.files p = before) :
    (host.put q file).files p = before := by
  rwa [put_files, if_neg other]

theorem copyFile_keeps (fault : Option (IoError × Option (File Content))) {src dst : String}
    (apart : setup.locate dst ≠ some p) : KeepsFile p before (copyFile setup fault src dst) := by
  refine Fallible.Keeps.of_outcome fun host kept => ?_
  change (copyFile setup fault src dst host).2.files p = before
  unfold copyFile
  dsimp only
  split
  · rename_i from_ to_ _ located
    have other : p ≠ to_ := fun same => apart (same ▸ located)
    split
    · exact kept
    · exact put_keeps other _ kept
    · exact put_keeps other _ kept
  · exact kept

theorem setExecutable_keeps (name : String) {path : String} (apart : setup.locate path ≠ some p) :
    KeepsFile p before (setExecutable setup name path) := by
  refine Fallible.Keeps.of_outcome fun host kept => ?_
  change (setExecutable setup name path host).2.files p = before
  unfold setExecutable
  split
  · exact kept
  · rename_i q located
    have other : p ≠ q := fun same => apart (same ▸ located)
    split
    · exact put_keeps other _ kept
    · exact kept

theorem writeFile_keeps (fault : Option (IoError × Option (File Content))) {path : String}
    (contents : String) (refused : IoError → String) (apart : setup.locate path ≠ some p) :
    KeepsFile p before (writeFile setup fault path contents refused) := by
  refine Fallible.Keeps.of_outcome fun host kept => ?_
  change (writeFile setup fault path contents refused host).2.files p = before
  unfold writeFile
  split
  · exact kept
  · rename_i q located
    have other : p ≠ q := fun same => apart (same ▸ located)
    split
    · exact put_keeps other _ kept
    · exact put_keeps other _ kept

theorem installBinaries_keeps (plan : Plan) (names : List String)
    (apart : ∀ name ∈ names, setup.locate (joinPath plan.installDir name) ≠ some p) :
    KeepsFile p before (installBinaries setup plan names) := by
  induction names with
  | nil => exact Fallible.Keeps.value ()
  | cons name names ih =>
    obtain ⟨here, rest⟩ := List.forall_mem_cons.mp apart
    refine Fallible.Keeps.bind ?_ fun _ => ih rest
    refine (pathExists_keeps _).bind ?_
    rintro (_ | _)
    · exact Fallible.Keeps.value ()
    · exact (copyFile_keeps _ here).bind fun _ => setExecutable_keeps name here

/-- A configuration that is there is not written. -/
theorem writeDefaultConfig_keeps (defaultConfig : String) (plan : Plan)
    (apart : setup.locate plan.configPath = some p → before.isSome) :
    KeepsFile p before (writeDefaultConfig setup defaultConfig plan) := by
  by_cases here : setup.locate plan.configPath = some p
  · refine Fallible.Keeps.of_outcome fun host kept => ?_
    have found : (setup.pathExists plan.configPath).outcome host = (.ok true, host) := by
      change (Except.ok _, host) = _
      rw [here, Option.bind_some, kept, apart here]
    rw [writeDefaultConfig, Fallible.outcome_bind_ok found]
    exact kept
  · refine (pathExists_keeps _).bind ?_
    rintro (_ | _)
    · exact writeFile_keeps _ _ _ here
    · exact Fallible.Keeps.value ()

theorem registerService_keeps (plan : Plan) (apart : setup.locate plan.unitPath ≠ some p) :
    KeepsFile p before (registerService setup plan) := by
  unfold registerService
  refine (writeFile_keeps _ _ _ apart).bind fun _ => ?_
  exact (runCmd_keeps _).bind fun _ => runCmd_keeps _

theorem perform_keeps (defaultConfig : String) (plan : Plan)
    (binaries : ∀ name ∈ binaryNames, setup.locate (joinPath plan.installDir name) ≠ some p)
    (config : setup.locate plan.configPath = some p → before.isSome)
    (unit : setup.locate plan.unitPath ≠ some p) :
    KeepsFile p before (perform setup defaultConfig plan) := by
  refine (createDirAll_keeps _).bind fun _ => ?_
  refine (createDirAll_keeps _).bind fun _ => ?_
  refine (installBinaries_keeps plan binaryNames binaries).bind fun _ => ?_
  refine (writeDefaultConfig_keeps defaultConfig plan config).bind fun _ => ?_
  refine (registerService_keeps plan unit).bind fun _ => ?_
  split
  · exact runCmd_keeps _
  · exact Fallible.Keeps.value ()

theorem cmdInstall_keeps (defaultConfig : String) (flags : Flags)
    (binaries : ∀ name ∈ binaryNames,
      setup.locate (joinPath (gather setup flags).installDir name) ≠ some p)
    (config : setup.locate (gather setup flags).configPath = some p → before.isSome)
    (unit : setup.locate (gather setup flags).unitPath ≠ some p) :
    KeepsFile p before (cmdInstall setup defaultConfig flags) := by
  unfold cmdInstall
  split
  · exact Fallible.Keeps.of_outcome fun _ kept => kept
  · split
    · exact Fallible.Keeps.value false
    · exact (perform_keeps defaultConfig _ binaries config unit).bind fun _ =>
        Fallible.Keeps.value true

end Keeps

end ApiBoilerplate.Installer
