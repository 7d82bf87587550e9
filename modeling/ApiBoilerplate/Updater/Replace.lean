import ApiBoilerplate.Foundation.Fallible
import Mathlib.Logic.Function.Basic

/-!
# Replacing the binary

The part of the updater binary that moves an extracted file into the place of
the installed one, and its recovery. Each file-system call is told whether it
fails; only a copy that fails may leave something behind. A symbolic or hard
link in the place of a file is not modelled: each path holds its own file.
-/

namespace ApiBoilerplate.Updater

open Foundation

/-- A directory, however it was reached, and the name of an entry in it. -/
structure FilePath (δ : Type) where
  parent : δ
  fileName : String
deriving DecidableEq

/-- The text before and after the last dot. -/
def splitLastDot (text : List Char) : Option (List Char × List Char) :=
  match text.reverse.dropWhile (· ≠ '.') with
  | [] => none
  | _ :: before => some (before.reverse, (text.reverse.takeWhile (· ≠ '.')).reverse)

/-- `rsplit_file_at_dot`: a name that starts with its only dot has no extension. -/
def rsplitFileAtDot (file : List Char) : List Char × Option (List Char) :=
  if file = ['.', '.'] then (file, none)
  else
    match splitLastDot file with
    | none => (file, none)
    | some ([], _) => (file, none)
    | some (before, after) => (before, some after)

namespace FilePath
variable {δ : Type}

def fileStem (p : FilePath δ) : List Char := (rsplitFileAtDot p.fileName.toList).1

/-- `Path::extension`. -/
def extension (p : FilePath δ) : Option (List Char) := (rsplitFileAtDot p.fileName.toList).2

/-- `PathBuf::set_extension`. -/
def setExtension (p : FilePath δ) (ext : List Char) : FilePath δ :=
  { p with fileName := String.ofList (p.fileStem ++ if ext = [] then [] else '.' :: ext) }

end FilePath

def backupPath {δ : Type} (target : FilePath δ) : FilePath δ :=
  target.setExtension
    (match target.extension with
    | some e => e ++ ".bak".toList
    | none => "bak".toList)

/-- Where `extract_binary` puts the new binary. -/
def extractedPath {δ : Type} (directory : δ) (binaryName : String) : FilePath δ :=
  ⟨directory, binaryName ++ ".new"⟩

structure File (Content : Type) where
  content : Content
  mode : BitVec 32
deriving DecidableEq

abbrev FileSystem (δ Content : Type) := FilePath δ → Option (File Content)

abbrev IoError := String

abbrev Io (δ Content : Type) := Fallible IoError (FileSystem δ Content)

def notFound : IoError := "No such file or directory (os error 2)"

section Calls
variable {δ Content : Type} [DecidableEq δ]

def pathExists (p : FilePath δ) : Io δ Content Bool := fun fs => (.ok (fs p).isSome, fs)

def removeFile (fault : Option IoError) (p : FilePath δ) : Io δ Content Unit := fun fs =>
  match fault, fs p with
  | some e, _ => (.error e, fs)
  | none, none => (.error notFound, fs)
  | none, some _ => (.ok (), Function.update fs p none)

def rename (fault : Option IoError) (source target : FilePath δ) : Io δ Content Unit := fun fs =>
  match fault, fs source with
  | some e, _ => (.error e, fs)
  | none, none => (.error notFound, fs)
  | none, some file => (.ok (), Function.update (Function.update fs source none) target (some file))

/-- `fs::copy`: contents and permission bits. The source is opened first; a
failure after that leaves some part of a file, or none. -/
def copy (fault : Option (IoError × Option (File Content))) (source target : FilePath δ) :
    Io δ Content Unit := fun fs =>
  match fault, fs source with
  | _, none => (.error notFound, fs)
  | some (e, left), some _ => (.error e, Function.update fs target left)
  | none, some file => (.ok (), Function.update fs target (some file))

/-- The permission bits that `fs::metadata` reports. -/
def metadata (fault : Option IoError) (p : FilePath δ) : Io δ Content (BitVec 32) := fun fs =>
  match fault, fs p with
  | some e, _ => (.error e, fs)
  | none, none => (.error notFound, fs)
  | none, some file => (.ok file.mode, fs)

def setPermissions (fault : Option IoError) (p : FilePath δ) (mode : BitVec 32) :
    Io δ Content Unit := fun fs =>
  match fault, fs p with
  | some e, _ => (.error e, fs)
  | none, none => (.error notFound, fs)
  | none, some file => (.ok (), Function.update fs p (some { file with mode := mode }))

end Calls

/-- Which calls of `replace_binary` and of the recovery fail, and how. -/
structure Faults (Content : Type) where
  removeStale : Option IoError
  backUp : Option IoError
  moveNew : Option IoError
  copyNew : Option (IoError × Option (File Content))
  removeNew : Option IoError
  metadata : Option IoError
  setPermissions : Option IoError
  removeBackup : Option IoError
  restore : Option IoError

section Program
variable {δ Content : Type} [DecidableEq δ] (faults : Faults Content)

def removeStaleBackup (backup : FilePath δ) : Io δ Content Unit := do
  if ← pathExists backup then removeFile faults.removeStale backup

def backUpExisting (target backup : FilePath δ) : Io δ Content Unit := do
  if ← pathExists target then rename faults.backUp target backup

/-- The rename fails across mount points. -/
def moveIntoPlace (newBin target : FilePath δ) : Io δ Content Unit := do
  match ← (rename faults.moveNew newBin target).attempt with
  | .ok _ => pure ()
  | .error _ =>
    copy faults.copyNew newBin target
    removeFile faults.removeNew newBin

/-- Read, write and execute bits as on Unix: `+x` for owner, group, other. -/
def setExecutable (target : FilePath δ) : Io δ Content Unit := do
  let mode ← metadata faults.metadata target
  setPermissions faults.setPermissions target (mode ||| 0o111)

def dropBackup (backup : FilePath δ) : Io δ Content Unit := do
  if ← pathExists backup then
    let _ ← (removeFile faults.removeBackup backup).attempt

def replaceBinary (newBin target : FilePath δ) : Io δ Content Unit := do
  let backup := backupPath target
  removeStaleBackup faults backup
  backUpExisting faults target backup
  moveIntoPlace faults newBin target
  setExecutable faults target
  dropBackup faults backup

/-- What the recovery in `main` did, if it was attempted. -/
def restoreBackup (target : FilePath δ) : Io δ Content (Option (Except IoError Unit)) := do
  let backup := backupPath target
  if ← pathExists backup then
    let restored ← (rename faults.restore backup target).attempt
    return some restored
  else return none

structure Ended (δ Content : Type) where
  result : Except IoError Unit
  recovery : Option (Except IoError Unit)
  files : FileSystem δ Content

/-- `main`, from the replacement to the end of its recovery. -/
def replaceOrRecover (newBin target : FilePath δ) (files : FileSystem δ Content) :
    Ended δ Content :=
  match (replaceBinary faults newBin target).outcome files with
  | (.ok (), files) => ⟨.ok (), none, files⟩
  | (.error e, files) =>
    match (restoreBackup faults target).outcome files with
    | (.ok recovery, files) => ⟨.error e, recovery, files⟩
    | (.error _, files) => ⟨.error e, none, files⟩

end Program
end ApiBoilerplate.Updater
