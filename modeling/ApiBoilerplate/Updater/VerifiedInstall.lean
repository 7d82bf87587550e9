import ApiBoilerplate.Updater.Process

/-!
# Only what was verified is installed

From the download by the service to the end of the updater process: once the archive
is handed over undisturbed, the installed binary is the old one, or the one in an
archive whose digest the manifest names.
-/

namespace ApiBoilerplate.Updater

open Foundation Http

section Task
variable {δ Content : Type} [DecidableEq δ] (platform : Platform δ Content)
  (faults : DownloadFaults Content) (digest : Content → String) (spawning : SpawnSurroundings)
  (mode : RestartMode) (tempDir : String)

/-- The path of the archive, as the text that the updater is given. -/
def zipText (tempDir version : String) : String :=
  String.ofList (UnixPath.pushText tempDir.toList (archiveName version).toList)

theorem ofText_zipText (tempDir version : String) :
    UnixPath.ofText (zipText tempDir version).toList =
      (UnixPath.ofText tempDir.toList).join (archiveName version).toList := by
  rw [zipText, String.toList_ofList, UnixPath.ofText_pushText]

/-- The task of `trigger_apply`, with the command that was spawned. -/
def applyTask (downloaded : Downloaded Content) (manifest : VersionManifest) :
    Download δ Content (String × List String) := do
  let _ ← downloadAndVerify platform faults digest (.ofText tempDir.toList) downloaded manifest
  match spawnUpdater spawning mode (zipText tempDir manifest.version) manifest with
  | .ok command => return command
  | .error e => throw e

variable {platform faults digest spawning mode tempDir} {files stored : FileSystem δ Content}
  {downloaded : Downloaded Content} {manifest : VersionManifest}

theorem storeArchive_stores {path : UnixPath} {p : FilePath δ}
    (located : platform.locate path = some p) (unfailing : faults.write = none)
    (content : Content) :
    (storeArchive platform faults path content).outcome files =
      (.ok (), files.write platform.newMode p content) := by
  simp [Fallible.outcome, storeArchive, located, unfailing, ExceptT.run, StateT.run]

/-- A download that succeeds has stored what the digest was computed of. -/
theorem downloadAndVerify_ok {directory path : UnixPath}
    (ended : (downloadAndVerify platform faults digest directory downloaded manifest).outcome
      files = (.ok path, stored)) :
    ∃ bytes p, downloaded = .bytes bytes ∧ digest bytes = manifest.checksumSha256.toLower ∧
      platform.locate (directory.join (archiveName manifest.version).toList) = some p ∧
      stored = files.write platform.newMode p bytes := by
  rw [downloadAndVerify] at ended
  cases downloaded with
  | sendFailed e => cases ended
  | bodyFailed e => cases ended
  | bytes bytes =>
    have fetched : (fetchArchive (.bytes bytes) : Download δ Content Content).outcome files =
        (.ok bytes, files) := rfl
    rw [Fallible.outcome_bind_ok fetched] at ended
    by_cases verified : digest bytes = manifest.checksumSha256.toLower
    · simp only [verified, ne_eq, not_true_eq_false, if_false] at ended
      cases located : platform.locate (directory.join (archiveName manifest.version).toList) with
      | none =>
        have failed : (storeArchive platform faults
            (directory.join (archiveName manifest.version).toList) bytes).outcome files =
            (.error (notStored notFound), files) := by
          simp [Fallible.outcome, storeArchive, located, ExceptT.run, StateT.run]
        rw [Fallible.outcome_bind_error failed] at ended
        cases ended
      | some p =>
        refine ⟨bytes, p, rfl, verified, rfl, ?_⟩
        rcases fault : faults.write with _ | ⟨e, part⟩
        · rw [Fallible.outcome_bind_ok (storeArchive_stores located fault bytes)] at ended
          cases ended
          rfl
        · have failed : ∃ left, (storeArchive platform faults
              (directory.join (archiveName manifest.version).toList) bytes).outcome files =
              (.error (notStored e), left) := by
            cases part <;>
              simp [Fallible.outcome, storeArchive, located, fault, ExceptT.run, StateT.run]
          obtain ⟨left, failed⟩ := failed
          rw [Fallible.outcome_bind_error failed] at ended
          cases ended
    · simp only [ne_eq, verified, not_false_eq_true, if_true] at ended
      cases ended

/-- An archive with the right digest is stored and handed to the updater. -/
theorem applyTask_hands {bytes : Content} {p : FilePath δ} {command : String × List String}
    (verified : digest bytes = manifest.checksumSha256.toLower)
    (located : platform.locate (.ofText (zipText tempDir manifest.version).toList) = some p)
    (unfailing : faults.write = none)
    (spawned : spawnUpdater spawning mode (zipText tempDir manifest.version) manifest =
      .ok command) :
    (applyTask platform faults digest spawning mode tempDir (.bytes bytes) manifest).outcome files =
      (.ok command, files.write platform.newMode p bytes) := by
  rw [ofText_zipText] at located
  have fetched : (fetchArchive (.bytes bytes) : Download δ Content Content).outcome files =
      (.ok bytes, files) := rfl
  have downloaded : (downloadAndVerify platform faults digest (.ofText tempDir.toList)
      (.bytes bytes) manifest).outcome files =
        (.ok ((UnixPath.ofText tempDir.toList).join (archiveName manifest.version).toList),
          files.write platform.newMode p bytes) := by
    rw [downloadAndVerify, Fallible.outcome_bind_ok fetched]
    simp only [verified, ne_eq, not_true_eq_false, if_false]
    rw [Fallible.outcome_bind_ok (storeArchive_stores located unfailing bytes)]
    rfl
  rw [applyTask, Fallible.outcome_bind_ok downloaded, spawned]
  rfl

theorem applyTask_keeps {p : FilePath δ} {before : Option (File Content)}
    (elsewhere : platform.locate ((UnixPath.ofText tempDir.toList).join
      (archiveName manifest.version).toList) ≠ some p) :
    Fallible.Keeps (fun files => files p = before)
      (applyTask platform faults digest spawning mode tempDir downloaded manifest) := by
  have downloads : Fallible.Keeps (fun files => files p = before)
      (downloadAndVerify platform faults digest (.ofText tempDir.toList) downloaded manifest) :=
    downloadAndVerify_keeps before elsewhere
  refine downloads.bind fun _ => ?_
  cases spawnUpdater spawning mode (zipText tempDir manifest.version) manifest with
  | ok command => exact Fallible.Keeps.value command
  | error e => exact fun files kept => kept

theorem applyTask_ok {command : String × List String}
    (applied : (applyTask platform faults digest spawning mode tempDir downloaded manifest).outcome
      files = (.ok command, stored)) :
    spawnUpdater spawning mode (zipText tempDir manifest.version) manifest = .ok command ∧
      ∃ bytes p, downloaded = .bytes bytes ∧ digest bytes = manifest.checksumSha256.toLower ∧
        platform.locate (.ofText (zipText tempDir manifest.version).toList) = some p ∧
        stored = files.write platform.newMode p bytes := by
  rw [applyTask, Fallible.outcome_bind] at applied
  split at applied
  · rename_i path left ended
    cases spawned : spawnUpdater spawning mode (zipText tempDir manifest.version) manifest with
    | error e =>
      rw [spawned] at applied
      cases applied
    | ok command' =>
      rw [spawned] at applied
      cases applied
      rw [ofText_zipText]
      exact ⟨rfl, downloadAndVerify_ok ended⟩
  · cases applied

end Task

/-- The updater reads back what the service has written. -/
theorem parseArgs_updaterArguments (program zipPath targetPath binaryName : String) (pid : UInt32)
    (mode : RestartMode) :
    parseArgs (program :: updaterArguments zipPath targetPath binaryName pid mode) =
      .ok ⟨zipPath, targetPath, binaryName, pid, mode.text⟩ := by
  let pairs : List (Flag × String) := [(.zipPath, zipPath), (.targetPath, targetPath),
    (.binaryName, binaryName), (.pid, u32ToString pid), (.restartMode, mode.text)]
  have number : u32FromStr (u32ToString pid) = some pid := u32FromStr_toString pid
  refine (parseArgs_ok_iff _ _).mpr ⟨pairs, ?_, ?_⟩
  · refine ⟨rfl, ⟨zipPath, by simp [pairs]⟩, ⟨targetPath, by simp [pairs]⟩,
      ⟨binaryName, by simp [pairs]⟩, ?_⟩
    intro value member
    have same : value = u32ToString pid := by simpa [pairs] using member
    rw [same, number]
    rfl
  · refine ⟨rfl, rfl, rfl, ?_, rfl⟩
    change pid = ((some (u32ToString pid)).bind u32FromStr).getD 0
    rw [Option.bind_some, number]
    rfl

/-- The first entry that can be read under a matching name holds these data. -/
def Supplies {Content : Type} (entries : List (Entry Content)) (binaryName : String)
    (data : Content) : Prop :=
  ∃ entry, entries.find? (Entry.matchesName binaryName) = some entry ∧ entry.data = .ok (.ok data)

/-- The target holds these data and is executable. -/
def InPlace {δ Content : Type} (files : FileSystem δ Content) (target : FilePath δ)
    (data : Content) : Prop :=
  ∃ mode, files target = some ⟨data, mode⟩ ∧ mode &&& 0o111 = 0o111

section Process
variable {δ Content : Type} {platform : Platform δ Content}

theorem reader_fresh {entry : Entry Content} {data : Content}
    (read : platform.reader entry false = .ok data) : entry.data = .ok (.ok data) := by
  rw [Platform.reader, if_neg Bool.false_ne_true] at read
  cases held : entry.data with
  | error e =>
    rw [held] at read
    cases read
  | ok reader =>
    rw [held] at read
    exact congrArg Except.ok read

/-- The new binary lies under a name of its own. -/
theorem locate_outPath_extracted {zipPath : UnixPath} {binaryName : String} {zip p : FilePath δ}
    (zipped : platform.locate zipPath = some zip)
    (out : platform.locate (outPath zipPath binaryName) = some p) :
    ∃ directory name, p = extractedPath directory name := by
  rw [Platform.locate, Option.map_eq_some_iff] at zipped
  obtain ⟨⟨directory, zipName⟩, lies, -⟩ := zipped
  rw [locate_outPath lies, Option.map_eq_some_iff] at out
  obtain ⟨d, -, rfl⟩ := out
  refine ⟨d, String.ofList (UnixPath.baseName binaryName.toList), ?_⟩
  rw [extractedPath, String.ofList_append, String.ofList_toList]

variable [DecidableEq δ] {around : Surroundings δ Content} (parsed : Args)
  {files : FileSystem δ Content} {target : FilePath δ} {old : File Content}

/-- The process leaves the new binary, or the old one and an exit code. -/
theorem updateBinary_ends
    (located : around.platform.locate (.ofText parsed.targetPath.toList) = some target)
    (present : files target = some old)
    (unzipped : around.platform.locate (.ofText parsed.zipPath.toList) ≠ some target)
    (unextracted : around.platform.locate
      (outPath (.ofText parsed.zipPath.toList) parsed.binaryName) ≠ some target)
    (fresh : ∀ directory name, around.platform.locate (.ofText parsed.zipPath.toList) ≠
      some (extractedPath directory name))
    (removable : ∀ stale, files (backupPath target) = some stale →
      around.replace.removeStale = none)
    (restores : around.replace.restore = none) :
    (∃ entries data, Opens around.platform around.extract (.ofText parsed.zipPath.toList) entries
        ⟨files, []⟩ ∧ Supplies entries parsed.binaryName data ∧
        InPlace (updateBinary around parsed files).2 target data) ∨
      ((updateBinary around parsed files).1 = .exited 1 ∧
        ((updateBinary around parsed files).2 target).map File.content = some old.content) := by
  rw [updateBinary]
  cases run : (extractBinary around.platform around.extract (.ofText parsed.zipPath.toList)
      parsed.binaryName).outcome ⟨files, []⟩ with
  | mk result extraction =>
    have still : extraction.files target = some old :=
      (extractBinary_keeps run unextracted).trans present
    cases result with
    | error e => exact Or.inr ⟨rfl, congrArg (Option.map File.content) still⟩
    | ok path =>
      obtain ⟨rfl, entries, entry, newBin, file, opens, first, out, read, written⟩ :=
        extractBinary_ok run
      obtain ⟨zip, stored, zipped, -⟩ := opens.archive
      obtain ⟨directory, name, rfl⟩ := locate_outPath_extracted zipped out
      rw [decide_eq_false (fresh directory name)] at read
      have extracted : extraction.files (extractedPath directory name) = some file := by
        rw [written, Function.update_self]
      have unbacked := backupPath_ne_extracted target directory name
      have before : extraction.files (backupPath target) = files (backupPath target) := by
        rw [written, Function.update_of_ne unbacked]
      have replaced : AllOrNothing target (extractedPath directory name) old file
          (replaceOrRecover around.replace (extractedPath directory name) target
            extraction.files) :=
        replaceOrRecover_removable unbacked still extracted (by rwa [before])
      have recovered : ∀ r, (replaceOrRecover around.replace (extractedPath directory name) target
          extraction.files).recovery = some r → r.isOk = true :=
        fun r => recovery_ok around.replace restores
      rw [AllOrNothing] at replaced
      simp only [out, located]
      cases ended : (replaceOrRecover around.replace (extractedPath directory name) target
          extraction.files).result with
      | error e =>
        rw [ended] at replaced
        exact Or.inr ⟨rfl, replaced recovered⟩
      | ok =>
        rw [ended] at replaced
        obtain ⟨⟨mode, installed, executable⟩, -⟩ := replaced
        refine Or.inl ⟨entries, file.content, opens, ⟨entry, first, reader_fresh read⟩, mode, ?_,
          executable⟩
        exact (restart_keeps unzipped).trans installed

end Process

section Update
variable {δ Content : Type} [DecidableEq δ] {around : Surroundings δ Content}
  {faults : DownloadFaults Content} {digest : Content → String} {spawning : SpawnSurroundings}
  {mode : RestartMode} {tempDir exe : String} {tempDirectory : δ}
  {downloaded : Downloaded Content} {manifest : VersionManifest}
  {files stored current : FileSystem δ Content} {command : String × List String}
  {target : FilePath δ} {old : File Content}

/-- The archive of a version in the temp directory. -/
def archiveIn {δ : Type} (tempDirectory : δ) (version : String) : FilePath δ :=
  ⟨tempDirectory, archiveName version⟩

/-- When the updater starts, the archive is as it was stored, and the installed binary,
which is not one of the updater's own files, can be replaced or put back. -/
structure Undisturbed (around : Surroundings δ Content) (archive target : FilePath δ)
    (out : UnixPath) (stored current : FileSystem δ Content) (old : File Content) : Prop where
  kept : current archive = stored archive
  present : current target = some old
  unzipped : archive ≠ target
  unextracted : around.platform.locate out ≠ some target
  removable : ∀ stale, current (backupPath target) = some stale →
    around.replace.removeStale = none
  restores : around.replace.restore = none

/-- The contents are those of an archive that was downloaded with the digest that the
manifest names, under the name that it names. -/
def Verified (platform : Platform δ Content) (digest : Content → String)
    (downloaded : Downloaded Content) (manifest : VersionManifest) (data : Content) : Prop :=
  ∃ bytes entries, downloaded = .bytes bytes ∧
    digest bytes = manifest.checksumSha256.toLower ∧ platform.readZip bytes = .ok entries ∧
    Supplies entries manifest.binaryName data

omit [DecidableEq δ] in
theorem archiveIn_ne_extracted (tempDirectory directory : δ) (version name : String) :
    archiveIn tempDirectory version ≠ extractedPath directory name := by
  intro same
  have named := congrArg (fun p => p.fileName.toList.getLast?) same
  simp only [archiveIn, archiveName, extractedPath, String.toList_append,
    List.getLast?_append] at named
  have zip : ".zip".toList.getLast? = some 'p' := by decide
  have new : ".new".toList.getLast? = some 'w' := by decide
  rw [zip, new, Option.some_or, Option.some_or] at named
  exact absurd named (by decide)

/-- However an update ends that was checked, handed over and left undisturbed, what is
installed was verified, or it is what was there before and the updater says so. -/
theorem update_verified {V : Type} [LinearOrder V] {parse : String → Except String V}
    (texts : ∀ text version, parse text = .ok version → IsVersionText text)
    {service : UpdaterService} {fetched : Fetched}
    (accepted : service.checkForUpdate parse fetched = .ok (some manifest))
    (resolved : around.platform.dirs.resolve (.ofText tempDir.toList) = some tempDirectory)
    (applied : (applyTask around.platform faults digest spawning mode tempDir downloaded
      manifest).outcome files = (.ok command, stored))
    (running : spawning.currentExe = .ok exe)
    (located : around.platform.locate (.ofText exe.toList) = some target)
    (undisturbed : Undisturbed around (archiveIn tempDirectory manifest.version) target
      (outPath (.ofText (zipText tempDir manifest.version).toList) manifest.binaryName)
      stored current old)
    (slept : around.rounds.Slept around.start) :
    ∃ finished, updaterMain around (command.1 :: command.2) current = some finished ∧
      ((∃ data, Verified around.platform digest downloaded manifest data ∧
          InPlace finished.files target data) ∨
        (finished.ended = .exited 1 ∧
          (finished.files target).map File.content = some old.content)) := by
  obtain ⟨_, _, remote, _, parsedVersion, _⟩ := checkForUpdate_some accepted
  obtain ⟨spawned, bytes, archive, fetched, verified, zipped, rfl⟩ := applyTask_ok applied
  have zipped' := zipped
  rw [ofText_zipText, locate_archive (texts _ _ parsedVersion) resolved] at zipped'
  obtain rfl : archiveIn tempDirectory manifest.version = archive := Option.some.inj zipped'
  obtain ⟨exe', current', -, arguments⟩ := spawnUpdater_ok spawned
  obtain rfl : exe = exe' := Except.ok.inj (running.symm.trans current')
  let parsed : Args := ⟨zipText tempDir manifest.version, exe, manifest.binaryName,
    spawning.processId, mode.text⟩
  have read : parseArgs (command.1 :: command.2) = .ok parsed := by
    rw [arguments, parseArgs_updaterArguments]
  have unzipped : around.platform.locate (.ofText parsed.zipPath.toList) ≠ some target :=
    fun same => undisturbed.unzipped (Option.some.inj (zipped.symm.trans same))
  have fresh : ∀ directory name, around.platform.locate (.ofText parsed.zipPath.toList) ≠
      some (extractedPath directory name) := fun directory name same =>
    archiveIn_ne_extracted tempDirectory directory manifest.version name
      (Option.some.inj (zipped.symm.trans same))
  have ends := updateBinary_ends parsed located undisturbed.present unzipped undisturbed.unextracted
    fresh undisturbed.removable undisturbed.restores
  have outcome : (∃ data, Verified around.platform digest downloaded manifest data ∧
        InPlace (updateBinary around parsed current).2 target data) ∨
      ((updateBinary around parsed current).1 = .exited 1 ∧
        ((updateBinary around parsed current).2 target).map File.content = some old.content) := by
    rcases ends with ⟨entries, data, opens, supplied, installed⟩ | failed
    · left
      refine ⟨data, ⟨bytes, entries, fetched, verified, ?_, supplied⟩, installed⟩
      obtain ⟨zip, file, lies, held, listed⟩ := opens.archive
      obtain rfl := Option.some.inj (lies.symm.trans zipped)
      have same := undisturbed.kept.symm.trans held
      rw [FileSystem.write, Function.update_self] at same
      cases same
      exact listed
    · exact Or.inr failed
  obtain ⟨gone, last, waited, -⟩ := waitForPidExit_ends slept
  rw [updaterMain, read]
  dsimp only
  split
  · exact ⟨_, rfl, outcome⟩
  · rw [waited]
    exact ⟨_, rfl, outcome⟩

/-- What the service hands to the updater. -/
def handedArgs (spawning : SpawnSurroundings) (mode : RestartMode) (tempDir exe : String)
    (manifest : VersionManifest) : Args :=
  ⟨zipText tempDir manifest.version, exe, manifest.binaryName, spawning.processId, mode.text⟩

/-- An update changes the archive, the new binary next to it, the installed one and its
backup, and no other file, in the service and in the updater. -/
theorem update_confined {p : FilePath δ} (running : spawning.currentExe = .ok exe)
    (untouched : ¬ Touches around (handedArgs spawning mode tempDir exe manifest) p) :
    ((applyTask around.platform faults digest spawning mode tempDir downloaded manifest).outcome
        files).2 p = files p ∧
      ∀ command, ((applyTask around.platform faults digest spawning mode tempDir downloaded
          manifest).outcome files).1 = .ok command →
        ∀ current finished, updaterMain around (command.1 :: command.2) current = some finished →
          finished.files p = current p := by
  constructor
  · have unzipped : around.platform.locate ((UnixPath.ofText tempDir.toList).join
        (archiveName manifest.version).toList) ≠ some p := by
      intro same
      refine untouched (Or.inl ?_)
      rw [handedArgs, ofText_zipText]
      exact same
    exact (applyTask_keeps unzipped).holds rfl
  · intro command spawned current finished run
    refine updaterMain_keeps run ?_
    cases applied : (applyTask around.platform faults digest spawning mode tempDir downloaded
        manifest).outcome files with
    | mk result stored =>
      rw [applied] at spawned
      cases spawned
      obtain ⟨handed, -⟩ := applyTask_ok applied
      obtain ⟨exe', current', -, arguments⟩ := spawnUpdater_ok handed
      obtain rfl : exe = exe' := Except.ok.inj (running.symm.trans current')
      intro parsed read
      rw [arguments, parseArgs_updaterArguments] at read
      cases read
      exact untouched

end Update

def sampleSpawning : SpawnSurroundings where
  currentExe := .ok "/usr/bin/api"
  updaterBeside := fun _ => some "/usr/bin/updater"
  pathExists := fun _ => true
  processId := 4711
  spawn := fun _ _ => .ok ()

def sampleDigest (content : String) : String :=
  if content = "PK" then "fcab7fcc2b4cffd9bb45003bfc2e468a04ef6f77ca8200a7341f027631584d25" else ""

def sampleManifest : VersionManifest :=
  { manifestFor "api" with
    checksumSha256 := "FCAB7FCC2B4CFFD9BB45003BFC2E468A04EF6F77CA8200A7341F027631584D25" }

def installedFiles : FileSystem (List String) String :=
  Function.update (fun _ => none) ⟨["usr", "bin"], "api"⟩ (some ⟨"1.0.0", 0o755⟩)

def sampleCommand : String × List String :=
  ("/usr/bin/updater",
    updaterArguments "/tmp/api-update-2.0.0.zip" "/usr/bin/api" "api" 4711 .supervisor)

/-- The files when the archive has been stored. -/
def handedOver : FileSystem (List String) String :=
  installedFiles.write 0o644 ⟨["tmp"], "api-update-2.0.0.zip"⟩ "PK"

theorem sample_applied :
    (applyTask sampleAround.platform ⟨none⟩ sampleDigest sampleSpawning .supervisor "/tmp"
      (.bytes "PK") sampleManifest).outcome installedFiles = (.ok sampleCommand, handedOver) :=
  applyTask_hands (by decide +kernel) (by decide +kernel) rfl (by decide +kernel)

theorem sample_undisturbed :
    Undisturbed sampleAround (archiveIn ["tmp"] "2.0.0") ⟨["usr", "bin"], "api"⟩
      (outPath (.ofText (zipText "/tmp" "2.0.0").toList) "api") handedOver handedOver
      ⟨"1.0.0", 0o755⟩ where
  kept := rfl
  present := by decide +kernel
  unzipped := by decide +kernel
  unextracted := by decide +kernel
  removable := fun _ _ => rfl
  restores := rfl

theorem update_verified_sample :
    ∃ finished, updaterMain sampleAround (sampleCommand.1 :: sampleCommand.2) handedOver =
        some finished ∧
      ((∃ data, Verified sampleAround.platform sampleDigest (.bytes "PK") sampleManifest data ∧
          InPlace finished.files ⟨["usr", "bin"], "api"⟩ data) ∨
        (finished.ended = .exited 1 ∧
          (finished.files ⟨["usr", "bin"], "api"⟩).map File.content = some "1.0.0")) := by
  have accepted : sampleService.checkForUpdate sampleVersion (.manifest sampleManifest) =
      .ok (some sampleManifest) := by decide +kernel
  have resolved : sampleAround.platform.dirs.resolve (.ofText "/tmp".toList) = some ["tmp"] := by
    decide +kernel
  exact update_verified sampleVersion_text accepted resolved sample_applied rfl
    (by decide +kernel) sample_undisturbed shutdownRounds_slept

theorem update_confined_sample :
    ((applyTask sampleAround.platform ⟨none⟩ sampleDigest sampleSpawning .supervisor "/tmp"
        (.bytes "PK") sampleManifest).outcome installedFiles).2 ⟨["etc"], "passwd"⟩ =
        installedFiles ⟨["etc"], "passwd"⟩ ∧
      ∀ command, ((applyTask sampleAround.platform ⟨none⟩ sampleDigest sampleSpawning .supervisor
          "/tmp" (.bytes "PK") sampleManifest).outcome installedFiles).1 = .ok command →
        ∀ current finished, updaterMain sampleAround (command.1 :: command.2) current =
            some finished →
          finished.files ⟨["etc"], "passwd"⟩ = current ⟨["etc"], "passwd"⟩ := by
  have running : sampleSpawning.currentExe = .ok "/usr/bin/api" := rfl
  refine update_confined running ?_
  rintro (zipped | extracted | ⟨target, located, replaced⟩)
  · revert zipped
    decide +kernel
  · revert extracted
    decide +kernel
  · have exe : sampleAround.platform.locate (.ofText "/usr/bin/api".toList) =
        some ⟨["usr", "bin"], "api"⟩ := by decide +kernel
    obtain rfl := Option.some.inj (located.symm.trans exe)
    revert replaced
    decide +kernel

end ApiBoilerplate.Updater
