import ApiBoilerplate.Updater.AllOrNothing
import ApiBoilerplate.Updater.CommandLine
import ApiBoilerplate.Updater.Containment

/-!
# The updater process

The updater binary as a whole: it reads its arguments, waits for the service to
exit, takes the new binary out of the archive, puts it in the place of the old
one and restarts the service or leaves that to a supervisor.
-/

namespace ApiBoilerplate.Updater

open Foundation

/-- What the rounds of a wait find: whether the process is there, and then the
clock, in milliseconds. -/
structure Rounds where
  alive : Nat → Bool
  now : Nat → Nat

/-- `wait_for_pid_exit`, from one round on, for a number of rounds: what it came
back with, and in which round. -/
def Rounds.wait (rounds : Rounds) (deadline : Nat) (round : Nat) : Nat → Option (Bool × Nat)
  | 0 => none
  | fuel + 1 =>
    if rounds.alive round then
      if deadline ≤ rounds.now round then some (false, round)
      else rounds.wait deadline (round + 1) fuel
    else some (true, round)

def pollMillis : Nat := 500

def timeoutMillis : Nat := 30 * 1000

/-- The clock starts no earlier than the wait, and a sleep lasts as long as asked for. -/
structure Rounds.Slept (rounds : Rounds) (start : Nat) : Prop where
  first : start ≤ rounds.now 0
  sleep : ∀ round, rounds.now round + pollMillis ≤ rounds.now (round + 1)

theorem Rounds.Slept.now_le {rounds : Rounds} {start : Nat} (slept : rounds.Slept start)
    (round : Nat) : start + pollMillis * round ≤ rounds.now round := by
  induction round with
  | zero => exact slept.first
  | succ round ih =>
    have later := slept.sleep round
    rw [Nat.mul_succ]
    omega

/-- How a wait ends: with the process seen to be gone, or alive past the deadline. -/
structure Rounds.Ends (rounds : Rounds) (deadline : Nat) (gone : Bool) (round : Nat) : Prop where
  seen : gone = true ↔ rounds.alive round = false
  late : gone = false → deadline ≤ rounds.now round
  before : ∀ earlier < round, rounds.alive earlier = true ∧ rounds.now earlier < deadline

theorem Rounds.wait_ends {rounds : Rounds} {deadline round fuel : Nat} {gone : Bool} {last : Nat}
    (before : ∀ earlier < round, rounds.alive earlier = true ∧ rounds.now earlier < deadline)
    (ended : rounds.wait deadline round fuel = some (gone, last)) :
    rounds.Ends deadline gone last ∧ last < round + fuel := by
  induction fuel generalizing round with
  | zero => cases ended
  | succ fuel ih =>
    rw [Rounds.wait] at ended
    split at ended
    · rename_i alive
      split at ended
      · rename_i late
        cases ended
        exact ⟨⟨by simp [alive], fun _ => late, before⟩, by omega⟩
      · rename_i early
        suffices before' : ∀ earlier < round + 1,
            rounds.alive earlier = true ∧ rounds.now earlier < deadline by
          obtain ⟨ends, bound⟩ := ih before' ended
          exact ⟨ends, by omega⟩
        intro earlier bound
        rcases Nat.lt_succ_iff_lt_or_eq.mp bound with less | rfl
        · exact before earlier less
        · exact ⟨alive, by omega⟩
    · rename_i gone
      cases ended
      exact ⟨⟨by simpa using gone, nofun, before⟩, by omega⟩

theorem Rounds.exists_wait {rounds : Rounds} {deadline start : Nat} (slept : rounds.Slept start)
    {round fuel : Nat} (enough : deadline ≤ start + pollMillis * (round + fuel)) :
    ∃ gone last, rounds.wait deadline round (fuel + 1) = some (gone, last) := by
  induction fuel generalizing round with
  | zero =>
    have reached := slept.now_le round
    rw [Rounds.wait]
    split
    · rw [Nat.add_zero] at enough
      rw [if_pos (enough.trans reached)]
      exact ⟨false, round, rfl⟩
    · exact ⟨true, round, rfl⟩
  | succ fuel ih =>
    rw [Rounds.wait]
    split
    · split
      · exact ⟨false, round, rfl⟩
      · exact ih (by rw [Nat.add_right_comm, Nat.add_assoc]; exact enough)
    · exact ⟨true, round, rfl⟩

/-- At most this many polls come before the deadline, and one at it. -/
def maxRounds : Nat := timeoutMillis / pollMillis + 1

/-- `wait_for_pid_exit(pid, 30)`, started at a time. -/
def waitForPidExit (rounds : Rounds) (start : Nat) : Option (Bool × Nat) :=
  rounds.wait (start + timeoutMillis) 0 maxRounds

/-- The wait is over after at most 61 polls. -/
theorem waitForPidExit_ends {rounds : Rounds} {start : Nat} (slept : rounds.Slept start) :
    ∃ gone last, waitForPidExit rounds start = some (gone, last) ∧
      rounds.Ends (start + timeoutMillis) gone last ∧ last < maxRounds := by
  have enough : start + timeoutMillis ≤
      start + pollMillis * (0 + timeoutMillis / pollMillis) :=
    Nat.add_le_add_left (by decide) start
  obtain ⟨gone, last, ended⟩ := Rounds.exists_wait slept enough
  have first : ∀ earlier < 0,
      rounds.alive earlier = true ∧ rounds.now earlier < start + timeoutMillis := nofun
  obtain ⟨ends, bound⟩ := Rounds.wait_ends first ended
  exact ⟨gone, last, ended, ends, by rwa [Nat.zero_add] at bound⟩

/-- How the process ends: with an exit code, or as another program. -/
inductive ProcessEnd where
  | exited (code : Nat)
  | became (program : String)
  deriving DecidableEq, Repr

/-- What an updater finds around it, and which of its calls fail. -/
structure Surroundings (δ Content : Type) where
  platform : Platform δ Content
  rounds : Rounds
  /-- The clock when the wait starts. -/
  start : Nat
  extract : ExtractFaults Content
  replace : Faults Content
  exec : Option IoError
  removeZip : Option IoError

structure Finished (δ Content : Type) where
  ended : ProcessEnd
  /-- What the wait came to, if there was one. -/
  waited : Option (Bool × Nat)
  files : FileSystem δ Content

section Process
variable {δ Content : Type} [DecidableEq δ] (around : Surroundings δ Content)

/-- `fs::remove_file`, its error ignored. -/
def removeQuietly (path : UnixPath) (files : FileSystem δ Content) : FileSystem δ Content :=
  match around.platform.locate path with
  | none => files
  | some p => ((removeFile around.removeZip p).attempt.outcome files).2

/-- `main`, from the replaced binary on. -/
def restart (parsed : Args) (files : FileSystem δ Content) : ProcessEnd × FileSystem δ Content :=
  if parsed.restartMode = "spawn" then
    match around.exec with
    | none => (.became parsed.targetPath, files)
    | some _ => (.exited 1, files)
  else (.exited 0, removeQuietly around (.ofText parsed.zipPath.toList) files)

/-- `main`, from the end of the wait on. A target that is nowhere can be neither
renamed to nor copied to. -/
def updateBinary (parsed : Args) (files : FileSystem δ Content) :
    ProcessEnd × FileSystem δ Content :=
  match (extractBinary around.platform around.extract (.ofText parsed.zipPath.toList)
      parsed.binaryName).outcome ⟨files, []⟩ with
  | (.error _, extraction) => (.exited 1, extraction.files)
  | (.ok tmpExtracted, extraction) =>
    match around.platform.locate tmpExtracted,
      around.platform.locate (.ofText parsed.targetPath.toList) with
    | some newBin, some target =>
      let replaced := replaceOrRecover around.replace newBin target extraction.files
      match replaced.result with
      | .error _ => (.exited 1, replaced.files)
      | .ok () => restart around parsed replaced.files
    | _, _ => (.exited 1, extraction.files)

/-- `main` of the updater. -/
def updaterMain (args : List String) (files : FileSystem δ Content) :
    Option (Finished δ Content) :=
  match parseArgs args with
  | .error _ => some ⟨.exited 2, none, files⟩
  | .ok parsed =>
    if parsed.pid = 0 then
      let (ended, files) := updateBinary around parsed files
      some ⟨ended, none, files⟩
    else
      (waitForPidExit around.rounds around.start).map fun waited =>
        let (ended, files) := updateBinary around parsed files
        ⟨ended, some waited, files⟩

end Process

section Frame
variable {δ Content : Type} {p q source dest : FilePath δ} {before : Option (File Content)}

/-- However the program ends, the file is as it was. -/
abbrev Leaves {α : Type} (p : FilePath δ) (before : Option (File Content)) (m : Io δ Content α) :
    Prop :=
  Fallible.Keeps (fun fs => fs p = before) m

theorem pathExists_leaves : Leaves p before (pathExists q) := fun _ kept => kept

theorem metadata_leaves (fault : Option IoError) : Leaves p before (metadata fault q) :=
  metadata_rule fault (fun _ => id) fun _ _ kept _ => kept

theorem ifExists_leaves {m : Io δ Content Unit} (leaves : Leaves p before m) :
    Leaves p before (do if ← pathExists q then m) := by
  refine pathExists_leaves.bind ?_
  rintro (_ | _)
  · exact Fallible.Keeps.value ()
  · exact leaves

variable [DecidableEq δ]

theorem removeFile_leaves (fault : Option IoError) (other : p ≠ q) :
    Leaves p before (removeFile fault q) :=
  removeFile_rule fault (fun _ => id) fun fs kept => by rwa [Function.update_of_ne other]

theorem rename_leaves (fault : Option IoError) (apart : p ≠ source) (other : p ≠ dest) :
    Leaves p before (rename fault source dest) :=
  rename_rule fault (fun _ => id) fun fs file kept _ => by
    rwa [Function.update_of_ne other, Function.update_of_ne apart]

theorem copy_leaves (fault : Option (IoError × Option (File Content))) (other : p ≠ dest) :
    Leaves p before (copy fault source dest) :=
  copy_rule fault (fun _ => id) (fun fs _ kept => by rwa [Function.update_of_ne other])
    fun fs file kept _ => by rwa [Function.update_of_ne other]

theorem setPermissions_leaves (fault : Option IoError) (mode : BitVec 32) (other : p ≠ q) :
    Leaves p before (setPermissions fault q mode) :=
  setPermissions_rule fault (fun _ => id) fun fs file kept _ => by
    rwa [Function.update_of_ne other]

variable (faults : Faults Content) {newBin target : FilePath δ}

theorem moveIntoPlace_leaves (apart : p ≠ newBin) (other : p ≠ target) :
    Leaves p before (moveIntoPlace faults newBin target) := by
  refine (rename_leaves _ apart other).attempt.bind ?_
  rintro (e | ⟨⟩)
  · exact (copy_leaves _ other).bind fun _ => removeFile_leaves _ apart
  · exact Fallible.Keeps.value ()

theorem replaceBinary_leaves (apart : p ≠ newBin) (other : p ≠ target)
    (unbacked : p ≠ backupPath target) : Leaves p before (replaceBinary faults newBin target) := by
  refine (ifExists_leaves (removeFile_leaves _ unbacked)).bind fun _ => ?_
  refine (ifExists_leaves (rename_leaves _ other unbacked)).bind fun _ => ?_
  refine (moveIntoPlace_leaves faults apart other).bind fun _ => ?_
  refine ((metadata_leaves _).bind fun _ => setPermissions_leaves _ _ other).bind fun _ => ?_
  exact ifExists_leaves ((removeFile_leaves _ unbacked).attempt.bind fun _ =>
    Fallible.Keeps.value ())

theorem restoreBackup_leaves (other : p ≠ target) (unbacked : p ≠ backupPath target) :
    Leaves p before (restoreBackup faults target) := by
  refine pathExists_leaves.bind ?_
  rintro (_ | _)
  · exact Fallible.Keeps.value none
  · exact (rename_leaves _ unbacked other).attempt.bind fun _ => Fallible.Keeps.value _

theorem replaceOrRecover_keeps (apart : p ≠ newBin) (other : p ≠ target)
    (unbacked : p ≠ backupPath target) (files : FileSystem δ Content) :
    (replaceOrRecover faults newBin target files).files p = files p := by
  have replaced : ((replaceBinary faults newBin target).outcome files).2 p = files p :=
    (replaceBinary_leaves faults apart other unbacked).holds rfl
  rw [replaceOrRecover]
  cases ended : (replaceBinary faults newBin target).outcome files with
  | mk result left =>
    rw [ended] at replaced
    cases result with
    | ok => exact replaced
    | error e =>
      have restored : ((restoreBackup faults target).outcome left).2 p = files p :=
        (restoreBackup_leaves faults other unbacked).holds replaced
      dsimp only
      cases again : (restoreBackup faults target).outcome left with
      | mk result' left' =>
        rw [again] at restored
        cases result' <;> exact restored

/-- A recovery whose rename does not fail succeeds. -/
theorem recovery_ok (restores : faults.restore = none) {files : FileSystem δ Content}
    {r : Except IoError Unit}
    (recovered : (replaceOrRecover faults newBin target files).recovery = some r) :
    r.isOk = true := by
  rw [replaceOrRecover] at recovered
  split at recovered
  · cases recovered
  · rename_i e left failed
    rw [restoreBackup, outcome_pathExists] at recovered
    cases found : left (backupPath target) with
    | none =>
      rw [found] at recovered
      cases recovered
    | some backup =>
      rw [found, restores] at recovered
      have renamed : (rename none (backupPath target) target).outcome left =
          (.ok (), Function.update (Function.update left (backupPath target) none) target
            (some backup)) := by
        simp [Fallible.outcome, ExceptT.run, StateT.run, rename, found]
      have tried : ((rename none (backupPath target) target : Io δ Content Unit).attempt).outcome
          left = (.ok (.ok ()), Function.update (Function.update left (backupPath target) none)
            target (some backup)) := by
        rw [Fallible.outcome_attempt, renamed]
      simp only [Option.isSome_some, if_true] at recovered
      rw [Fallible.outcome_bind_ok tried] at recovered
      cases recovered
      rfl

end Frame

section Extraction
variable {δ Content : Type} [DecidableEq δ] {platform : Platform δ Content}
variable {faults : ExtractFaults Content} {zipPath : UnixPath} {binaryName : String}
variable {s : Extraction δ Content} {p : FilePath δ}

variable (platform faults zipPath binaryName s) in
/-- An archive that cannot be opened or read leaves the files as they are. -/
theorem extractBinary_cases :
    (∃ entries, Opens platform faults zipPath entries s) ∨
      ∃ e, (extractBinary platform faults zipPath binaryName).outcome s = (.error e, s) := by
  cases fault : faults.openZip with
  | some e =>
    right
    refine ⟨.io e, Fallible.outcome_bind_error ?_⟩
    simp [Fallible.outcome, openFile, fault, ExceptT.run, StateT.run]
  | none =>
    cases held : (platform.locate zipPath).bind s.files with
    | none =>
      right
      refine ⟨.io notFound, Fallible.outcome_bind_error ?_⟩
      simp [Fallible.outcome, openFile, fault, held, ExceptT.run, StateT.run]
    | some file =>
      have opened : (openFile platform faults zipPath).outcome s = (.ok file.content, s) := by
        simp [Fallible.outcome, openFile, fault, held, ExceptT.run, StateT.run]
      cases read : platform.readZip file.content with
      | error e =>
        right
        refine ⟨.new .invalidData e, ?_⟩
        rw [extractBinary, Fallible.outcome_bind_ok opened]
        refine Fallible.outcome_bind_error ?_
        simp [Fallible.outcome, readArchive, read, ExceptT.run, StateT.run]
      | ok entries =>
        left
        obtain ⟨q, located, found⟩ := Option.bind_eq_some_iff.mp held
        exact ⟨entries, fault, q, file, located, found, read⟩

/-- How an extraction ends: where it has started on an entry, or before. -/
theorem extractBinary_end {ended : Except ExtractError UnixPath × Extraction δ Content}
    (run : (extractBinary platform faults zipPath binaryName).outcome s = ended) :
    (∃ e, ended = (.error e, s)) ∨
      ∃ entries idx entry, Opens platform faults zipPath entries s ∧
        entries.find? (Entry.matchesName binaryName) = some entry ∧
        EntryEnd platform faults zipPath binaryName s idx entry ended := by
  obtain ⟨entries, opens⟩ | ⟨e, failed⟩ :=
    extractBinary_cases platform faults zipPath binaryName s
  · rw [extractBinary_outcome opens] at run
    cases found : findEntry entries binaryName with
    | none =>
      rw [found] at run
      exact Or.inl ⟨missing binaryName, run.symm⟩
    | some idx =>
      rw [found] at run
      obtain ⟨entry, listed, first⟩ := findEntry_find found
      exact Or.inr ⟨entries, idx, entry, opens, first, run ▸ extractEntry_end listed⟩
  · exact Or.inl ⟨e, run.symm.trans failed⟩

/-- An extraction that succeeds has written the data of the first entry that matches. -/
theorem extractBinary_ok {path : UnixPath} {t : Extraction δ Content}
    (run : (extractBinary platform faults zipPath binaryName).outcome s = (.ok path, t)) :
    path = outPath zipPath binaryName ∧ ∃ entries entry newBin file,
      Opens platform faults zipPath entries s ∧
      entries.find? (Entry.matchesName binaryName) = some entry ∧
      platform.locate path = some newBin ∧
      platform.reader entry (platform.locate zipPath = some newBin) = .ok file.content ∧
      t.files = Function.update s.files newBin (some file) := by
  obtain ⟨e, failed⟩ | ⟨entries, idx, entry, opens, first, extracted⟩ := extractBinary_end run
  · cases failed
  · cases extracted with
    | written reader newBin file data located read =>
      exact ⟨rfl, entries, entry, newBin, file, opens, first, located, read, rfl⟩

theorem extractBinary_keeps {ended : Except ExtractError UnixPath × Extraction δ Content}
    (run : (extractBinary platform faults zipPath binaryName).outcome s = ended)
    (apart : platform.locate (outPath zipPath binaryName) ≠ some p) :
    ended.2.files p = s.files p := by
  obtain ⟨e, rfl⟩ | ⟨entries, idx, entry, opens, first, extracted⟩ := extractBinary_end run
  · rfl
  · by_contra changed
    exact apart (extracted.changed changed).2

end Extraction

section Touches
variable {δ Content : Type} [DecidableEq δ] {around : Surroundings δ Content} {parsed : Args}
  {files : FileSystem δ Content} {p : FilePath δ}

/-- The files that an update may change: the archive, the new binary next to it, the
installed one and its backup. -/
def Touches (around : Surroundings δ Content) (parsed : Args) (p : FilePath δ) : Prop :=
  around.platform.locate (.ofText parsed.zipPath.toList) = some p ∨
    around.platform.locate (outPath (.ofText parsed.zipPath.toList) parsed.binaryName) = some p ∨
    ∃ target, around.platform.locate (.ofText parsed.targetPath.toList) = some target ∧
      (p = target ∨ p = backupPath target)

theorem removeQuietly_keeps {path : UnixPath} (apart : around.platform.locate path ≠ some p) :
    removeQuietly around path files p = files p := by
  rw [removeQuietly]
  cases located : around.platform.locate path with
  | none => rfl
  | some q =>
    have other : p ≠ q := fun same => apart (same ▸ located)
    have leaves : Leaves p (files p) (removeFile around.removeZip q) :=
      removeFile_leaves around.removeZip other
    exact leaves.attempt.holds rfl

theorem restart_keeps (apart : around.platform.locate (.ofText parsed.zipPath.toList) ≠ some p) :
    (restart around parsed files).2 p = files p := by
  rw [restart]
  split
  · split <;> rfl
  · exact removeQuietly_keeps apart

theorem updateBinary_keeps (untouched : ¬ Touches around parsed p) :
    (updateBinary around parsed files).2 p = files p := by
  obtain ⟨unzipped, unextracted, untargeted⟩ : _ ∧ _ ∧ _ := by
    simpa only [Touches, not_or] using untouched
  rw [updateBinary]
  cases run : (extractBinary around.platform around.extract (.ofText parsed.zipPath.toList)
      parsed.binaryName).outcome ⟨files, []⟩ with
  | mk result extraction =>
    have kept : extraction.files p = files p := extractBinary_keeps run unextracted
    cases result with
    | error e => exact kept
    | ok tmpExtracted =>
      dsimp only
      split
      · rename_i newBin target extracted located
        obtain ⟨rfl, -⟩ := extractBinary_ok run
        have apart : p ≠ newBin := fun same => unextracted (same ▸ extracted)
        have other : p ≠ target := fun same =>
          untargeted ⟨target, located, Or.inl same⟩
        have unbacked : p ≠ backupPath target := fun same =>
          untargeted ⟨target, located, Or.inr same⟩
        have replaced := replaceOrRecover_keeps around.replace apart other unbacked extraction.files
        split
        · exact replaced.trans kept
        · exact (restart_keeps unzipped).trans (replaced.trans kept)
      · exact kept

/-- Whatever it is given, the process ends, and it has changed nothing before the service
was gone or its 30 seconds were over. -/
theorem updaterMain_waits (slept : around.rounds.Slept around.start) (args : List String)
    (files : FileSystem δ Content) :
    ∃ finished, updaterMain around args files = some finished ∧
      ∀ parsed, parseArgs args = .ok parsed → parsed.pid ≠ 0 →
        ∃ gone last, finished.waited = some (gone, last) ∧ last ≤ 60 ∧
          around.rounds.Ends (around.start + timeoutMillis) gone last := by
  obtain ⟨gone, last, waited, ends, bound⟩ := waitForPidExit_ends slept
  rw [updaterMain]
  cases read : parseArgs args with
  | error e => exact ⟨_, rfl, nofun⟩
  | ok parsed =>
    dsimp only
    split
    · rename_i skipped
      refine ⟨_, rfl, ?_⟩
      rintro _ ⟨⟩ named
      exact absurd skipped named
    · rw [waited]
      refine ⟨_, rfl, ?_⟩
      rintro _ ⟨⟩ -
      exact ⟨gone, last, rfl, Nat.le_of_lt_succ bound, ends⟩

/-- The process changes no other file. -/
theorem updaterMain_keeps {args : List String} {finished : Finished δ Content}
    (run : updaterMain around args files = some finished)
    (untouched : ∀ parsed, parseArgs args = .ok parsed → ¬ Touches around parsed p) :
    finished.files p = files p := by
  rw [updaterMain] at run
  cases read : parseArgs args with
  | error e =>
    rw [read] at run
    cases run
    rfl
  | ok parsed =>
    rw [read] at run
    have kept : (updateBinary around parsed files).2 p = files p :=
      updateBinary_keeps (untouched parsed read)
    dsimp only at run
    split at run
    · cases run
      exact kept
    · obtain ⟨waited, -, rfl⟩ := Option.map_eq_some_iff.mp run
      exact kept

end Touches

/-- The service is at work for three polls more. -/
def shutdownRounds : Rounds := ⟨fun round => round < 3, fun round => pollMillis * round⟩

theorem shutdownRounds_slept : shutdownRounds.Slept 0 where
  first := Nat.zero_le _
  sleep := fun round => (Nat.mul_succ pollMillis round).ge

/-- The temp directory is on another mount point. -/
def sampleAround : Surroundings (List String) String where
  platform := treePlatform [textEntry "bin/api" "2.0.0"]
  rounds := shutdownRounds
  start := 0
  extract := noFaults
  replace := { diskFull with copyNew := none }
  exec := none
  removeZip := none

def sampleArguments : List String :=
  "/usr/bin/updater" ::
    updaterArguments "/tmp/api-update-2.0.0.zip" "/usr/bin/api" "api" 4711 .supervisor

theorem updaterMain_waits_sample :
    ∃ finished, updaterMain sampleAround sampleArguments (fun _ => none) = some finished ∧
      ∀ parsed, parseArgs sampleArguments = .ok parsed → parsed.pid ≠ 0 →
        ∃ gone last, finished.waited = some (gone, last) ∧ last ≤ 60 ∧
          sampleAround.rounds.Ends (sampleAround.start + timeoutMillis) gone last :=
  updaterMain_waits shutdownRounds_slept sampleArguments (fun _ => none)

end ApiBoilerplate.Updater
