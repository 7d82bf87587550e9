import ApiBoilerplate.Updater.Replace
import Mathlib.Data.List.TakeWhile

/-!
# The replacement is all or nothing, but for a stale backup

Once the old binary is in the backup, whatever fails next is undone by the
recovery. Before that, a stale backup that could not be removed is still there,
and the recovery puts it in the place of the intact binary.
-/

namespace ApiBoilerplate.Updater

open Foundation

theorem splitLastDot_eq {text before after : List Char}
    (split : splitLastDot text = some (before, after)) : text = before ++ '.' :: after := by
  rw [splitLastDot] at split
  have whole : text.reverse.takeWhile (· ≠ '.') ++ text.reverse.dropWhile (· ≠ '.') =
      text.reverse := List.takeWhile_append_dropWhile
  have first := List.head?_dropWhile_not (fun c : Char => decide (c ≠ '.')) text.reverse
  split at split
  · cases split
  · rename_i dot before' rest
    obtain ⟨rfl, rfl⟩ := Prod.mk.inj (Option.some.inj split)
    rw [rest] at whole first
    have isDot : dot = '.' := by simpa using first
    have back := congrArg List.reverse whole
    rw [isDot] at back
    simpa using back.symm

theorem rsplitFileAtDot_whole (file : List Char) :
    (rsplitFileAtDot file = (file, none)) ∨
      ∃ before after, rsplitFileAtDot file = (before, some after) ∧
        file = before ++ '.' :: after := by
  rw [rsplitFileAtDot]
  split
  · exact Or.inl rfl
  · split
    · exact Or.inl rfl
    · exact Or.inl rfl
    · rename_i before after _ split
      exact Or.inr ⟨before, after, rfl, splitLastDot_eq split⟩

section Names
variable {δ : Type}

/-- Whatever extension a binary has, its backup is named after the whole name. -/
theorem backupPath_fileName (target : FilePath δ) :
    (backupPath target).fileName = target.fileName ++ ".bak" := by
  have named : (backupPath target).fileName.toList = target.fileName.toList ++ ".bak".toList := by
    rcases rsplitFileAtDot_whole target.fileName.toList with whole | ⟨before, after, split, whole⟩
    · simp [backupPath, FilePath.setExtension, FilePath.extension, FilePath.fileStem, whole]
    · have parts : target.fileStem = before ∧ target.extension = some after := by
        simp [FilePath.fileStem, FilePath.extension, split]
      simp [backupPath, FilePath.setExtension, parts, whole]
  rw [← String.toList_inj, named, String.toList_append]

theorem backupPath_ne_target (target : FilePath δ) : backupPath target ≠ target := by
  intro same
  have named := congrArg (fun p => p.fileName.length) same
  simp only [backupPath_fileName, String.length_append] at named
  have : ".bak".length = 4 := by decide
  omega

theorem backupPath_ne_extracted (target : FilePath δ) (directory : δ) (binaryName : String) :
    backupPath target ≠ extractedPath directory binaryName := by
  intro same
  have named := congrArg (fun p => p.fileName.toList.getLast?) same
  simp [backupPath_fileName, extractedPath, String.toList_append, List.getLast?_append] at named

end Names

section Rules
variable {δ Content : Type} {p source dest : FilePath δ}
  {pre fails : FileSystem δ Content → Prop} {post : Unit → FileSystem δ Content → Prop}

theorem outcome_pathExists {β : Type} (k : Bool → Io δ Content β) (fs : FileSystem δ Content) :
    (pathExists p >>= k).outcome fs = (k (fs p).isSome).outcome fs :=
  Fallible.outcome_bind_ok rfl

theorem ifExists_rule {m : Io δ Content Unit}
    (present : Fallible.Triple (fun fs => pre fs ∧ (fs p).isSome) m post fails)
    (absent : ∀ fs, pre fs → fs p = none → post () fs) :
    Fallible.Triple pre (do if ← pathExists p then m) post fails := by
  refine Fallible.Triple.bind (fun found fs => pre fs ∧ found = (fs p).isSome) ?_ ?_
  · intro fs start
    exact ⟨start, rfl⟩
  · rintro (_ | _)
    · rintro fs ⟨start, missing⟩
      exact absent fs start (by simpa using missing.symm)
    · refine present.consequence ?_ (fun _ _ => id) (fun _ => id)
      rintro fs ⟨start, found⟩
      exact ⟨start, found.symm⟩

theorem metadata_rule {post : BitVec 32 → FileSystem δ Content → Prop} (fault : Option IoError)
    (failed : ∀ fs, pre fs → fails fs)
    (read : ∀ fs file, pre fs → fs p = some file → post file.mode fs) :
    Fallible.Triple pre (metadata fault p) post fails := by
  intro fs start
  cases fault with
  | some e => exact failed fs start
  | none =>
    cases found : fs p with
    | none =>
      simpa [Fallible.outcome, ExceptT.run, StateT.run, metadata, found] using failed fs start
    | some file =>
      simpa [Fallible.outcome, ExceptT.run, StateT.run, metadata, found] using
        read fs file start found

variable [DecidableEq δ]

theorem removeFile_rule (fault : Option IoError) (failed : ∀ fs, pre fs → fails fs)
    (removed : ∀ fs, pre fs → post () (Function.update fs p none)) :
    Fallible.Triple pre (removeFile fault p) post fails := by
  intro fs start
  cases fault with
  | some e => exact failed fs start
  | none =>
    cases found : fs p with
    | none =>
      simpa [Fallible.outcome, ExceptT.run, StateT.run, removeFile, found] using failed fs start
    | some file =>
      simpa [Fallible.outcome, ExceptT.run, StateT.run, removeFile, found] using removed fs start

theorem rename_rule (fault : Option IoError) (failed : ∀ fs, pre fs → fails fs)
    (moved : ∀ fs file, pre fs → fs source = some file →
      post () (Function.update (Function.update fs source none) dest (some file))) :
    Fallible.Triple pre (rename fault source dest) post fails := by
  intro fs start
  cases fault with
  | some e => exact failed fs start
  | none =>
    cases found : fs source with
    | none =>
      simpa [Fallible.outcome, ExceptT.run, StateT.run, rename, found] using failed fs start
    | some file =>
      simpa [Fallible.outcome, ExceptT.run, StateT.run, rename, found] using
        moved fs file start found

theorem copy_rule (fault : Option (IoError × Option (File Content)))
    (failed : ∀ fs, pre fs → fails fs)
    (left : ∀ fs remains, pre fs → fails (Function.update fs dest remains))
    (copied : ∀ fs file, pre fs → fs source = some file →
      post () (Function.update fs dest (some file))) :
    Fallible.Triple pre (copy fault source dest) post fails := by
  intro fs start
  cases found : fs source with
  | none =>
    simpa [Fallible.outcome, ExceptT.run, StateT.run, copy, found] using failed fs start
  | some file =>
    cases fault with
    | some stopped =>
      obtain ⟨e, remains⟩ := stopped
      simpa [Fallible.outcome, ExceptT.run, StateT.run, copy, found] using left fs remains start
    | none =>
      simpa [Fallible.outcome, ExceptT.run, StateT.run, copy, found] using
        copied fs file start found

theorem setPermissions_rule (fault : Option IoError) {mode : BitVec 32}
    (failed : ∀ fs, pre fs → fails fs)
    (changed : ∀ fs file, pre fs → fs p = some file →
      post () (Function.update fs p (some { file with mode := mode }))) :
    Fallible.Triple pre (setPermissions fault p mode) post fails := by
  intro fs start
  cases fault with
  | some e => exact failed fs start
  | none =>
    cases found : fs p with
    | none =>
      simpa [Fallible.outcome, ExceptT.run, StateT.run, setPermissions, found] using
        failed fs start
    | some file =>
      simpa [Fallible.outcome, ExceptT.run, StateT.run, setPermissions, found] using
        changed fs file start found

end Rules

/-- The installed binary is in place and there is no backup. -/
structure Intact {δ Content : Type} (installed newBin : FilePath δ) (old new : File Content)
    (fs : FileSystem δ Content) : Prop where
  target : fs installed = some old
  backup : fs (backupPath installed) = none
  extracted : newBin ≠ installed → fs newBin = some new

/-- The installed binary is in the backup. -/
structure BackedUp {δ Content : Type} (installed newBin : FilePath δ) (old new : File Content)
    (fs : FileSystem δ Content) : Prop where
  target : fs installed = none
  backup : fs (backupPath installed) = some old
  extracted : newBin ≠ installed → fs newBin = some new

/-- The new binary is in place and the old one still in the backup. -/
structure Moved {δ Content : Type} (installed newBin : FilePath δ) (old new : File Content)
    (fs : FileSystem δ Content) : Prop where
  target : ∃ mode, fs installed = some ⟨new.content, mode⟩
  backup : fs (backupPath installed) = some old
  extracted : fs newBin = none

/-- Where a rename of the new binary leaves the files, moved or not. -/
def AfterRename {δ Content : Type} (installed newBin : FilePath δ) (old new : File Content) :
    Except IoError Unit → FileSystem δ Content → Prop
  | .ok _ => Moved installed newBin old new
  | .error _ => BackedUp installed newBin old new

/-- The new binary is in place and executable, and the extracted file is gone. -/
structure Installed {δ Content : Type} (installed newBin : FilePath δ) (new : File Content)
    (fs : FileSystem δ Content) : Prop where
  target : ∃ mode, fs installed = some ⟨new.content, mode⟩ ∧ mode &&& 0o111 = 0o111
  extracted : fs newBin = none

/-- The old binary is in the backup, or in place without a backup. -/
def Recoverable {δ Content : Type} (installed : FilePath δ) (old : File Content)
    (fs : FileSystem δ Content) : Prop :=
  fs (backupPath installed) = some old ∨
    (fs installed = some old ∧ fs (backupPath installed) = none)

section Parts
variable {δ Content : Type} [DecidableEq δ] (faults : Faults Content)
  {target newBin : FilePath δ} {old new : File Content}

theorem removeStaleBackup_triple (other : backupPath target ≠ newBin) :
    Fallible.Triple (fun fs => fs target = some old ∧ fs newBin = some new)
      (removeStaleBackup faults (backupPath target))
      (fun _ => Intact target newBin old new) (fun fs => fs target = some old) := by
  refine ifExists_rule (removeFile_rule _ ?_ ?_) ?_
  · rintro fs ⟨⟨installed, _⟩, _⟩
    exact installed
  · rintro fs ⟨⟨installed, extracted⟩, _⟩
    constructor
    · rw [Function.update_of_ne (backupPath_ne_target target).symm, installed]
    · rw [Function.update_self]
    · intro _
      rw [Function.update_of_ne other.symm, extracted]
  · rintro fs ⟨installed, extracted⟩ none
    exact ⟨installed, none, fun _ => extracted⟩

theorem backUpExisting_triple (other : backupPath target ≠ newBin) :
    Fallible.Triple (Intact target newBin old new)
      (backUpExisting faults target (backupPath target))
      (fun _ => BackedUp target newBin old new) (Recoverable target old) := by
  refine ifExists_rule (rename_rule _ ?_ ?_) ?_
  · rintro fs ⟨intact, _⟩
    exact Or.inr ⟨intact.target, intact.backup⟩
  · rintro fs file ⟨intact, _⟩ found
    constructor
    · rw [Function.update_of_ne (backupPath_ne_target target).symm, Function.update_self]
    · rw [Function.update_self, ← found, intact.target]
    · intro apart
      rw [Function.update_of_ne other.symm, Function.update_of_ne apart, intact.extracted apart]
  · intro fs intact missing
    rw [intact.target] at missing
    cases missing

theorem moveIntoPlace_triple (other : backupPath target ≠ newBin) :
    Fallible.Triple (BackedUp target newBin old new) (moveIntoPlace faults newBin target)
      (fun _ => Moved target newBin old new) (Recoverable target old) := by
  have apart : ∀ {fs file}, BackedUp target newBin old new fs → fs newBin = some file →
      newBin ≠ target ∧ file = new := by
    intro fs file backedUp found
    have different : newBin ≠ target := by
      intro same
      rw [same, backedUp.target] at found
      cases found
    rw [backedUp.extracted different] at found
    exact ⟨different, (Option.some.inj found).symm⟩
  have renamed : Fallible.Triple (BackedUp target newBin old new)
      (rename faults.moveNew newBin target) (fun _ => Moved target newBin old new)
      (BackedUp target newBin old new) := by
    refine rename_rule _ (fun _ => id) ?_
    intro fs file backedUp found
    obtain ⟨different, rfl⟩ := apart backedUp found
    constructor
    · exact ⟨file.mode, Function.update_self _ _ _⟩
    · rw [Function.update_of_ne (backupPath_ne_target target), Function.update_of_ne other,
        backedUp.backup]
    · rw [Function.update_of_ne different, Function.update_self]
  refine Fallible.Triple.bind (AfterRename target newBin old new) ?_ ?_
  · exact renamed.attempt (fun _ _ => id) (fun _ _ => id)
  · rintro (e | ⟨⟩)
    · refine Fallible.Triple.bind (fun _ fs => newBin ≠ target ∧
        (∃ mode, fs target = some ⟨new.content, mode⟩) ∧ fs (backupPath target) = some old)
        (copy_rule _ ?_ ?_ ?_) ?_
      · exact fun fs backedUp => Or.inl backedUp.backup
      · intro fs remains backedUp
        exact Or.inl (by rw [Function.update_of_ne (backupPath_ne_target target), backedUp.backup])
      · intro fs file backedUp found
        obtain ⟨different, rfl⟩ := apart backedUp found
        refine ⟨different, ⟨file.mode, Function.update_self _ _ _⟩, ?_⟩
        rw [Function.update_of_ne (backupPath_ne_target target), backedUp.backup]
      · intro _
        refine removeFile_rule _ ?_ ?_
        · exact fun fs copied => Or.inl copied.2.2
        · rintro fs ⟨different, ⟨mode, installed⟩, backup⟩
          constructor
          · exact ⟨mode, by rw [Function.update_of_ne different.symm, installed]⟩
          · rw [Function.update_of_ne other, backup]
          · rw [Function.update_self]
    · exact Fallible.Triple.value (fun _ => id)

theorem setExecutable_triple :
    Fallible.Triple (Moved target newBin old new) (setExecutable faults target)
      (fun _ => Installed target newBin new) (Recoverable target old) := by
  have executable : ∀ mode : BitVec 32, (mode ||| 0o111) &&& 0o111 = 0o111 := by
    intro mode
    ext i
    simpa using Or.inr
  refine Fallible.Triple.bind (fun _ => Moved target newBin old new) ?_ ?_
  · exact metadata_rule _ (fun fs moved => Or.inl moved.backup) (fun _ _ moved _ => moved)
  · intro mode
    refine setPermissions_rule _ (fun fs moved => Or.inl moved.backup) ?_
    intro fs file moved found
    obtain ⟨before, installed⟩ := moved.target
    rw [installed] at found
    cases found
    have different : newBin ≠ target := by
      intro same
      have missing := moved.extracted
      rw [same, installed] at missing
      cases missing
    constructor
    · exact ⟨mode ||| 0o111, Function.update_self _ _ _, executable mode⟩
    · rw [Function.update_of_ne different, moved.extracted]

theorem dropBackup_triple (other : backupPath target ≠ newBin) {fails : _ → Prop} :
    Fallible.Triple (Installed target newBin new) (dropBackup faults (backupPath target))
      (fun _ => Installed target newBin new) fails := by
  have removed : ∀ fs, Installed target newBin new fs →
      Installed target newBin new (Function.update fs (backupPath target) none) := by
    intro fs installed
    constructor
    · rw [Function.update_of_ne (backupPath_ne_target target).symm]
      exact installed.target
    · rw [Function.update_of_ne other.symm, installed.extracted]
  refine ifExists_rule ?_ (fun _ installed _ => installed)
  have tried : Fallible.Triple
      (fun fs => Installed target newBin new fs ∧ (fs (backupPath target)).isSome)
      (removeFile faults.removeBackup (backupPath target))
      (fun _ => Installed target newBin new) (Installed target newBin new) :=
    removeFile_rule _ (fun _ kept => kept.1) (fun fs kept => removed fs kept.1)
  refine Fallible.Triple.bind _ (tried.attempt ?_ ?_) (fun _ => Fallible.Triple.value (fun _ => id))
  · exact fun _ _ => id
  · exact fun _ _ => id

/-- From the backup of the installed binary on, an error can be undone. -/
theorem install_triple (other : backupPath target ≠ newBin) :
    Fallible.Triple (Intact target newBin old new)
      (do
        backUpExisting faults target (backupPath target)
        moveIntoPlace faults newBin target
        setExecutable faults target
        dropBackup faults (backupPath target))
      (fun _ => Installed target newBin new) (Recoverable target old) :=
  (backUpExisting_triple faults other).bind _ (fun _ =>
    (moveIntoPlace_triple faults other).bind _ (fun _ =>
      (setExecutable_triple faults).bind _ (fun _ => dropBackup_triple faults other)))

theorem restoreBackup_triple :
    Fallible.Triple (Recoverable target old) (restoreBackup faults target)
      (fun recovery fs => (∀ r, recovery = some r → r.isOk = true) → fs target = some old)
      (fun _ => False) := by
  refine Fallible.Triple.bind (fun found fs => Recoverable target old fs ∧
    found = (fs (backupPath target)).isSome) (fun fs start => ⟨start, rfl⟩) ?_
  rintro (_ | _)
  · refine Fallible.Triple.value ?_
    rintro fs ⟨backup | ⟨installed, _⟩, missing⟩ _
    · rw [backup] at missing
      cases missing
    · exact installed
  · have renamed : Fallible.Triple
        (fun fs => Recoverable target old fs ∧ true = (fs (backupPath target)).isSome)
        (rename faults.restore (backupPath target) target)
        (fun _ fs => fs target = some old) (fun _ => True) := by
      refine rename_rule _ (fun _ _ => trivial) ?_
      rintro fs file ⟨backup | ⟨_, none⟩, _⟩ found
      · rw [Function.update_self, ← found, backup]
      · rw [none] at found
        cases found
    refine Fallible.Triple.bind (fun r fs => r.isOk = true → fs target = some old)
      (renamed.attempt ?_ ?_) ?_
    · exact fun _ _ restored _ => restored
    · exact fun _ _ _ failed => nomatch failed
    · exact fun r => Fallible.Triple.value (fun fs restored attempted => restored (attempted r rfl))

end Parts

section Outcome
variable {δ Content : Type}

/-- After an error whose recovery, if attempted, succeeded, the target holds the
old content; after a success it holds the new one, executable, and the
extracted file is gone. -/
def AllOrNothing (target newBin : FilePath δ) (old new : File Content)
    (ended : Ended δ Content) : Prop :=
  match ended.result with
  | .ok () => (∃ mode, ended.files target = some ⟨new.content, mode⟩ ∧ mode &&& 0o111 = 0o111) ∧
      ended.files newBin = none
  | .error _ => (∀ r, ended.recovery = some r → r.isOk = true) →
      (ended.files target).map File.content = some old.content

/-- A stale backup that cannot be removed holds the old content, or cannot be
renamed either. -/
def StaleHarmless (faults : Faults Content) (target : FilePath δ) (old : File Content)
    (files : FileSystem δ Content) : Prop :=
  ∀ stale, files (backupPath target) = some stale → faults.removeStale.isSome = true →
    faults.restore.isSome = true ∨ stale.content = old.content

variable [DecidableEq δ] {faults : Faults Content} {target newBin : FilePath δ}
  {old new : File Content} {files : FileSystem δ Content}

/-- The recovery of a failure before the old binary was moved. -/
theorem replaceOrRecover_stale {stale : File Content} {e : IoError}
    (found : files (backupPath target) = some stale) (failed : faults.removeStale = some e) :
    replaceOrRecover faults newBin target files =
      match faults.restore with
      | some e' => ⟨.error e, some (.error e'), files⟩
      | none => ⟨.error e, some (.ok ()),
          Function.update (Function.update files (backupPath target) none) target
            (some stale)⟩ := by
  have stopped :
      (removeStaleBackup faults (backupPath target)).outcome files = (.error e, files) := by
    rw [removeStaleBackup, outcome_pathExists, found, failed]
    rfl
  have replaced : (replaceBinary faults newBin target).outcome files = (.error e, files) :=
    Fallible.outcome_bind_error stopped
  have restored : (restoreBackup faults target).outcome files =
      (.ok (some ((rename faults.restore (backupPath target) target).outcome files).1),
        ((rename faults.restore (backupPath target) target).outcome files).2) := by
    rw [restoreBackup, outcome_pathExists, found]
    rfl
  rw [replaceOrRecover, replaced]
  dsimp only
  rw [restored]
  cases fault : faults.restore with
  | some e' => rfl
  | none => simp [Fallible.outcome, ExceptT.run, StateT.run, rename, found]

theorem removeStaleBackup_ok
    (removable : ∀ stale, files (backupPath target) = some stale → faults.removeStale = none) :
    ∃ files', (removeStaleBackup faults (backupPath target)).outcome files = (.ok (), files') := by
  rw [removeStaleBackup, outcome_pathExists]
  cases found : files (backupPath target) with
  | none => exact ⟨files, rfl⟩
  | some stale =>
    rw [removable stale found]
    simp [Fallible.outcome, ExceptT.run, StateT.run, removeFile, found]

/-- Without a stale backup in the way, every failure is undone. -/
theorem replaceOrRecover_removable (other : backupPath target ≠ newBin)
    (installed : files target = some old) (extracted : files newBin = some new)
    (removable : ∀ stale, files (backupPath target) = some stale → faults.removeStale = none) :
    AllOrNothing target newBin old new (replaceOrRecover faults newBin target files) := by
  obtain ⟨cleared, removed⟩ := removeStaleBackup_ok removable
  have intact := (removeStaleBackup_triple faults other).of_ok ⟨installed, extracted⟩ removed
  have replaced := Fallible.outcome_bind_ok (k := fun _ => do
    backUpExisting faults target (backupPath target)
    moveIntoPlace faults newBin target
    setExecutable faults target
    dropBackup faults (backupPath target)) removed
  change (replaceBinary faults newBin target).outcome files = _ at replaced
  have ended := install_triple faults other cleared intact
  rw [← replaced] at ended
  rw [AllOrNothing, replaceOrRecover]
  split at ended
  · rename_i done
    rw [done]
    exact ⟨ended.target, ended.extracted⟩
  · rename_i e left failed
    rw [failed]
    dsimp only
    have recovered := restoreBackup_triple faults left ended
    split at recovered
    · rename_i recovery files' outcome
      rw [outcome]
      dsimp only
      intro succeeded
      rw [recovered succeeded]
      rfl
    · exact recovered.elim

end Outcome

/-- The replacement is all or nothing, unless a stale backup stands. -/
theorem replacement_allOrNothing_iff {δ Content : Type} [DecidableEq δ] (faults : Faults Content)
    (target : FilePath δ) (directory : δ) (binaryName : String) {old new : File Content}
    {files : FileSystem δ Content} (installed : files target = some old)
    (extracted : files (extractedPath directory binaryName) = some new) :
    AllOrNothing target (extractedPath directory binaryName) old new
        (replaceOrRecover faults (extractedPath directory binaryName) target files) ↔
      StaleHarmless faults target old files := by
  have other := backupPath_ne_extracted target directory binaryName
  by_cases removable : ∀ stale, files (backupPath target) = some stale → faults.removeStale = none
  · refine iff_of_true (replaceOrRecover_removable other installed extracted removable) ?_
    intro stale found failed
    rw [removable stale found] at failed
    cases failed
  · obtain ⟨stale, removable⟩ := not_forall.mp removable
    obtain ⟨found, stands⟩ := Classical.not_imp.mp removable
    obtain ⟨e, failed⟩ := Option.ne_none_iff_exists'.mp stands
    rw [replaceOrRecover_stale found failed, StaleHarmless]
    cases restore : faults.restore with
    | some e' => simp [AllOrNothing, Except.isOk, Except.toBool]
    | none => simp [AllOrNothing, found, failed, Except.isOk, Except.toBool]

def refusedFiles : FileSystem String String := fun p =>
  if p = ⟨"/usr/local/bin", "api"⟩ then some ⟨"1.1.0", 0o755⟩
  else if p = ⟨"/usr/local/bin", "api.bak"⟩ then some ⟨"1.0.0", 0o755⟩
  else if p = ⟨"/tmp", "api.new"⟩ then some ⟨"1.2.0", 0o644⟩
  else none

/-- The extracted file is on another mount point, and the disk fills up. -/
def diskFull : Faults String where
  removeStale := none
  backUp := none
  moveNew := some "Invalid cross-device link (os error 18)"
  copyNew := some ("No space left on device (os error 28)", some ⟨"1.", 0o644⟩)
  removeNew := none
  metadata := none
  setPermissions := none
  removeBackup := none
  restore := none

theorem replacement_allOrNothing_iff_diskFull :
    AllOrNothing ⟨"/usr/local/bin", "api"⟩ (extractedPath "/tmp" "api") ⟨"1.1.0", 0o755⟩
      ⟨"1.2.0", 0o644⟩
      (replaceOrRecover diskFull (extractedPath "/tmp" "api") ⟨"/usr/local/bin", "api"⟩
        refusedFiles) := by
  have installed : refusedFiles ⟨"/usr/local/bin", "api"⟩ = some ⟨"1.1.0", 0o755⟩ := by
    decide +kernel
  have extracted : refusedFiles (extractedPath "/tmp" "api") = some ⟨"1.2.0", 0o644⟩ := by
    decide +kernel
  refine (replacement_allOrNothing_iff diskFull _ "/tmp" "api" installed extracted).mpr ?_
  intro _ _ failed
  cases failed

/-- The backup of an earlier update stands; removing it is refused and moving it
is not. -/
def removalRefused : Faults String where
  removeStale := some "Operation not permitted (os error 1)"
  backUp := none
  moveNew := none
  copyNew := none
  removeNew := none
  metadata := none
  setPermissions := none
  removeBackup := none
  restore := none

theorem stale_backup_installed :
    refusedFiles ⟨"/usr/local/bin", "api"⟩ = some ⟨"1.1.0", 0o755⟩ ∧
    refusedFiles (extractedPath "/tmp" "api") = some ⟨"1.2.0", 0o644⟩ ∧
    ¬ AllOrNothing ⟨"/usr/local/bin", "api"⟩ (extractedPath "/tmp" "api") ⟨"1.1.0", 0o755⟩
      ⟨"1.2.0", 0o644⟩
      (replaceOrRecover removalRefused (extractedPath "/tmp" "api") ⟨"/usr/local/bin", "api"⟩
        refusedFiles) := by
  refine ⟨by decide +kernel, by decide +kernel, ?_⟩
  have backup : refusedFiles (backupPath ⟨"/usr/local/bin", "api"⟩) = some ⟨"1.0.0", 0o755⟩ := by
    decide +kernel
  rw [replaceOrRecover_stale backup rfl]
  intro holds
  have content := holds (fun r recovered => by cases recovered; rfl)
  revert content
  decide +kernel

end ApiBoilerplate.Updater
