import ApiBoilerplate.Foundation.UnixPath
import ApiBoilerplate.Updater.Replace

/-!
# Extracting the binary

The part of the updater binary that looks for the new binary in the archive and
writes it next to the archive. One pass over the entries takes the first name that
is the binary's, with or without directories before it.
-/

namespace ApiBoilerplate.Updater

open Foundation

inductive ErrorKind where
  | notFound
  | invalidData
  deriving DecidableEq, Repr

/-- An `io::Error`: one that a call came back with, or one made by the program. -/
inductive ExtractError where
  | io (error : IoError)
  | new (kind : ErrorKind) (message : String)
  deriving DecidableEq, Repr

/-- What reading an entry to its end gives, or how far it came. -/
abbrev Reader (Content : Type) := Except (IoError × Content) Content

structure Entry (Content : Type) where
  /-- The name, by `by_index_raw`. -/
  raw : Except String String
  /-- The data, by `by_index`. -/
  data : Except String (Reader Content)

namespace Entry
variable {Content : Type}

/-- An entry that can be read raw, under a name that passes the test. -/
def readable (test : String → Bool) (entry : Entry Content) : Bool :=
  match entry.raw with
  | .ok name => test name
  | .error _ => false

def isNamed (binaryName name : String) : Bool := name = binaryName

/-- The binary's name behind a separator of either kind. -/
def isNested (binaryName name : String) : Bool :=
  ('/' :: binaryName.toList).isSuffixOf name.toList ||
    ('\\' :: binaryName.toList).isSuffixOf name.toList

def matchesName (binaryName : String) (entry : Entry Content) : Bool :=
  entry.readable fun name => isNamed binaryName name || isNested binaryName name

theorem matchesName_eq (binaryName : String) (entry : Entry Content) :
    entry.matchesName binaryName =
      (entry.readable (isNamed binaryName) || entry.readable (isNested binaryName)) := by
  rw [matchesName, readable, readable, readable]
  cases entry.raw <;> rfl

end Entry

/-- What the extraction finds around it. -/
structure Platform (δ Content : Type) where
  dirs : Directories δ
  /-- The contents and mode bits of a file just created. -/
  empty : Content
  newMode : BitVec 32
  readZip : Content → Except String (List (Entry Content))
  /-- What is left to read of an entry when the archive itself is created over. -/
  reread : Entry Content → Reader Content

def Platform.locate {δ Content : Type} (platform : Platform δ Content) (path : UnixPath) :
    Option (FilePath δ) :=
  (platform.dirs.locate path).map fun entry => ⟨entry.1, entry.2⟩

/-- Which calls of `extract_binary` fail, and how. -/
structure ExtractFaults (Content : Type) where
  openZip : Option IoError
  create : Option IoError
  /-- A write that fails leaves what was written before it. -/
  write : Option (IoError × Content)

structure Extraction (δ Content : Type) where
  files : FileSystem δ Content
  /-- The entries asked for their data, in order. -/
  opened : List Nat

abbrev Extract (δ Content : Type) := Fallible ExtractError (Extraction δ Content)

section Calls
variable {δ Content : Type} [DecidableEq δ] (platform : Platform δ Content)
variable (faults : ExtractFaults Content)

def openFile (path : UnixPath) : Extract δ Content Content := fun s =>
  match faults.openZip, (platform.locate path).bind s.files with
  | some e, _ => (.error (.io e), s)
  | none, none => (.error (.io notFound), s)
  | none, some file => (.ok file.content, s)

/-- `ZipArchive::new` -/
def readArchive (content : Content) : Extract δ Content (List (Entry Content)) := fun s =>
  match platform.readZip content with
  | .error e => (.error (.new .invalidData e), s)
  | .ok entries => (.ok entries, s)

def byIndex (entries : List (Entry Content)) (idx : Nat) : Extract δ Content (Entry Content) :=
  fun s =>
    match entries[idx]? with
    | none => (.error (.new .invalidData "specified file not found in archive"), s)
    | some entry =>
      match entry.data with
      | .error e => (.error (.new .invalidData e), { s with opened := s.opened ++ [idx] })
      | .ok _ => (.ok entry, { s with opened := s.opened ++ [idx] })

/-- The file as it is with other contents. -/
def FileSystem.write (files : FileSystem δ Content) (newMode : BitVec 32) (path : FilePath δ)
    (content : Content) : FileSystem δ Content :=
  Function.update files path (some ⟨content, (files path).elim newMode File.mode⟩)

def createFile (path : UnixPath) : Extract δ Content (FilePath δ) := fun s =>
  match faults.create, platform.locate path with
  | some e, _ => (.error (.io e), s)
  | none, none => (.error (.io notFound), s)
  | none, some p =>
    (.ok p, { s with files := s.files.write platform.newMode p platform.empty })

/-- What there is to read of an entry, which the output may have truncated. -/
def Platform.reader (entry : Entry Content) (overwritten : Bool) : Reader Content :=
  if overwritten then platform.reread entry
  else
    match entry.data with
    | .ok reader => reader
    | .error e => .error (e, platform.empty)

/-- `io::copy` -/
def copyEntry (reader : Reader Content) (target : FilePath δ) : Extract δ Content Unit :=
  fun s =>
    match faults.write, reader with
    | some (e, part), _ =>
      (.error (.io e), { s with files := s.files.write platform.newMode target part })
    | none, .error (e, part) =>
      (.error (.io e), { s with files := s.files.write platform.newMode target part })
    | none, .ok content =>
      (.ok (), { s with files := s.files.write platform.newMode target content })

end Calls

section Program
variable {δ Content : Type} [DecidableEq δ] (platform : Platform δ Content)
variable (faults : ExtractFaults Content)

def missing (binaryName : String) : ExtractError :=
  .new .notFound ("'" ++ binaryName ++ "' not found inside zip archive")

def findEntry (entries : List (Entry Content)) (binaryName : String) : Option Nat :=
  entries.findIdx? (Entry.matchesName binaryName)

/-- The path of the new binary. -/
def outPath (zipPath : UnixPath) (binaryName : String) : UnixPath :=
  (zipPath.parent.getD (.ofText ['.'])).join (binaryName.toList ++ ".new".toList)

/-- `extract_binary`, from the entry found to its end. -/
def extractEntry (zipPath : UnixPath) (binaryName : String) (entries : List (Entry Content))
    (idx : Nat) : Extract δ Content UnixPath := do
  let entry ← byIndex entries idx
  let outPath := outPath zipPath binaryName
  let outFile ← createFile platform faults outPath
  copyEntry platform faults (platform.reader entry (platform.locate zipPath = some outFile)) outFile
  return outPath

def extractBinary (zipPath : UnixPath) (binaryName : String) : Extract δ Content UnixPath := do
  let file ← openFile platform faults zipPath
  let entries ← readArchive platform file
  match findEntry entries binaryName with
  | none => throw (missing binaryName)
  | some idx => extractEntry platform faults zipPath binaryName entries idx

variable {platform faults} {zipPath : UnixPath} {binaryName : String}
variable {entries : List (Entry Content)} {s : Extraction δ Content}

/-- The archive can be opened and holds these entries. -/
structure Opens (platform : Platform δ Content) (faults : ExtractFaults Content)
    (zipPath : UnixPath) (entries : List (Entry Content)) (s : Extraction δ Content) : Prop where
  opened : faults.openZip = none
  archive : ∃ p file, platform.locate zipPath = some p ∧ s.files p = some file ∧
    platform.readZip file.content = .ok entries

theorem extractBinary_outcome (opens : Opens platform faults zipPath entries s) :
    (extractBinary platform faults zipPath binaryName).outcome s =
      match findEntry entries binaryName with
      | none => (.error (missing binaryName), s)
      | some idx => (extractEntry platform faults zipPath binaryName entries idx).outcome s := by
  obtain ⟨p, file, located, held, read⟩ := opens.archive
  have opened : (openFile platform faults zipPath).outcome s = (.ok file.content, s) := by
    simp [Fallible.outcome, openFile, opens.opened, located, held, ExceptT.run, StateT.run]
  have listed : (readArchive platform file.content).outcome s = (.ok entries, s) := by
    simp [Fallible.outcome, readArchive, read, ExceptT.run, StateT.run]
  rw [extractBinary, Fallible.outcome_bind_ok opened, Fallible.outcome_bind_ok listed]
  cases findEntry entries binaryName <;> rfl

/-- How the extraction of one entry ends. -/
inductive EntryEnd (platform : Platform δ Content) (faults : ExtractFaults Content)
    (zipPath : UnixPath) (binaryName : String) (s : Extraction δ Content) (idx : Nat)
    (entry : Entry Content) :
    Except ExtractError UnixPath × Extraction δ Content → Prop
  /-- The data cannot be asked for. -/
  | unread (e : String) : entry.data = .error e →
      EntryEnd platform faults zipPath binaryName s idx entry
        (.error (.new .invalidData e), ⟨s.files, s.opened ++ [idx]⟩)
  /-- The output cannot be created. -/
  | uncreated (e : IoError) (reader : Reader Content) : entry.data = .ok reader →
      faults.create ≠ none ∨ platform.locate (outPath zipPath binaryName) = none →
      EntryEnd platform faults zipPath binaryName s idx entry
        (.error (.io e), ⟨s.files, s.opened ++ [idx]⟩)
  /-- The copy fails and leaves a part. -/
  | broken (e : IoError) (reader : Reader Content) (p : FilePath δ) (file : File Content) :
      entry.data = .ok reader → platform.locate (outPath zipPath binaryName) = some p →
      EntryEnd platform faults zipPath binaryName s idx entry
        (.error (.io e), ⟨Function.update s.files p (some file), s.opened ++ [idx]⟩)
  | written (reader : Reader Content) (p : FilePath δ) (file : File Content) :
      entry.data = .ok reader → platform.locate (outPath zipPath binaryName) = some p →
      platform.reader entry (platform.locate zipPath = some p) = .ok file.content →
      EntryEnd platform faults zipPath binaryName s idx entry
        (.ok (outPath zipPath binaryName),
          ⟨Function.update s.files p (some file), s.opened ++ [idx]⟩)

theorem write_write (files : FileSystem δ Content) (newMode : BitVec 32) (p : FilePath δ)
    (first second : Content) :
    (files.write newMode p first).write newMode p second = files.write newMode p second := by
  rw [FileSystem.write, FileSystem.write, FileSystem.write, Function.update_idem,
    Function.update_self]
  rfl

variable (platform faults) in
theorem createFile_cases (path : UnixPath) (t : Extraction δ Content) :
    ((faults.create ≠ none ∨ platform.locate path = none) ∧
      ∃ e, (createFile platform faults path).outcome t = (.error (.io e), t)) ∨
      ∃ p, platform.locate path = some p ∧ (createFile platform faults path).outcome t =
        (.ok p, { t with files := t.files.write platform.newMode p platform.empty }) := by
  cases fault : faults.create with
  | some e =>
    left
    refine ⟨Or.inl nofun, e, ?_⟩
    simp [Fallible.outcome, createFile, fault, ExceptT.run, StateT.run]
  | none =>
    cases located : platform.locate path with
    | none =>
      left
      refine ⟨Or.inr rfl, notFound, ?_⟩
      simp [Fallible.outcome, createFile, fault, located, ExceptT.run, StateT.run]
    | some p =>
      right
      refine ⟨p, rfl, ?_⟩
      simp [Fallible.outcome, createFile, fault, located, ExceptT.run, StateT.run]

variable (platform faults) in
theorem copyEntry_cases (reader : Reader Content) (p : FilePath δ) (t : Extraction δ Content) :
    (∃ e part, (copyEntry platform faults reader p).outcome t =
      (.error (.io e), { t with files := t.files.write platform.newMode p part })) ∨
      ∃ content, reader = .ok content ∧ (copyEntry platform faults reader p).outcome t =
        (.ok (), { t with files := t.files.write platform.newMode p content }) := by
  cases fault : faults.write with
  | some failed =>
    left
    refine ⟨failed.1, failed.2, ?_⟩
    simp [Fallible.outcome, copyEntry, fault, ExceptT.run, StateT.run]
  | none =>
    cases reader with
    | error failed =>
      left
      refine ⟨failed.1, failed.2, ?_⟩
      simp [Fallible.outcome, copyEntry, fault, ExceptT.run, StateT.run]
    | ok content =>
      right
      refine ⟨content, rfl, ?_⟩
      simp [Fallible.outcome, copyEntry, fault, ExceptT.run, StateT.run]

theorem extractEntry_end {idx : Nat} {entry : Entry Content} (listed : entries[idx]? = some entry) :
    EntryEnd platform faults zipPath binaryName s idx entry
      ((extractEntry platform faults zipPath binaryName entries idx).outcome s) := by
  cases data : entry.data with
  | error e =>
    have failed : (byIndex entries idx : Extract δ Content _).outcome s =
        (.error (.new .invalidData e), ⟨s.files, s.opened ++ [idx]⟩) := by
      simp [Fallible.outcome, byIndex, listed, data, ExceptT.run, StateT.run]
    rw [extractEntry, Fallible.outcome_bind_error failed]
    exact .unread e data
  | ok reader =>
    have asked : (byIndex entries idx : Extract δ Content _).outcome s =
        (.ok entry, ⟨s.files, s.opened ++ [idx]⟩) := by
      simp [Fallible.outcome, byIndex, listed, data, ExceptT.run, StateT.run]
    rw [extractEntry, Fallible.outcome_bind_ok asked]
    let t : Extraction δ Content := ⟨s.files, s.opened ++ [idx]⟩
    obtain ⟨blocked, e, failed⟩ | ⟨p, located, created⟩ :=
      createFile_cases platform faults (outPath zipPath binaryName) t
    · rw [Fallible.outcome_bind_error failed]
      exact .uncreated e reader data blocked
    · rw [Fallible.outcome_bind_ok created]
      obtain ⟨e, part, failed⟩ | ⟨content, read, copied⟩ := copyEntry_cases platform faults
        (platform.reader entry (platform.locate zipPath = some p)) p
        { t with files := t.files.write platform.newMode p platform.empty }
      · rw [Fallible.outcome_bind_error failed, write_write]
        exact .broken e reader p _ data located
      · rw [Fallible.outcome_bind_ok copied, write_write]
        exact .written reader p ⟨content, _⟩ data located read

/-- A run takes an entry: no other one is asked for its data, and a run that succeeds
leaves what there was to read of it. -/
def Takes (platform : Platform δ Content) (zipPath : UnixPath) (entries : List (Entry Content))
    (s : Extraction δ Content) (ended : Except ExtractError UnixPath × Extraction δ Content)
    (idx : Nat) : Prop :=
  ended.2.opened = s.opened ++ [idx] ∧
    ∀ path, ended.1 = .ok path → ∃ entry p file, entries[idx]? = some entry ∧
      platform.locate path = some p ∧ ended.2.files p = some file ∧
      platform.reader entry (platform.locate zipPath = some p) = .ok file.content

/-- The first entry of the exact name is taken, or else the first one behind a
separator; with neither the binary is missing. -/
structure ExactMatchWins (platform : Platform δ Content) (zipPath : UnixPath)
    (binaryName : String) (entries : List (Entry Content)) (s : Extraction δ Content)
    (ended : Except ExtractError UnixPath × Extraction δ Content) : Prop where
  exact : ∀ idx, entries.findIdx? (Entry.readable (Entry.isNamed binaryName)) = some idx →
    Takes platform zipPath entries s ended idx
  nested : entries.findIdx? (Entry.readable (Entry.isNamed binaryName)) = none →
    ∀ idx, entries.findIdx? (Entry.readable (Entry.isNested binaryName)) = some idx →
      Takes platform zipPath entries s ended idx
  missing : ended.1 = .error (missing binaryName) ↔
    entries.findIdx? (Entry.readable (Entry.isNamed binaryName)) = none ∧
      entries.findIdx? (Entry.readable (Entry.isNested binaryName)) = none

/-- No readable name behind a separator comes before the first exact one. -/
def NestedLater (binaryName : String) (entries : List (Entry Content)) : Prop :=
  ∀ idx, entries.findIdx? (Entry.readable (Entry.isNamed binaryName)) = some idx →
    ∀ entry ∈ entries.take idx, entry.readable (Entry.isNested binaryName) = false

theorem EntryEnd.takes {idx : Nat} {entry : Entry Content}
    {ended : Except ExtractError UnixPath × Extraction δ Content}
    (listed : entries[idx]? = some entry)
    (extracted : EntryEnd platform faults zipPath binaryName s idx entry ended) :
    Takes platform zipPath entries s ended idx := by
  cases extracted with
  | unread e data => exact ⟨rfl, nofun⟩
  | uncreated e reader data blocked => exact ⟨rfl, nofun⟩
  | broken e reader p file data located => exact ⟨rfl, nofun⟩
  | written reader p file data located read =>
    refine ⟨rfl, ?_⟩
    rintro path ⟨⟩
    exact ⟨entry, p, file, listed, located, Function.update_self .., read⟩

/-- The extraction of an entry never reports that the binary is missing. -/
theorem EntryEnd.ne_missing {idx : Nat} {entry : Entry Content}
    {ended : Except ExtractError UnixPath × Extraction δ Content}
    (extracted : EntryEnd platform faults zipPath binaryName s idx entry ended) :
    ended.1 ≠ .error (missing binaryName) := by
  cases extracted <;> nofun

theorem findEntry_eq_none : findEntry entries binaryName = none ↔
    entries.findIdx? (Entry.readable (Entry.isNamed binaryName)) = none ∧
      entries.findIdx? (Entry.readable (Entry.isNested binaryName)) = none := by
  simp only [findEntry, List.findIdx?_eq_none_iff, Entry.matchesName_eq, Bool.or_eq_false_iff]
  constructor
  · intro neither
    constructor
    · intro entry member
      exact (neither entry member).1
    · intro entry member
      exact (neither entry member).2
  · rintro ⟨unnamed, unnested⟩ entry member
    exact ⟨unnamed entry member, unnested entry member⟩

theorem findEntry_exact {idx : Nat} (later : NestedLater binaryName entries)
    (first : entries.findIdx? (Entry.readable (Entry.isNamed binaryName)) = some idx) :
    findEntry entries binaryName = some idx := by
  have before := later idx first
  obtain ⟨bound, named, unnamed⟩ := List.findIdx?_eq_some_iff_getElem.mp first
  refine List.findIdx?_eq_some_iff_getElem.mpr ⟨bound, ?_, fun j earlier => ?_⟩
  · rw [Entry.matchesName_eq, named, Bool.true_or]
  · rw [Entry.matchesName_eq, Bool.not_eq_true, Bool.or_eq_false_iff]
    refine ⟨Bool.eq_false_iff.mpr (unnamed j earlier), before _ ?_⟩
    exact List.mem_take_iff_getElem.mpr ⟨j, by omega, rfl⟩

theorem findEntry_nested {idx : Nat}
    (none : entries.findIdx? (Entry.readable (Entry.isNamed binaryName)) = none)
    (first : entries.findIdx? (Entry.readable (Entry.isNested binaryName)) = some idx) :
    findEntry entries binaryName = some idx := by
  have unnamed := List.findIdx?_eq_none_iff.mp none
  have same : ∀ entry ∈ entries,
      entry.matchesName binaryName = entry.readable (Entry.isNested binaryName) := by
    intro entry member
    rw [Entry.matchesName_eq, unnamed entry member, Bool.false_or]
  obtain ⟨bound, nested, unnested⟩ := List.findIdx?_eq_some_iff_getElem.mp first
  refine List.findIdx?_eq_some_iff_getElem.mpr ⟨bound, ?_, fun j earlier => ?_⟩
  · rw [same _ (List.getElem_mem _)]
    exact nested
  · rw [same _ (List.getElem_mem _)]
    exact unnested j earlier

/-- The pass takes an entry of the exact name only where it meets no other before. -/
theorem nestedLater_of_found {idx : Nat} (found : findEntry entries binaryName = some idx) :
    ∀ entry ∈ entries.take idx, entry.readable (Entry.isNested binaryName) = false := by
  obtain ⟨bound, _, unmatched⟩ := List.findIdx?_eq_some_iff_getElem.mp found
  intro entry member
  obtain ⟨j, earlier, rfl⟩ := List.mem_take_iff_getElem.mp member
  have skipped := unmatched j (by omega)
  rw [Entry.matchesName_eq, Bool.not_eq_true, Bool.or_eq_false_iff] at skipped
  exact skipped.2

/-- The exact name wins where no nested one comes before it. -/
theorem exactMatchWins_iff (opens : Opens platform faults zipPath entries s) :
    ExactMatchWins platform zipPath binaryName entries s
        ((extractBinary platform faults zipPath binaryName).outcome s) ↔
      NestedLater binaryName entries := by
  rw [extractBinary_outcome opens]
  cases found : findEntry entries binaryName with
  | none =>
    obtain ⟨unnamed, unnested⟩ := findEntry_eq_none.mp found
    constructor
    · intro _ idx first
      rw [unnamed] at first
      cases first
    · intro _
      constructor
      · intro idx first
        rw [unnamed] at first
        cases first
      · intro _ idx first
        rw [unnested] at first
        cases first
      · exact ⟨fun _ => ⟨unnamed, unnested⟩, fun _ => rfl⟩
  | some taken =>
    obtain ⟨bound, _⟩ := List.findIdx?_eq_some_iff_getElem.mp found
    have listed := List.getElem?_eq_getElem bound
    have extracted : EntryEnd platform faults zipPath binaryName s taken entries[taken]
        ((extractEntry platform faults zipPath binaryName entries taken).outcome s) :=
      extractEntry_end listed
    constructor
    · intro wins idx first
      have asked := (wins.exact idx first).1
      have same := (extracted.takes listed).1
      rw [same] at asked
      have taken_eq : taken = idx := List.singleton_inj.mp (List.append_cancel_left asked)
      exact nestedLater_of_found (taken_eq ▸ found)
    · intro later
      constructor
      · intro idx first
        have same := (findEntry_exact later first).symm.trans found
        cases same
        exact extracted.takes listed
      · intro none idx first
        have same := (findEntry_nested none first).symm.trans found
        cases same
        exact extracted.takes listed
      · constructor
        · intro failed
          exact absurd failed extracted.ne_missing
        · intro neither
          rw [findEntry_eq_none.mpr neither] at found
          cases found

end Program

def textEntry (name content : String) : Entry String := ⟨.ok name, .ok (.ok content)⟩

/-- A platform of one directory, where every archive holds the given entries. -/
def onePlatform (entries : List (Entry String)) : Platform Unit String where
  dirs := ⟨(), (), fun _ _ => some ()⟩
  empty := ""
  newMode := 0o644
  readZip := fun _ => .ok entries
  reread := fun _ => .error ("unexpected end of file", "")

def noFaults : ExtractFaults String := ⟨none, none, none⟩

/-- Only the archive is there. -/
def archiveOnly : Extraction Unit String :=
  ⟨Function.update (fun _ => none) ⟨(), "u.zip"⟩ (some ⟨"zip", 0o644⟩), []⟩

theorem onePlatform_opens (entries : List (Entry String)) :
    Opens (onePlatform entries) noFaults (.ofText "u.zip".toList) entries archiveOnly where
  opened := rfl
  archive := ⟨⟨(), "u.zip"⟩, ⟨"zip", 0o644⟩, rfl, rfl, rfl⟩

def exactFirst : List (Entry String) := [textEntry "api" "new", textEntry "old/api" "old"]

theorem exact_first_wins :
    ExactMatchWins (onePlatform exactFirst) (.ofText "u.zip".toList) "api" exactFirst archiveOnly
      ((extractBinary (onePlatform exactFirst) noFaults (.ofText "u.zip".toList) "api").outcome
        archiveOnly) := by
  refine (exactMatchWins_iff (onePlatform_opens exactFirst)).mpr ?_
  intro idx first entry member
  have zero : exactFirst.findIdx? (Entry.readable (Entry.isNamed "api")) = some 0 := by decide
  rw [zero] at first
  cases first
  cases member

def nestedFirst : List (Entry String) := [textEntry "old/api" "old", textEntry "api" "new"]

/-- The nested name stands first and is taken. -/
theorem nested_first_wins :
    ¬ ExactMatchWins (onePlatform nestedFirst) (.ofText "u.zip".toList) "api" nestedFirst
      archiveOnly
      ((extractBinary (onePlatform nestedFirst) noFaults (.ofText "u.zip".toList) "api").outcome
        archiveOnly) := by
  intro wins
  have asked := (wins.exact 1 (by decide)).1
  revert asked
  decide

end ApiBoilerplate.Updater
