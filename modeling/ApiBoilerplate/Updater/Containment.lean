import ApiBoilerplate.Updater.Extract
import ApiBoilerplate.Updater.Pending

/-!
# Where the update's files go

The archive goes to the temp directory under a name built from the version, the
new binary next to the archive under a name built from the manifest's. A version
that parses has no separator in it; the binary's name may bring a directory part.
-/

namespace ApiBoilerplate.Updater

open Foundation Http

/-- What the download of the archive comes back with. -/
inductive Downloaded (Content : Type) where
  | sendFailed (error : String)
  | bodyFailed (error : String)
  | bytes (content : Content)

/-- A write fails before the file is there, or leaves what was written before. -/
structure DownloadFaults (Content : Type) where
  write : Option (IoError × Option Content)

section Download
variable {δ Content : Type} [DecidableEq δ] (platform : Platform δ Content)
variable (faults : DownloadFaults Content)

abbrev Download (δ Content : Type) := Fallible AppError (FileSystem δ Content)

def fetchArchive (downloaded : Downloaded Content) : Download δ Content Content := fun files =>
  match downloaded with
  | .sendFailed e => (.error (.internal ("Update download failed: " ++ e)), files)
  | .bodyFailed e => (.error (.internal ("Failed to read update download body: " ++ e)), files)
  | .bytes content => (.ok content, files)

def notStored (e : IoError) : AppError :=
  .internal ("Failed to write update archive to disk: " ++ e)

/-- `fs::write` -/
def storeArchive (path : UnixPath) (content : Content) : Download δ Content Unit := fun files =>
  match faults.write, platform.locate path with
  | _, none => (.error (notStored notFound), files)
  | some (e, none), some _ => (.error (notStored e), files)
  | some (e, some part), some p => (.error (notStored e), files.write platform.newMode p part)
  | none, some p => (.ok (), files.write platform.newMode p content)

def archiveName (version : String) : String := "api-update-" ++ version ++ ".zip"

/-- `download_and_verify`; `digest` is the SHA-256 of the contents in lower-case
hexadecimal digits, so no letters but those of ASCII need to be lowered. -/
def downloadAndVerify (digest : Content → String) (tempDir : UnixPath)
    (downloaded : Downloaded Content) (manifest : VersionManifest) :
    Download δ Content UnixPath := do
  let bytes ← fetchArchive downloaded
  let computed := digest bytes
  if computed ≠ manifest.checksumSha256.toLower then
    throw (.internal ("Checksum mismatch for update zip: expected " ++ manifest.checksumSha256 ++
      ", got " ++ computed))
  let tmpPath := tempDir.join (archiveName manifest.version).toList
  storeArchive platform faults tmpPath bytes
  return tmpPath

variable {platform faults} {digest : Content → String} {tempDir : UnixPath}
variable {downloaded : Downloaded Content} {manifest : VersionManifest}
variable {files : FileSystem δ Content}

theorem storeArchive_keeps {path : UnixPath} {p : FilePath δ} {content : Content}
    (elsewhere : platform.locate path ≠ some p) (before : Option (File Content)) :
    Fallible.Triple (fun files => files p = before)
      (storeArchive platform faults path content : Download δ Content Unit)
      (fun _ files => files p = before) (fun files => files p = before) := by
  intro files kept
  have unwritten {q : FilePath δ} (located : platform.locate path = some q) (written : Content) :
      files.write platform.newMode q written p = before := by
    have other : p ≠ q := fun same => elsewhere (same ▸ located)
    rw [FileSystem.write, Function.update_of_ne other]
    exact kept
  cases located : platform.locate path with
  | none => simp [Fallible.outcome, storeArchive, located, kept, ExceptT.run, StateT.run]
  | some q =>
    have later := unwritten located
    rcases fault : faults.write with _ | ⟨e, _ | part⟩
    · simp [Fallible.outcome, storeArchive, located, fault, later, ExceptT.run, StateT.run]
    · simp [Fallible.outcome, storeArchive, located, fault, kept, ExceptT.run, StateT.run]
    · simp [Fallible.outcome, storeArchive, located, fault, later, ExceptT.run, StateT.run]

/-- A download changes no file but the archive. -/
theorem downloadAndVerify_keeps {p : FilePath δ} (before : Option (File Content))
    (elsewhere : platform.locate (tempDir.join (archiveName manifest.version).toList) ≠ some p) :
    Fallible.Triple (fun files => files p = before)
      (downloadAndVerify platform faults digest tempDir downloaded manifest)
      (fun _ files => files p = before) (fun files => files p = before) := by
  refine Fallible.Triple.bind (fun _ files => files p = before) ?_ fun bytes => ?_
  · intro files kept
    cases downloaded <;> exact kept
  · by_cases verified : digest bytes = manifest.checksumSha256.toLower
    · simp only [verified, ne_eq, not_true_eq_false, if_false]
      refine Fallible.Triple.bind (fun _ files => files p = before)
        (storeArchive_keeps elsewhere before) fun _ => Fallible.Triple.value fun _ kept => kept
    · simp only [ne_eq, verified, not_false_eq_true, if_true]
      intro files kept
      exact kept

theorem downloadAndVerify_changed {p : FilePath δ}
    (changed : ((downloadAndVerify platform faults digest tempDir downloaded manifest).outcome
      files).2 p ≠ files p) :
    platform.locate (tempDir.join (archiveName manifest.version).toList) = some p := by
  by_contra elsewhere
  exact changed ((downloadAndVerify_keeps (files p) elsewhere).ends rfl)

/-- What `semver` accepts as a version is made of these characters. -/
def IsVersionText (version : String) : Prop :=
  ∀ c ∈ version.toList, c.isAlphanum ∨ c = '.' ∨ c = '-' ∨ c = '+'

theorem isVersionText_of_all {version : String}
    (all : version.toList.all (fun c => c.isAlphanum || c == '.' || c == '-' || c == '+') = true) :
    IsVersionText version := by
  intro c hc
  have allowed := List.all_eq_true.mp all c hc
  simpa only [Bool.or_eq_true, beq_iff_eq, or_assoc] using allowed

theorem IsVersionText.plain {version : String} (made : IsVersionText version) :
    '/' ∉ version.toList := by
  intro member
  have allowed := made _ member
  revert allowed
  decide

theorem archiveName_plain {version : String} (made : IsVersionText version) :
    '/' ∉ (archiveName version).toList := by
  have before : '/' ∉ "api-update-".toList := by decide
  have after : '/' ∉ ".zip".toList := by decide
  simp only [archiveName, String.toList_append, List.mem_append, before, after, made.plain,
    or_self, not_false_eq_true]

omit [DecidableEq δ] in
/-- The archive lies directly in the temp directory. -/
theorem locate_archive {directory : δ} (made : IsVersionText manifest.version)
    (resolved : platform.dirs.resolve tempDir = some directory) :
    platform.locate (tempDir.join (archiveName manifest.version).toList) =
      some ⟨directory, archiveName manifest.version⟩ := by
  have plain := archiveName_plain made
  have long : 4 ≤ (archiveName manifest.version).toList.length := by
    have after : ".zip".toList.length = 4 := by decide
    rw [archiveName, String.toList_append, List.length_append, after]
    exact Nat.le_add_left 4 _
  have differs {name : List Char} (short : name.length < 4) :
      (archiveName manifest.version).toList ≠ name := by
    rintro rfl
    omega
  rw [Platform.locate, platform.dirs.locate_join_of_plain resolved plain, String.ofList_toList]
  · rfl
  · simp only [UnixPath.steps, Bool.and_eq_true, decide_eq_true_eq]
    exact ⟨differs (by decide), differs (by decide)⟩
  · rw [String.ofList_toList]
    intro up
    exact differs (by decide) (congrArg String.toList up)

end Download

section Extraction
variable {δ Content : Type} [DecidableEq δ] {platform : Platform δ Content}
variable {faults : ExtractFaults Content} {zipPath : UnixPath} {directory : δ} {zipName : String}
variable {binaryName : String} {entries : List (Entry Content)} {s : Extraction δ Content}

theorem newName_ne {text name : List Char} (short : name.length < 4) :
    text ++ ".new".toList ≠ name := by
  intro same
  have length := congrArg List.length same
  rw [List.length_append] at length
  have four : ".new".toList.length = 4 := by decide
  omega

omit [DecidableEq δ] in
/-- The new binary lies where the directory part of its name leads from the archive's
directory. -/
theorem locate_outPath (located : platform.dirs.locate zipPath = some (directory, zipName)) :
    platform.locate (outPath zipPath binaryName) =
      (platform.dirs.lead directory binaryName.toList).map fun d =>
        ⟨d, String.ofList (UnixPath.baseName binaryName.toList ++ ".new".toList)⟩ := by
  obtain ⟨q, parent, resolved⟩ := platform.dirs.resolve_parent located
  have kept : UnixPath.steps (UnixPath.baseName binaryName.toList ++ ".new".toList) = true := by
    simp only [UnixPath.steps, Bool.and_eq_true, decide_eq_true_eq]
    exact ⟨newName_ne (by decide), newName_ne (by decide)⟩
  have named : String.ofList (UnixPath.baseName binaryName.toList ++ ".new".toList) ≠ ".." := by
    intro up
    have chars := congrArg String.toList up
    rw [String.toList_ofList] at chars
    exact newName_ne (by decide) chars
  rw [Platform.locate, outPath, parent, Option.getD_some,
    platform.dirs.locate_join resolved (by decide) kept named, Option.map_map]
  rfl

/-- The first readable entry with a name that matches can be opened. -/
def Offers (entries : List (Entry Content)) (binaryName : String) : Prop :=
  ∃ entry reader, entries.find? (Entry.matchesName binaryName) = some entry ∧
    entry.data = .ok reader

theorem findEntry_find {idx : Nat} (found : findEntry entries binaryName = some idx) :
    ∃ entry, entries[idx]? = some entry ∧
      entries.find? (Entry.matchesName binaryName) = some entry := by
  obtain ⟨bound, matched, unmatched⟩ := List.findIdx?_eq_some_iff_getElem.mp found
  refine ⟨entries[idx], List.getElem?_eq_getElem bound, ?_⟩
  rw [List.find?_eq_some_iff_getElem]
  refine ⟨matched, idx, bound, rfl, fun j earlier => ?_⟩
  simpa using unmatched j earlier

theorem EntryEnd.changed {idx : Nat} {entry : Entry Content} {p : FilePath δ}
    {ended : Except ExtractError UnixPath × Extraction δ Content}
    (extracted : EntryEnd platform faults zipPath binaryName s idx entry ended)
    (changed : ended.2.files p ≠ s.files p) :
    (∃ reader, entry.data = .ok reader) ∧
      platform.locate (outPath zipPath binaryName) = some p := by
  have written {q : FilePath δ} {file : File Content}
      (differs : Function.update s.files q (some file) p ≠ s.files p) : p = q := by
    by_contra other
    exact differs (Function.update_of_ne other _ _)
  cases extracted with
  | unread e data => exact absurd rfl changed
  | uncreated e reader data blocked => exact absurd rfl changed
  | broken e reader q file data located => exact ⟨⟨reader, data⟩, written changed ▸ located⟩
  | written reader q file data located read =>
    exact ⟨⟨reader, data⟩, written changed ▸ located⟩

theorem EntryEnd.created {idx : Nat} {entry : Entry Content} {p : FilePath δ}
    {reader : Reader Content} {ended : Except ExtractError UnixPath × Extraction δ Content}
    (extracted : EntryEnd platform faults zipPath binaryName s idx entry ended)
    (unblocked : faults.create = none) (data : entry.data = .ok reader)
    (located : platform.locate (outPath zipPath binaryName) = some p) :
    (ended.2.files p).isSome := by
  cases extracted with
  | unread e failed => rw [failed] at data; cases data
  | uncreated e reader' data' blocked =>
    rw [unblocked, located] at blocked
    rcases blocked with faulty | nowhere
    · exact absurd rfl faulty
    · cases nowhere
  | broken e reader' q file data' located' =>
    cases located.symm.trans located'
    simp only [Function.update_self, Option.isSome_some]
  | written reader' q file data' located' read =>
    cases located.symm.trans located'
    simp only [Function.update_self, Option.isSome_some]

/-- With nothing there but the archive, the new binary is written where its name leads. -/
theorem exists_written {d : δ}
    (located : platform.dirs.locate zipPath = some (directory, zipName))
    (stored : ∃ content, platform.readZip content = .ok entries)
    (offers : Offers entries binaryName)
    (leads : platform.dirs.lead directory binaryName.toList = some d)
    (elsewhere : d ≠ directory) :
    ∃ faults s p, Opens platform faults zipPath entries s ∧ p.parent = d ∧
      ((extractBinary platform faults zipPath binaryName).outcome s).2.files p ≠ s.files p := by
  obtain ⟨entry, reader, first, data⟩ := offers
  obtain ⟨content, read⟩ := stored
  let zip : FilePath δ := ⟨directory, zipName⟩
  let target : FilePath δ :=
    ⟨d, String.ofList (UnixPath.baseName binaryName.toList ++ ".new".toList)⟩
  let faults : ExtractFaults Content := ⟨none, none, none⟩
  let s : Extraction δ Content := ⟨Function.update (fun _ => none) zip (some ⟨content, 0⟩), []⟩
  have held : s.files zip = some ⟨content, 0⟩ := by simp only [s, Function.update_self]
  have free : s.files target = none := by
    have other : target ≠ zip := fun same => elsewhere (congrArg FilePath.parent same)
    simp only [s, Function.update_of_ne other]
  have zip_located : platform.locate zipPath = some zip := by
    rw [Platform.locate, located]
    rfl
  have opens : Opens platform faults zipPath entries s :=
    ⟨rfl, zip, ⟨content, 0⟩, zip_located, held, read⟩
  have out : platform.locate (outPath zipPath binaryName) = some target := by
    rw [locate_outPath located, leads, Option.map_some]
  refine ⟨faults, s, target, opens, rfl, fun same => ?_⟩
  rw [extractBinary_outcome opens] at same
  cases found : findEntry entries binaryName with
  | none =>
    have unmatched := List.findIdx?_eq_none_iff.mp found entry (List.mem_of_find?_eq_some first)
    rw [List.find?_some first] at unmatched
    cases unmatched
  | some idx =>
    obtain ⟨entry', listed, first'⟩ := findEntry_find found
    cases first.symm.trans first'
    have extracted : EntryEnd platform faults zipPath binaryName s idx entry
        ((extractEntry platform faults zipPath binaryName entries idx).outcome s) :=
      extractEntry_end listed
    have made := extracted.created rfl data out
    simp only [found] at same
    rw [same, free] at made
    cases made

/-- The extraction writes next to the archive exactly where the binary's name leads
back to the archive's directory. -/
theorem extractBinary_beside_iff
    (located : platform.dirs.locate zipPath = some (directory, zipName))
    (stored : ∃ content, platform.readZip content = .ok entries) :
    (∀ faults s, Opens platform faults zipPath entries s → ∀ p,
      ((extractBinary platform faults zipPath binaryName).outcome s).2.files p ≠ s.files p →
        p.parent = directory) ↔
      (Offers entries binaryName →
        ∀ d, platform.dirs.lead directory binaryName.toList = some d → d = directory) := by
  constructor
  · intro beside offers d leads
    by_contra elsewhere
    obtain ⟨faults, s, p, opens, inside, changed⟩ :=
      exists_written located stored offers leads elsewhere
    exact elsewhere (inside.symm.trans (beside faults s opens p changed))
  · intro leads faults s opens p changed
    rw [extractBinary_outcome opens] at changed
    cases found : findEntry entries binaryName with
    | none =>
      rw [found] at changed
      exact absurd rfl changed
    | some idx =>
      rw [found] at changed
      obtain ⟨entry, listed, first⟩ := findEntry_find found
      obtain ⟨⟨reader, data⟩, written⟩ := (extractEntry_end listed).changed changed
      rw [locate_outPath located, Option.map_eq_some_iff] at written
      obtain ⟨d, lead, rfl⟩ := written
      exact leads ⟨entry, reader, first, data⟩ d lead

/-- The archive stays in the temp directory and the new binary next to the archive. -/
structure FilesStay (platform : Platform δ Content) (digest : Content → String)
    (tempDir : UnixPath) (tempDirectory : δ) (zipPath : UnixPath) (directory : δ)
    (entries : List (Entry Content)) (manifest : VersionManifest) : Prop where
  archive : ∀ faults downloaded files p,
    ((downloadAndVerify platform faults digest tempDir downloaded manifest).outcome files).2 p ≠
      files p → p.parent = tempDirectory
  binary : ∀ faults s, Opens platform faults zipPath entries s → ∀ p,
    ((extractBinary platform faults zipPath manifest.binaryName).outcome s).2.files p ≠
      s.files p → p.parent = directory

/-- The files of an accepted manifest stay where they belong exactly where its binary's
name leads back to the archive's directory, or nowhere. -/
theorem filesStay_iff {V : Type} [LinearOrder V] {parse : String → Except String V}
    (texts : ∀ text version, parse text = .ok version → IsVersionText text)
    {service : UpdaterService} {fetched : Fetched} {manifest : VersionManifest}
    (accepted : service.checkForUpdate parse fetched = .ok (some manifest))
    {tempDir : UnixPath} {tempDirectory : δ}
    (resolved : platform.dirs.resolve tempDir = some tempDirectory)
    (located : platform.dirs.locate zipPath = some (directory, zipName))
    (stored : ∃ content, platform.readZip content = .ok entries) (digest : Content → String) :
    FilesStay platform digest tempDir tempDirectory zipPath directory entries manifest ↔
      (Offers entries manifest.binaryName →
        ∀ d, platform.dirs.lead directory manifest.binaryName.toList = some d → d = directory) := by
  obtain ⟨_, _, remote, _, parsed, _⟩ := checkForUpdate_some accepted
  rw [← extractBinary_beside_iff located stored]
  constructor
  · intro stay
    exact stay.binary
  · intro beside
    constructor
    · intro faults downloaded files p changed
      have written := downloadAndVerify_changed changed
      rw [locate_archive (texts _ _ parsed) resolved] at written
      cases written
      rfl
    · exact beside

omit [DecidableEq δ] in
/-- In particular a name without a separator stays. -/
theorem beside_of_plain (plain : '/' ∉ binaryName.toList) :
    ∀ d, platform.dirs.lead directory binaryName.toList = some d → d = directory := by
  intro d leads
  rw [platform.dirs.lead_of_plain plain] at leads
  exact (Option.some.inj leads).symm

end Extraction

/-- A tree where every name is a directory, by the names from the root. -/
def nameTree : Directories (List String) where
  root := []
  working := ["srv"]
  enter := fun d name => some (if name = ".." then d.dropLast else d ++ [name])

def treePlatform (entries : List (Entry String)) : Platform (List String) String where
  dirs := nameTree
  empty := ""
  newMode := 0o644
  readZip := fun _ => .ok entries
  reread := fun _ => .error ("unexpected end of file", "")

def sampleVersion (text : String) : Except String Nat :=
  if text = "1.0.0" then .ok 1
  else if text = "2.0.0" then .ok 2
  else .error ("unexpected character in " ++ text)

theorem sampleVersion_text (text : String) (version : Nat)
    (parsed : sampleVersion text = .ok version) : IsVersionText text := by
  rw [sampleVersion] at parsed
  split at parsed
  · subst text
    exact isVersionText_of_all (by decide)
  · split at parsed
    · subst text
      exact isVersionText_of_all (by decide)
    · cases parsed

def manifestFor (binaryName : String) : VersionManifest :=
  ⟨"2.0.0", none, none, "https://cdn.example.com/api.zip", "00", binaryName⟩

def sampleService : UpdaterService :=
  ⟨⟨true, "https://cdn.example.com/manifest.json", false, 3600, "1.0.0"⟩⟩

theorem treePlatform_locate (entries : List (Entry String)) :
    (treePlatform entries).dirs.locate (.ofText "/tmp/api-update-2.0.0.zip".toList) =
      some (["tmp"], "api-update-2.0.0.zip") := by
  change nameTree.locate _ = _
  decide

theorem plain_name_stays :
    FilesStay (treePlatform [textEntry "bin/api" "new"]) (fun _ => "00") (.ofText "/tmp".toList)
      ["tmp"] (.ofText "/tmp/api-update-2.0.0.zip".toList) ["tmp"] [textEntry "bin/api" "new"]
      (manifestFor "api") := by
  have accepted : sampleService.checkForUpdate sampleVersion (.manifest (manifestFor "api")) =
      .ok (some (manifestFor "api")) := by decide
  refine (filesStay_iff sampleVersion_text accepted (by decide) (treePlatform_locate _)
    ⟨"", rfl⟩ _).mpr fun _ => ?_
  exact beside_of_plain (by decide)

/-- The new binary is written outside the temp directory. -/
theorem climbing_name_escapes :
    sampleService.checkForUpdate sampleVersion (.manifest (manifestFor "../etc/api")) =
        .ok (some (manifestFor "../etc/api")) ∧
      ¬ FilesStay (treePlatform [textEntry "../etc/api" "new"]) (fun _ => "00")
        (.ofText "/tmp".toList) ["tmp"] (.ofText "/tmp/api-update-2.0.0.zip".toList) ["tmp"]
        [textEntry "../etc/api" "new"] (manifestFor "../etc/api") := by
  refine ⟨by decide, fun stay => ?_⟩
  have offers : Offers [textEntry "../etc/api" "new"] "../etc/api" :=
    ⟨_, _, by rfl, rfl⟩
  have leads := (extractBinary_beside_iff (treePlatform_locate _) ⟨"", rfl⟩).mp stay.binary offers
    ["etc"] (by decide)
  revert leads
  decide

end ApiBoilerplate.Updater
