import ApiBoilerplate.Installer.Install

/-!
# What an installation leaves

The files after an installation that succeeds, one by one, and what a second one makes of
them. A bundle is installed as it is, unless the installer is run from where it was
installed: then every binary is copied over itself.
-/

namespace ApiBoilerplate.Installer

open Foundation
open Updater (FilePath File FileSystem IoError)

/-- A name that stands for an entry of a directory. -/
def EntryName (name : String) : Prop :=
  '/' ∉ name.toList ∧ UnixPath.steps name.toList = true ∧ name ≠ ".."

instance (name : String) : Decidable (EntryName name) := inferInstanceAs (Decidable (_ ∧ _))

section Installed
variable {δ Content : Type} {setup : Setup δ Content} {plan : Plan}

/-- The directories of the bundle, of the installation and of its configuration. -/
structure Placed (setup : Setup δ Content) (plan : Plan) (ds di dc : δ) : Prop where
  source : setup.dirs.resolve (.ofText (sourceDir setup).toList) = some ds
  target : setup.dirs.resolve (.ofText plan.installDir.toList) = some di
  config : setup.dirs.resolve (.ofText plan.configDir.toList) = some dc

theorem locate_joinPath {dir name : String} {d : δ}
    (resolved : setup.dirs.resolve (.ofText dir.toList) = some d) (entry : EntryName name) :
    setup.locate (joinPath dir name) = some ⟨d, name⟩ := by
  obtain ⟨plain, kept, named⟩ := entry
  have located := setup.dirs.locate_join_of_plain resolved plain kept
    (by rwa [String.ofList_toList])
  rw [Setup.locate, joinPath, String.toList_ofList, UnixPath.ofText_pushText, located,
    String.ofList_toList]
  rfl

/-- The mode bits of a binary, if they could be set. -/
def Setup.executable (setup : Setup δ Content) (name : String) (file : File Content) :
    File Content :=
  match setup.metadata name, setup.setPermissions name with
  | none, none => { file with mode := file.mode ||| 0o111 }
  | _, _ => file

variable [DecidableEq δ]

/-- What the installation makes of one binary of the bundle. -/
def Setup.binary (setup : Setup δ Content) (ds di : δ) (host : Host δ Content) (name : String) :
    Option (File Content) :=
  match host.files ⟨ds, name⟩ with
  | none => host.files ⟨di, name⟩
  | some file =>
    some (setup.executable name
      { file with content := if ds = di then setup.emptied else file.content })

variable {host t : Host δ Content} {r : FilePath δ}

theorem copyFile_ok {fault : Option (IoError × Option (File Content))} {src dst : String}
    {p q : FilePath δ} (from_ : setup.locate src = some p) (to_ : setup.locate dst = some q)
    (done : (copyFile setup fault src dst).outcome host = (.ok (), t)) :
    ∃ file, host.files p = some file ∧ t = host.put q (some { file with
      content := if p = q then setup.emptied else file.content }) := by
  change copyFile setup fault src dst host = _ at done
  simp only [copyFile, from_, to_] at done
  split at done
  · cases done
  · cases done
  · rename_i file found
    cases done
    exact ⟨file, found, rfl⟩

theorem setExecutable_ok {name path : String} {p : FilePath δ} {file : File Content}
    (located : setup.locate path = some p) (found : host.files p = some file)
    (done : (setExecutable setup name path).outcome host = (.ok (), t)) :
    t.commands = host.commands ∧
      t.files r = if r = p then some (setup.executable name file) else host.files r := by
  change setExecutable setup name path host = _ at done
  simp only [setExecutable, located, found] at done
  have same : (if r = p then some file else host.files r) = host.files r := by
    split
    · rename_i here
      rw [here, found]
    · rfl
  unfold Setup.executable
  cases readable : setup.metadata name with
  | some e =>
    rw [readable] at done
    cases done
    exact ⟨rfl, same.symm⟩
  | none =>
    cases settable : setup.setPermissions name with
    | some e =>
      rw [readable, settable] at done
      cases done
      exact ⟨rfl, same.symm⟩
    | none =>
      rw [readable, settable] at done
      cases done
      exact ⟨rfl, put_files ..⟩

theorem writeFile_ok {fault : Option (IoError × Option (File Content))} {path contents : String}
    {refused : IoError → String}
    (done : (writeFile setup fault path contents refused).outcome host = (.ok (), t)) :
    ∃ p, setup.locate path = some p ∧ t.commands = host.commands ∧
      ∀ r, t.files r = if r = p then
        some ⟨setup.text contents, ((host.files p).map File.mode).getD setup.newMode⟩
      else host.files r := by
  change writeFile setup fault path contents refused host = _ at done
  unfold writeFile at done
  split at done
  · cases done
  · rename_i p located
    split at done
    · cases done
    · cases done
      exact ⟨p, located, rfl, fun r => put_files ..⟩

omit [DecidableEq δ] in
theorem runCmd_ok {command : List String}
    (done : (runCmd setup command).outcome host = (.ok (), t)) :
    t.files = host.files ∧ t.commands = host.commands ++ [command] := by
  change runCmd setup command host = _ at done
  unfold runCmd at done
  split at done
  · cases done
  · cases done
    exact ⟨rfl, rfl⟩

omit [DecidableEq δ] in
theorem createDirAll_ok {path : String}
    (done : (createDirAll setup path).outcome host = (.ok (), t)) : t = host := by
  change createDirAll setup path host = _ at done
  unfold createDirAll at done
  split at done
  · cases done
    rfl
  · cases done
    rfl
  · cases done

variable {ds di dc : δ}

theorem installBinary_ok {name : String} (placed : Placed setup plan ds di dc)
    (entry : EntryName name)
    (done : (installBinary setup plan name).outcome host = (.ok (), t)) :
    t.commands = host.commands ∧ ∀ r, t.files r =
      if r = ⟨di, name⟩ then setup.binary ds di host name else host.files r := by
  have from_ := locate_joinPath placed.source entry
  have to_ := locate_joinPath placed.target entry
  have found : (setup.pathExists (joinPath (sourceDir setup) name)).outcome host =
      (.ok (host.files ⟨ds, name⟩).isSome, host) := by
    change (Except.ok _, host) = _
    rw [from_, Option.bind_some]
  rw [installBinary, Fallible.outcome_bind_ok found] at done
  unfold Setup.binary
  cases held : host.files ⟨ds, name⟩ with
  | none =>
    rw [held] at done
    cases done
    refine ⟨rfl, fun r => ?_⟩
    split
    · rename_i here
      rw [here]
    · rfl
  | some file =>
    rw [held] at done
    obtain ⟨_, copied, first, second⟩ := Fallible.ok_of_outcome_bind done
    obtain ⟨file', held', rfl⟩ := copyFile_ok from_ to_ first
    obtain rfl : file = file' := Option.some.inj (held.symm.trans held')
    have there : (host.put ⟨di, name⟩ (some { file with
        content := if (⟨ds, name⟩ : FilePath δ) = ⟨di, name⟩ then setup.emptied
          else file.content })).files ⟨di, name⟩ = _ := Function.update_self ..
    refine ⟨(setExecutable_ok (r := ⟨di, name⟩) to_ there second).1, fun r => ?_⟩
    rw [(setExecutable_ok (r := r) to_ there second).2, put_files]
    by_cases here : r = ⟨di, name⟩
    · simp [here]
    · simp [here]

theorem installBinaries_ok {names : List String} (placed : Placed setup plan ds di dc)
    (entries : ∀ name ∈ names, EntryName name) (distinct : names.Nodup)
    (done : (installBinaries setup plan names).outcome host = (.ok (), t)) :
    t.commands = host.commands ∧ ∀ r, t.files r =
      if r.parent = di ∧ r.fileName ∈ names then setup.binary ds di host r.fileName
      else host.files r := by
  induction names generalizing host with
  | nil =>
    cases done
    exact ⟨rfl, fun r => by simp⟩
  | cons name names ih =>
    obtain ⟨entry, entries⟩ := List.forall_mem_cons.mp entries
    obtain ⟨fresh, distinct⟩ := List.nodup_cons.mp distinct
    obtain ⟨_, next, first, rest⟩ := Fallible.ok_of_outcome_bind done
    obtain ⟨ran, one⟩ := installBinary_ok placed entry first
    obtain ⟨ran', others⟩ := ih entries distinct rest
    refine ⟨ran'.trans ran, fun r => ?_⟩
    have same : ∀ other ∈ names, setup.binary ds di next other = setup.binary ds di host other := by
      intro other listed
      have apart : other ≠ name := fun same => fresh (same ▸ listed)
      simp [Setup.binary, one, apart]
    obtain ⟨dir, file⟩ := r
    rw [others, one]
    by_cases here : dir = di
    · subst here
      by_cases listed : file ∈ names
      · have apart : file ≠ name := fun same => fresh (same ▸ listed)
        simp [listed, same file listed]
      · by_cases first : file = name
        · simp [first, fresh]
        · simp [listed, first]
    · simp [here]

theorem binaryNames_entries : ∀ name ∈ binaryNames, EntryName name := by decide

omit [DecidableEq δ] in
theorem Placed.configPath (placed : Placed setup plan ds di dc) :
    setup.locate plan.configPath = some ⟨dc, "default.yaml"⟩ :=
  locate_joinPath placed.config (by decide)

theorem writeDefaultConfig_ok {defaultConfig : String} (placed : Placed setup plan ds di dc)
    (done : (writeDefaultConfig setup defaultConfig plan).outcome host = (.ok (), t)) :
    t.commands = host.commands ∧ ∀ r, t.files r =
      if r = ⟨dc, "default.yaml"⟩ then
        some ((host.files ⟨dc, "default.yaml"⟩).getD ⟨setup.text defaultConfig, setup.newMode⟩)
      else host.files r := by
  have found : (setup.pathExists plan.configPath).outcome host =
      (.ok (host.files ⟨dc, "default.yaml"⟩).isSome, host) := by
    change (Except.ok _, host) = _
    rw [placed.configPath, Option.bind_some]
  rw [writeDefaultConfig, Fallible.outcome_bind_ok found] at done
  cases held : host.files ⟨dc, "default.yaml"⟩ with
  | none =>
    rw [held] at done
    obtain ⟨p, located, ran, written⟩ := writeFile_ok done
    obtain rfl : ⟨dc, "default.yaml"⟩ = p := Option.some.inj (placed.configPath.symm.trans located)
    refine ⟨ran, fun r => ?_⟩
    rw [written, held]
    rfl
  | some file =>
    rw [held] at done
    cases done
    refine ⟨rfl, fun r => ?_⟩
    split
    · rename_i here
      rw [here, held, Option.getD_some]
    · rfl

omit [DecidableEq δ] in
/-- A suffix of the text is one of the file's name. -/
theorem locate_suffix {path suffix : String} {u : FilePath δ} (plain : '/' ∉ suffix.toList)
    (kept : ∀ base, UnixPath.steps (base ++ suffix.toList) = true)
    (named : ∀ base, String.ofList (base ++ suffix.toList) ≠ "..")
    (located : setup.locate (path ++ suffix) = some u) :
    suffix.toList <:+ u.fileName.toList := by
  rw [Setup.locate, String.toList_append, UnixPath.ofText_append plain (kept _),
    Directories.locate_append _ (named _), Option.map_map] at located
  obtain ⟨d, _, rfl⟩ := Option.map_eq_some_iff.mp located
  change _ <:+ (String.ofList _).toList
  rw [String.toList_ofList]
  exact List.suffix_append _ _

omit [DecidableEq δ] in
/-- Whatever the service is called, its unit has a name of its own. -/
theorem locate_unit {u : FilePath δ} (located : setup.locate plan.unitPath = some u) :
    ".service".toList <:+ u.fileName.toList := by
  rw [Plan.unitPath] at located
  refine locate_suffix (by decide) (fun base => ?_) (fun base same => ?_) located
  · simp [UnixPath.steps, List.append_eq_singleton_iff]
  · have ends := congrArg (fun s : String => s.toList.getLast?) same
    simp at ends

omit [DecidableEq δ] in
theorem unit_apart {u : FilePath δ} (located : setup.locate plan.unitPath = some u) (d : δ)
    {name : String} (listed : name ∈ "default.yaml" :: binaryNames) : u ≠ ⟨d, name⟩ := by
  rintro rfl
  have ends : ".service".toList <:+ name.toList := locate_unit located
  have none : ∀ name ∈ "default.yaml" :: binaryNames, ¬ ".service".toList <:+ name.toList := by
    decide
  exact none name listed ends

/-- The service manager's commands. -/
def Plan.systemctl (plan : Plan) : List (List String) :=
  [["systemctl", "daemon-reload"], ["systemctl", "enable", plan.serviceName]] ++
    if plan.shouldStart then [["systemctl", "start", plan.serviceName]] else []

/-- What a successful installation has made of the files and asked of the service manager. -/
structure Installed (setup : Setup δ Content) (defaultConfig : String) (plan : Plan)
    (ds di dc : δ) (host t : Host δ Content) : Prop where
  binaries : ∀ name ∈ binaryNames, t.files ⟨di, name⟩ = setup.binary ds di host name
  /-- A configuration that was there is kept. -/
  config : t.files ⟨dc, "default.yaml"⟩ =
    some ((host.files ⟨dc, "default.yaml"⟩).getD ⟨setup.text defaultConfig, setup.newMode⟩)
  unit : ∃ u, setup.locate plan.unitPath = some u ∧ t.files u =
    some ⟨setup.text plan.unit, ((host.files u).map File.mode).getD setup.newMode⟩
  others : ∀ p, ¬ (p.parent = di ∧ p.fileName ∈ binaryNames) → p ≠ ⟨dc, "default.yaml"⟩ →
    setup.locate plan.unitPath ≠ some p → t.files p = host.files p
  commands : t.commands = host.commands ++ plan.systemctl

theorem perform_ok {defaultConfig : String} (placed : Placed setup plan ds di dc)
    (done : (perform setup defaultConfig plan).outcome host = (.ok (), t)) :
    Installed setup defaultConfig plan ds di dc host t := by
  unfold perform at done
  obtain ⟨_, h₁, made₁, done₁⟩ := Fallible.ok_of_outcome_bind done
  obtain ⟨_, h₂, made₂, done₂⟩ := Fallible.ok_of_outcome_bind done₁
  rw [createDirAll_ok made₂, createDirAll_ok made₁] at done₂
  obtain ⟨_, h₃, copied, done₃⟩ := Fallible.ok_of_outcome_bind done₂
  obtain ⟨_, h₄, configured, done₄⟩ := Fallible.ok_of_outcome_bind done₃
  obtain ⟨_, h₅, registered, done₅⟩ := Fallible.ok_of_outcome_bind done₄
  unfold registerService at registered
  obtain ⟨_, h₆, written, commanded⟩ := Fallible.ok_of_outcome_bind registered
  obtain ⟨_, h₇, reloaded, enabled⟩ := Fallible.ok_of_outcome_bind commanded
  obtain ⟨ran₃, files₃⟩ := installBinaries_ok placed binaryNames_entries (by decide) copied
  obtain ⟨ran₄, files₄⟩ := writeDefaultConfig_ok placed configured
  obtain ⟨u, located, ran₆, files₆⟩ := writeFile_ok written
  obtain ⟨files₇, ran₇⟩ := runCmd_ok reloaded
  obtain ⟨files₅, ran₅⟩ := runCmd_ok enabled
  have last : t.files = h₅.files ∧ t.commands = h₅.commands ++
      if plan.shouldStart then [["systemctl", "start", plan.serviceName]] else [] := by
    split at done₅
    · rename_i starts
      rw [if_pos starts]
      exact runCmd_ok done₅
    · rename_i stays
      cases done₅
      rw [if_neg stays, List.append_nil]
      exact ⟨rfl, rfl⟩
  have files (r : FilePath δ) : t.files r = if r = u then
        some ⟨setup.text plan.unit, ((h₄.files u).map File.mode).getD setup.newMode⟩
      else h₄.files r := by
    rw [last.1, files₅, files₇, files₆]
  have named (name : String) (listed : name ∈ binaryNames) : name ≠ "default.yaml" := by
    rintro rfl
    exact absurd listed (by decide)
  constructor
  · intro name listed
    have apart : (⟨di, name⟩ : FilePath δ) ≠ u :=
      (unit_apart located di (List.mem_cons_of_mem _ listed)).symm
    have other : (⟨di, name⟩ : FilePath δ) ≠ ⟨dc, "default.yaml"⟩ :=
      fun same => named name listed (congrArg FilePath.fileName same)
    rw [files, if_neg apart, files₄, if_neg other, files₃, if_pos ⟨rfl, listed⟩]
  · have apart : (⟨dc, "default.yaml"⟩ : FilePath δ) ≠ u :=
      (unit_apart located dc List.mem_cons_self).symm
    have other : ¬ (dc = di ∧ "default.yaml" ∈ binaryNames) :=
      fun both => named _ both.2 rfl
    rw [files, if_neg apart, files₄, if_pos rfl, files₃, if_neg other]
  · refine ⟨u, located, ?_⟩
    have other : u ≠ ⟨dc, "default.yaml"⟩ := unit_apart located dc List.mem_cons_self
    have unbundled : ¬ (u.parent = di ∧ u.fileName ∈ binaryNames) :=
      fun both => unit_apart located u.parent (List.mem_cons_of_mem _ both.2) rfl
    rw [files, if_pos rfl, files₄, if_neg other, files₃, if_neg unbundled]
  · intro p unbundled other apart
    have nowhere : p ≠ u := fun same => apart (same ▸ located)
    rw [files, if_neg nowhere, files₄, if_neg other, files₃, if_neg unbundled]
  · rw [last.2, ran₅, ran₇, ran₆, ran₄, ran₃, Plan.systemctl]
    simp

variable {defaultConfig : String} {flags : Flags}

theorem cmdInstall_performed
    (done : (cmdInstall setup defaultConfig flags).outcome host = (.ok true, t)) :
    (perform setup defaultConfig (gather setup flags)).outcome host = (.ok (), t) := by
  unfold cmdInstall at done
  split at done
  · cases done
  · split at done
    · cases done
    · obtain ⟨_, h, performed, ended⟩ := Fallible.ok_of_outcome_bind done
      cases ended
      exact performed

/-- An installation that succeeds has every binary of the bundle in place, cut to nothing
where the bundle is what it was installed from, keeps a configuration that was there, and
changes no other file but the unit. -/
theorem install_ok (placed : Placed setup (gather setup flags) ds di dc)
    (done : (cmdInstall setup defaultConfig flags).outcome host = (.ok true, t)) :
    Installed setup defaultConfig (gather setup flags) ds di dc host t :=
  perform_ok placed (cmdInstall_performed done)

/-- What a successful installation leaves of one binary is what another one would. -/
theorem Installed.binary (installed : Installed setup defaultConfig plan ds di dc host t)
    (apart : ds ≠ di) {name : String} (listed : name ∈ binaryNames) :
    setup.binary ds di t name = t.files ⟨di, name⟩ := by
  have unbundled : ¬ ((⟨ds, name⟩ : FilePath δ).parent = di ∧
      (⟨ds, name⟩ : FilePath δ).fileName ∈ binaryNames) := fun both => apart both.1
  have other : (⟨ds, name⟩ : FilePath δ) ≠ ⟨dc, "default.yaml"⟩ := by
    intro same
    have named : name = "default.yaml" := congrArg FilePath.fileName same
    exact absurd (named ▸ listed) (by decide)
  have nowhere : setup.locate plan.unitPath ≠ some ⟨ds, name⟩ :=
    fun located => unit_apart located ds (List.mem_cons_of_mem _ listed) rfl
  have source := installed.others ⟨ds, name⟩ unbundled other nowhere
  have made := installed.binaries name listed
  unfold Setup.binary at made ⊢
  rw [source]
  cases held : host.files ⟨ds, name⟩ with
  | none => rfl
  | some file =>
    rw [held] at made
    exact made.symm

end Installed

def sampleSetup (exeDirectory : String) : Setup (List String) String where
  around :=
    { privileges := .ok ()
      isTty := false
      menu := none
      input := fun _ => none
      confirm := none
      exeDirectory := some exeDirectory
      commandsRun := true
      pathExists := fun _ => true }
  start := none
  proceed := none
  dirs := Updater.nameTree
  emptied := ""
  text := id
  newMode := 0o644
  mkdir := fun _ => none
  copyBinary := fun _ => none
  metadata := fun _ => none
  setPermissions := fun _ => none
  writeConfig := none
  writeUnit := none
  runs := fun _ => .ok true

/-- The old binary and its configuration, and the new binary that is to replace it. -/
def sampleHost : Host (List String) String where
  files p :=
    if p = ⟨["tmp", "bundle"], "api"⟩ then some ⟨"2.0.0", 0o644⟩
    else if p = ⟨["opt", "api"], "api"⟩ then some ⟨"1.0.0", 0o755⟩
    else if p = ⟨["opt", "api", "config"], "default.yaml"⟩ then some ⟨"port: 80", 0o600⟩
    else none
  commands := []

def sampleRun (exeDirectory : String) : Install (List String) String Bool :=
  cmdInstall (sampleSetup exeDirectory) "port: 8080" .default

def sampleInstalled (exeDirectory : String) : Host (List String) String :=
  ((sampleRun exeDirectory).outcome sampleHost).2

theorem sample_placed (exeDirectory : String) {ds : List String}
    (resolved : Updater.nameTree.resolve (.ofText exeDirectory.toList) = some ds) :
    Placed (sampleSetup exeDirectory) (gather (sampleSetup exeDirectory) .default) ds
      ["opt", "api"] ["opt", "api", "config"] where
  source := resolved
  target := by
    change Updater.nameTree.resolve (.ofText "/opt/api".toList) = _
    decide +kernel
  config := by
    change Updater.nameTree.resolve (.ofText (joinPath "/opt/api" "config").toList) = _
    decide +kernel

/-- The bundle replaces the old binary and keeps its configuration; the installer that was
installed, run where it is, empties the binary. -/
theorem install_ok_sample :
    Installed (sampleSetup "/tmp/bundle") "port: 8080" (gather (sampleSetup "/tmp/bundle") .default)
        ["tmp", "bundle"] ["opt", "api"] ["opt", "api", "config"] sampleHost
        (sampleInstalled "/tmp/bundle") ∧
      (sampleInstalled "/tmp/bundle").files ⟨["opt", "api"], "api"⟩ = some ⟨"2.0.0", 0o755⟩ ∧
      (sampleInstalled "/opt/api").files ⟨["opt", "api"], "api"⟩ = some ⟨"", 0o755⟩ := by
  have done : (sampleRun "/tmp/bundle").outcome sampleHost =
      (.ok true, sampleInstalled "/tmp/bundle") := Fallible.outcome_of_ok (by decide +kernel)
  exact ⟨install_ok (sample_placed "/tmp/bundle" (by decide +kernel)) done, by decide +kernel,
    by decide +kernel⟩

section Again
variable {δ Content : Type} [DecidableEq δ] {setup : Setup δ Content} {ds di dc : δ}
  {host t : Host δ Content} {defaultConfig : String} {flags : Flags}

/-- To install the same bundle again changes no file. -/
theorem install_again (placed : Placed setup (gather setup flags) ds di dc) (apart : ds ≠ di)
    {t' : Host δ Content}
    (first : (cmdInstall setup defaultConfig flags).outcome host = (.ok true, t))
    (second : (cmdInstall setup defaultConfig flags).outcome t = (.ok true, t')) :
    t'.files = t.files := by
  have once := perform_ok placed (cmdInstall_performed first)
  have twice := perform_ok placed (cmdInstall_performed second)
  obtain ⟨u, located, unit⟩ := once.unit
  obtain ⟨u', located', unit'⟩ := twice.unit
  obtain rfl : u = u' := Option.some.inj (located.symm.trans located')
  funext p
  by_cases bundled : p.parent = di ∧ p.fileName ∈ binaryNames
  · obtain ⟨rfl, listed⟩ := bundled
    exact (twice.binaries _ listed).trans (once.binary apart listed)
  by_cases config : p = ⟨dc, "default.yaml"⟩
  · rw [config, twice.config, once.config]
    rfl
  by_cases service : setup.locate (gather setup flags).unitPath = some p
  · obtain rfl : u = p := Option.some.inj (located.symm.trans service)
    rw [unit', unit]
    rfl
  · exact twice.others p bundled config service

end Again

theorem install_again_sample :
    ((sampleRun "/tmp/bundle").outcome (sampleInstalled "/tmp/bundle")).2.files =
      (sampleInstalled "/tmp/bundle").files := by
  have first : (sampleRun "/tmp/bundle").outcome sampleHost =
      (.ok true, sampleInstalled "/tmp/bundle") := Fallible.outcome_of_ok (by decide +kernel)
  have second : (sampleRun "/tmp/bundle").outcome (sampleInstalled "/tmp/bundle") =
      (.ok true, ((sampleRun "/tmp/bundle").outcome (sampleInstalled "/tmp/bundle")).2) :=
    Fallible.outcome_of_ok (by decide +kernel)
  have placed : Placed (sampleSetup "/tmp/bundle") (gather (sampleSetup "/tmp/bundle") .default)
      ["tmp", "bundle"] ["opt", "api"] ["opt", "api", "config"] :=
    sample_placed "/tmp/bundle" (by decide +kernel)
  exact install_again placed (by decide) first second

end ApiBoilerplate.Installer
