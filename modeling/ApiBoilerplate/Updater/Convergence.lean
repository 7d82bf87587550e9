import ApiBoilerplate.Updater.Config
import ApiBoilerplate.Updater.Pending

/-!
# A version is installed once

The service restarts from the binary an update has put in place, with the
configuration it had. The check compares the manifest with the configured
version, so the new binary counts as new only if no source of the configuration
names a version.
-/

namespace ApiBoilerplate.Updater

open Foundation Http

universe u
variable {V : Type u} [LinearOrder V]

section Check
variable {parse : String → Except String V} {service : UpdaterService} {manifest : VersionManifest}

theorem checkForUpdate_same {version : V} (configured : service.config.checkUrl ≠ "")
    (same : service.config.currentVersion = manifest.version)
    (parsed : parse manifest.version = .ok version) :
    service.checkForUpdate parse (.manifest manifest) = .ok none := by
  simp [UpdaterService.checkForUpdate, configured, same, parsed]

end Check

section Restart
variable {Value : Type} {parse : String → Except String V} {conv : Conversions Value}
  {sources : Sources Value} {compiled : String} {config : UpdaterConfig}
  {manifest : VersionManifest}

variable (parse conv sources) in
/-- After a restart from the binary of the manifest, the same manifest is no news. -/
def SettlesOn (manifest : VersionManifest) : Prop :=
  ∃ config, sources.loadUpdater conv manifest.version = .ok config ∧
    (UpdaterService.mk config).checkForUpdate parse (.manifest manifest) = .ok none

/-- An offered version is not offered again exactly if no source names one. -/
theorem settlesOn_iff (loaded : sources.loadUpdater conv compiled = .ok config)
    (offered : (UpdaterService.mk config).checkForUpdate parse (.manifest manifest) =
      .ok (some manifest)) :
    SettlesOn parse conv sources manifest ↔ sources.Unset "updater.current_version" := by
  obtain ⟨configured, current, remote, _, parsed, _⟩ := checkForUpdate_some offered
  constructor
  · rintro ⟨restarted, reloaded, none⟩
    by_contra set
    rw [Sources.loadUpdater_set conv set manifest.version compiled, loaded] at reloaded
    cases reloaded
    rw [offered] at none
    cases none
  · intro unset
    obtain ⟨_, reloaded⟩ := Sources.loadUpdater_unset unset loaded manifest.version
    exact ⟨_, reloaded, checkForUpdate_same configured rfl parsed⟩

end Restart

/-- Steps of the background checker and of the tasks it starts, and manual checks. -/
def Label.isBackground : Label → Bool
  | .request _ | .mark _ | .trigger _ => false
  | _ => true

section Process
variable {parse : String → Except String V} {app : AppState} {s t : State}

variable (parse app) in
/-- Nobody but the checker raises the flag, and whatever is applied was offered. -/
structure Background (s : State) : Prop where
  unchecked : ∀ r m, s.requests r ≠ .checked m
  cleared : ∀ m, s.checker = .cleared m → s.status.inProgress = false
  checking : ∀ m, s.checker = .stored m ∨ s.checker = .cleared m ∨ s.checker = .marked m →
    Newer parse app.config.currentVersion m
  applying : ∀ a ∈ s.applies, Newer parse app.config.currentVersion a.manifest

theorem init_background : Background parse app (machine parse app).init := by
  refine ⟨nofun, nofun, ?_, nofun⟩
  rintro m (stored | cleared | marked)
  · cases stored
  · cases cleared
  · cases marked

theorem Background.careful (background : Background parse app s) {l : Label}
    (own : l.isBackground = true) (stepped : step parse app s l = some t) : ¬ Careless s l := by
  cases step_move stepped with
  | refused | passed | mark | trigger => cases own
  | @checkerMark m cleared =>
    rintro (up | ⟨r, m', checked⟩)
    · rw [background.cleared m cleared] at up
      cases up
    · exact background.unchecked r m' checked
  | manualCheck | tick | look | checkerTrigger | downloaded | downloadFailed | spawned
  | spawnFailed | resetProgress => exact fun careless => careless.elim

theorem Offered.checking {config : UpdaterConfig} (offered : Offered parse config s)
    (m : VersionManifest)
    (busy : s.checker = .stored m ∨ s.checker = .cleared m ∨ s.checker = .marked m) :
    Newer parse config.currentVersion m := by
  refine offered.handed m (Or.inr (Or.inl ?_))
  rcases busy with stored | cleared | marked
  · rw [stored]
    rfl
  · rw [cleared]
    rfl
  · rw [marked]
    rfl

theorem Offered.applying {config : UpdaterConfig} (offered : Offered parse config s) (a : Apply)
    (listed : a ∈ s.applies) : Newer parse config.currentVersion a.manifest :=
  offered.handed a.manifest (Or.inr (Or.inr ⟨a, listed, rfl⟩))

/-- The checker leaves the requests alone, and clears a manifest with the flag down. -/
theorem background_step (background : Background parse app s) {l : Label}
    (own : l.isBackground = true) (stepped : step parse app s l = some t) :
    t.requests = s.requests ∧ ∀ m, t.checker = .cleared m → t.status.inProgress = false := by
  cases step_move stepped with
  | refused | passed | mark | trigger => cases own
  | @manualCheck fetched now =>
    refine ⟨rfl, fun m cleared => ?_⟩
    exact (checkForUpdate_inProgress parse app fetched now s.status).trans
      (background.cleared m cleared)
  | tick =>
    unfold tick
    split
    · refine ⟨rfl, fun m cleared => ?_⟩
      dsimp only at cleared
      split at cleared <;> cases cleared
    · exact ⟨rfl, background.cleared⟩
    · exact ⟨rfl, background.cleared⟩
  | look =>
    refine ⟨rfl, fun m cleared => ?_⟩
    dsimp only at cleared
    split at cleared
    · cases cleared
    · rename_i down
      simpa using down
  | checkerMark | checkerTrigger => exact ⟨rfl, fun m cleared => by cases cleared⟩
  | downloaded | downloadFailed | spawned | spawnFailed => exact ⟨rfl, background.cleared⟩
  | resetProgress => exact ⟨rfl, fun _ _ => rfl⟩

theorem step_background (background : Background parse app s) (offered : Offered parse app.config t)
    {l : Label} (own : l.isBackground = true) (stepped : step parse app s l = some t) :
    Background parse app t := by
  obtain ⟨requests, cleared⟩ := background_step background own stepped
  refine ⟨fun r m => ?_, cleared, offered.checking, offered.applying⟩
  rw [requests]
  exact background.unchecked r m

end Process

/-- An installation: the binary in place, the process that runs it, and the
manifests whose binaries were installed so far. -/
structure Installation where
  compiled : String
  app : AppState
  process : State
  applied : List VersionManifest

inductive InstallationLabel where
  | within (l : Label)
  /-- The updater has put the binary of a task in place, and it is started. -/
  | restart (task : Nat)
  /-- The process is started again from the binary it had. -/
  | relaunch

namespace Installation
variable {Value : Type} (parse : String → Except String V) (conv : Conversions Value)
  (sources : Sources Value)

def boot (compiled : String) (config : UpdaterConfig) (applied : List VersionManifest) :
    Installation :=
  ⟨compiled, buildState config, (machine parse (buildState config)).init, applied⟩

/-- A binary whose configuration does not load does not come up. -/
def launch (compiled : String) (applied : List VersionManifest) : Option Installation :=
  match sources.loadUpdater conv compiled with
  | .ok config => some (boot parse compiled config applied)
  | .error _ => none

def step (s : Installation) : InstallationLabel → Option Installation
  | .within l =>
    if l.isBackground then
      (Updater.step parse s.app s.process l).map (fun process => { s with process })
    else none
  | .restart task =>
    match s.process.applies[task]? with
    | some ⟨manifest, .takenOver⟩ =>
      launch parse conv sources manifest.version (s.applied ++ [manifest])
    | _ => none
  | .relaunch => launch parse conv sources s.compiled s.applied

/-- The runs of the background checker of an installation. -/
def machine (compiled : String) (config : UpdaterConfig) :
    Machine Installation InstallationLabel where
  init := boot parse compiled config []
  step := step parse conv sources

end Installation

section Runs
variable {Value : Type} {parse : String → Except String V} {conv : Conversions Value}
  {sources : Sources Value} {s t : Installation}

variable (parse conv sources) in
/-- The configured version is that of the binary in place, and every manifest
installed so far is at most that new, each newer than those before it. -/
structure Converging (s : Installation) : Prop where
  loaded : sources.loadUpdater conv s.compiled = .ok s.app.config
  built : s.app = buildState s.app.config
  process : (machine parse s.app).ReachableWhere (fun p l => ¬ Careless p l) s.process
  background : Background parse s.app s.process
  increasing : s.applied.Pairwise (fun a b => Newer parse a.version b)
  bounded : ∀ a ∈ s.applied, ∃ installed current, parse a.version = .ok installed ∧
    parse s.compiled = .ok current ∧ installed ≤ current

theorem boot_converging {compiled : String} {config : UpdaterConfig}
    {applied : List VersionManifest} (loaded : sources.loadUpdater conv compiled = .ok config)
    (increasing : applied.Pairwise (fun a b => Newer parse a.version b))
    (bounded : ∀ a ∈ applied, ∃ installed current, parse a.version = .ok installed ∧
      parse compiled = .ok current ∧ installed ≤ current) :
    Converging parse conv sources (Installation.boot parse compiled config applied) :=
  ⟨loaded, rfl, ⟨[], .start⟩, init_background, increasing, bounded⟩

/-- A newly installed manifest is newer than all those before it. -/
theorem restart_converging (unset : sources.Unset "updater.current_version")
    (converging : Converging parse conv sources s) {task : Nat} {manifest : VersionManifest}
    (takenOver : s.process.applies[task]? = some ⟨manifest, .takenOver⟩)
    (launched : Installation.launch parse conv sources manifest.version
      (s.applied ++ [manifest]) = some t) : Converging parse conv sources t := by
  obtain ⟨same, reloaded⟩ := Sources.loadUpdater_unset unset converging.loaded manifest.version
  rw [Installation.launch, reloaded] at launched
  cases launched
  obtain ⟨current, remote, parsed, parsed', newer⟩ :=
    converging.background.applying _ (List.mem_of_getElem? takenOver)
  rw [same] at parsed
  have older : ∀ a ∈ s.applied, ∃ installed, parse a.version = .ok installed ∧
      installed < remote := by
    intro a listed
    obtain ⟨installed, current', parsedA, parsedC, upTo⟩ := converging.bounded a listed
    rw [parsed] at parsedC
    cases parsedC
    exact ⟨installed, parsedA, lt_of_le_of_lt upTo newer⟩
  refine boot_converging reloaded ?_ ?_
  · refine List.pairwise_append.mpr ⟨converging.increasing, List.pairwise_singleton _ _, ?_⟩
    intro a listed b new
    obtain rfl := List.mem_singleton.mp new
    obtain ⟨installed, parsedA, below⟩ := older a listed
    exact ⟨installed, remote, parsedA, parsed', below⟩
  · intro a listed
    rcases List.mem_append.mp listed with earlier | this
    · obtain ⟨installed, parsedA, below⟩ := older a earlier
      exact ⟨installed, remote, parsedA, parsed', le_of_lt below⟩
    · rw [List.mem_singleton.mp this]
      exact ⟨remote, remote, parsed', parsed', le_refl remote⟩

theorem step_converging (unset : sources.Unset "updater.current_version")
    (converging : Converging parse conv sources s) {l : InstallationLabel}
    (stepped : Installation.step parse conv sources s l = some t) :
    Converging parse conv sources t := by
  cases l with
  | within l =>
    simp only [Installation.step] at stepped
    split at stepped
    · rename_i own
      obtain ⟨process, moved, rfl⟩ := Option.map_eq_some_iff.mp stepped
      have next := converging.process.next (converging.background.careful own moved) moved
      have offered : Offered parse s.app.config process := by
        have reach := next.reachable
        rw [converging.built] at reach
        exact reachable_offered reach
      exact ⟨converging.loaded, converging.built, next,
        step_background converging.background offered own moved, converging.increasing,
        converging.bounded⟩
    · cases stepped
  | restart task =>
    simp only [Installation.step] at stepped
    split at stepped
    · rename_i manifest takenOver
      exact restart_converging unset converging takenOver stepped
    · cases stepped
  | relaunch =>
    simp only [Installation.step, Installation.launch, converging.loaded] at stepped
    cases stepped
    exact boot_converging converging.loaded converging.increasing converging.bounded

theorem Converging.nodup (converging : Converging parse conv sources s) : s.applied.Nodup := by
  refine converging.increasing.imp ?_
  rintro a b ⟨installed, remote, parsed, parsed', newer⟩ same
  rw [same, parsed'] at parsed
  cases parsed
  exact lt_irrefl _ newer

end Runs

/-- An update that was applied is not offered again exactly if no source of the
configuration names a version, and then no manifest is installed twice. -/
theorem update_converges_iff {Value : Type} (parse : String → Except String V)
    (conv : Conversions Value) (sources : Sources Value) {compiled : String}
    {config : UpdaterConfig} (loaded : sources.loadUpdater conv compiled = .ok config) :
    (∀ manifest, (UpdaterService.mk config).checkForUpdate parse (.manifest manifest) =
        .ok (some manifest) →
      (SettlesOn parse conv sources manifest ↔ sources.Unset "updater.current_version")) ∧
    (sources.Unset "updater.current_version" →
      ∀ s, (Installation.machine parse conv sources compiled config).Reachable s →
        s.applied.Nodup ∧ ∀ i j, s.process.ActiveAt i → s.process.ActiveAt j → i = j) := by
  refine ⟨fun manifest offered => settlesOn_iff loaded offered, fun unset s reach => ?_⟩
  have converging : Converging parse conv sources s := by
    refine Machine.ReachableWhere.invariant (I := Converging parse conv sources) ?_ ?_ reach
    · exact boot_converging loaded List.Pairwise.nil nofun
    · exact fun _ _ _ converging _ stepped => step_converging unset converging stepped
  obtain ⟨exclusive, ready⟩ := exclusive_of_careful converging.process
  have one : AtMostOne parse s.app s.process := atMostOne_of_exclusive exclusive ready
  exact ⟨converging.nodup, one.single⟩

section Shipped

inductive ConfigValue where
  | boolean (b : Bool)
  | integer (n : Nat)
  | text (s : String)

def configCrate : Conversions ConfigValue where
  toBool
    | .boolean b => .ok b
    | .integer n => .ok (n ≠ 0)
    | .text s =>
      if s ∈ ["1", "true", "on", "yes"] then .ok true
      else if s ∈ ["0", "false", "off", "no"] then .ok false
      else .error "invalid type: string, expected a boolean"
  toNat
    | .boolean b => .ok b.toNat
    | .integer n => .ok n
    | .text s =>
      match s.toNat? with
      | some n => .ok n
      | none => .error "invalid type: string, expected an integer"
  toText
    | .boolean b => .ok (if b then "true" else "false")
    | .integer n => .ok (toString n)
    | .text s => .ok s

/-- The `updater` section of `default.yaml`, but for the version. -/
def updaterSection : List (String × ConfigValue) :=
  [("updater.enabled", .boolean false),
    ("updater.check_url", .text "https://example.com/releases/latest/manifest.json"),
    ("updater.auto_update", .boolean false),
    ("updater.check_interval_seconds", .integer 3600),
    ("updater.restart_mode", .text "supervisor")]

/-- An operator switches the updater on, by the environment. -/
def updaterOn : Layer ConfigValue := fun key =>
  [("updater.enabled", ConfigValue.text "true"), ("updater.auto_update", .text "true")].lookup key

def shippedSources : Sources ConfigValue where
  base := fun key =>
    (updaterSection ++ [("updater.current_version", ConfigValue.text "0.1.0")]).lookup key
  environmentFile := none
  environment := updaterOn

def versionlessSources : Sources ConfigValue where
  base := fun key => updaterSection.lookup key
  environmentFile := none
  environment := updaterOn

/-- The updater as `updaterOn` sets it, with the first release. -/
def firstConfig : UpdaterConfig where
  enabled := true
  checkUrl := "https://example.com/releases/latest/manifest.json"
  autoUpdate := true
  checkIntervalSeconds := 3600
  currentVersion := "0.1.0"

def releases (text : String) : Except String Nat :=
  if text = "0.1.0" then .ok 0
  else if text = "0.2.0" then .ok 1
  else .error "unexpected character"

def secondRelease : VersionManifest where
  version := "0.2.0"
  releaseNotes := none
  publishedAt := none
  downloadUrl := "https://example.com/releases/0.2.0/api.zip"
  checksumSha256 := "e3b0c44298fc1c149afbf4c8996fb92427ae41e4649b934ca495991b7852b855"
  binaryName := "api"

/-- A tick that finds the release, its download, and the restart. -/
def updateOnce : List InstallationLabel :=
  [.within (.tick (.manifest secondRelease) 0), .within .look, .within .checkerMark,
    .within .checkerTrigger, .within (.downloaded 0 (.ok ())), .within (.spawned 0 (.ok ())),
    .restart 0]

/-- The release is installed, and the next tick finds nothing new. -/
def updatedOnce : Installation :=
  (Installation.machine releases configCrate versionlessSources "0.1.0" firstConfig).follow
    (fun _ _ => true) (updateOnce ++ [.within (.tick (.manifest secondRelease) 0)])

theorem update_converges_iff_updatedOnce :
    updatedOnce.applied = [secondRelease] ∧ updatedOnce.applied.Nodup ∧
    SettlesOn releases configCrate versionlessSources secondRelease := by
  have unset : versionlessSources.Unset "updater.current_version" := by
    intro layer listed
    simp only [Sources.layers, versionlessSources, Option.toList_none, List.append_nil,
      List.cons_append, List.nil_append, List.mem_cons, List.not_mem_nil, or_false] at listed
    rcases listed with rfl | rfl
    · rfl
    · rfl
  have loaded : versionlessSources.loadUpdater configCrate "0.1.0" = .ok firstConfig := by rfl
  obtain ⟨offers, runs⟩ := update_converges_iff releases configCrate versionlessSources loaded
  refine ⟨by decide +kernel, ?_, ?_⟩
  · exact (runs unset updatedOnce
      ⟨_, Machine.run_follow (fun _ _ _ => trivial) (by decide +kernel)⟩).1
  · exact (offers secondRelease (by rfl)).mpr unset

/-- The configured version outlives the update, and the release is installed
again. -/
def updatedTwice : Installation :=
  (Installation.machine releases configCrate shippedSources "0.1.0" firstConfig).follow
    (fun _ _ => true) (updateOnce ++ updateOnce)

theorem shipped_config_reinstalls :
    shippedSources.loadUpdater configCrate "0.1.0" = .ok firstConfig ∧
    (UpdaterService.mk firstConfig).checkForUpdate releases (.manifest secondRelease) =
      .ok (some secondRelease) ∧
    ¬ SettlesOn releases configCrate shippedSources secondRelease ∧
    (Installation.machine releases configCrate shippedSources "0.1.0" firstConfig).Reachable
      updatedTwice ∧
    updatedTwice.applied = [secondRelease, secondRelease] := by
  have reloaded : shippedSources.loadUpdater configCrate "0.2.0" = .ok firstConfig := by rfl
  have offered : (UpdaterService.mk firstConfig).checkForUpdate releases
      (.manifest secondRelease) = .ok (some secondRelease) := by rfl
  refine ⟨by rfl, offered, ?_, ?_, by decide +kernel⟩
  · rintro ⟨config, loaded, none⟩
    rw [show secondRelease.version = "0.2.0" from rfl, reloaded] at loaded
    cases loaded
    rw [offered] at none
    cases none
  · exact ⟨_, Machine.run_follow (fun _ _ _ => trivial) (by decide +kernel)⟩

end Shipped

end ApiBoilerplate.Updater
