import ApiBoilerplate.Installer.CommandLine

/-!
# The directory that is removed

A directory given on the command line is the one that is removed, and a default is
removed only where none is given, exactly for the command lines whose flags have values
of their own.
-/

namespace ApiBoilerplate

open Foundation OptionScan

/-- The flags that say what is removed each have a value that is no flag, and the last
value counts. -/
structure Honoured (known : String → Prop) (args : List String)
    (installDir serviceName : Option String) : Prop where
  followed : Followed Guarded known args
  installDir : lastAfter "--install-dir" args = installDir.map some
  serviceName : lastAfter "--service-name" args = serviceName.map some

/-- What is removed is named on the command line, or the default where nothing is. -/
def NamedOrDefault (args : List String) (default dir : String) : Prop :=
  lastAfter "--install-dir" args = some (some dir) ∨
    (lastAfter "--install-dir" args = none ∧ dir = default)

theorem Honoured.namedOrDefault {known : String → Prop} {args : List String}
    {installDir serviceName : Option String} (honoured : Honoured known args installDir serviceName)
    (default : String) : NamedOrDefault args default (installDir.getD default) := by
  rw [NamedOrDefault, honoured.installDir]
  cases installDir with
  | none => exact Or.inr ⟨rfl, rfl⟩
  | some dir => exact Or.inl rfl

/-- A vector that splits into clean items is honoured, and no other. -/
theorem honoured_iff {kind : String → Option OptionKind} {known : String → Prop}
    {args : List String} {items : List (OptionItem String)} (reads : Reads kind args items)
    (valued : ∀ a, Guarded a → kind a = some .valued) (flags : ∀ a k, kind a = some k → known a) :
    Honoured known args (lastValue "--install-dir" items) (lastValue "--service-name" items) ↔
      ∀ item ∈ items, item.Clean Guarded known := by
  constructor
  · intro honoured
    exact (reads.followed_iff valued flags).mp honoured.followed
  · intro clean
    exact ⟨(reads.followed_iff valued flags).mpr clean,
      reads.lastAfter_eq valued clean (Or.inl rfl), reads.lastAfter_eq valued clean (Or.inr rfl)⟩

theorem honoured_cons {known : String → Prop} {arg : String} {args : List String}
    {installDir serviceName : Option String} (other : ¬ Guarded arg) :
    Honoured known (arg :: args) installDir serviceName ↔
      Honoured known args installDir serviceName := by
  have dir : lastAfter "--install-dir" (arg :: args) = lastAfter "--install-dir" args := by
    rw [lastAfter, if_neg fun same => other (Or.inl same), Option.or_none]
  have name : lastAfter "--service-name" (arg :: args) = lastAfter "--service-name" args := by
    rw [lastAfter, if_neg fun same => other (Or.inr same), Option.or_none]
  constructor
  · rintro ⟨followed, installDir, serviceName⟩
    exact ⟨(followed_cons.mp followed).2, dir ▸ installDir, name ▸ serviceName⟩
  · rintro ⟨followed, installDir, serviceName⟩
    refine ⟨followed_cons.mpr ⟨fun guarded => absurd guarded other, followed⟩, ?_, ?_⟩
    · rw [dir, installDir]
    · rw [name, serviceName]

namespace Uninstaller

/-- The flags are honoured, and so is the directory that is removed. -/
def Keeps (args : List String) : Prop :=
  ∀ flags, parseArgs args = .ok flags →
    Honoured Known (args.drop 1) flags.installDir flags.serviceName ∧
      ∀ around dir, removes around flags = some dir →
        NamedOrDefault (args.drop 1) (detected around) dir

/-- Every flag that is taken has a value of its own, where the arguments are all taken. -/
def Proper (args : List String) : Prop :=
  ∀ items, Reads kind (args.drop 1) items → ∀ item ∈ items, item.Clean Guarded Known

theorem known_of_kind (arg : String) (k : OptionKind) (flag : kind arg = some k) : Known arg := by
  refine Or.inl ?_
  rw [flag]
  nofun

theorem parseArgs_ok_iff (args : List String) (flags : Flags) :
    parseArgs args = .ok flags ↔ ∃ items, Reads kind (args.drop 1) items ∧
      flags = items.foldl (applyItem parseStep) .default := by
  rw [parseArgs, ArgumentStep.loop_eq_scan, parseStep_regular.scan_ok_iff]

theorem foldl_installDir (items : List (OptionItem String)) :
    (items.foldl (applyItem parseStep) Flags.default).installDir =
      lastValue "--install-dir" items :=
  foldl_lastValue applyItem_installDir items rfl

theorem foldl_serviceName (items : List (OptionItem String)) :
    (items.foldl (applyItem parseStep) Flags.default).serviceName =
      lastValue "--service-name" items :=
  foldl_lastValue applyItem_serviceName items rfl

/-- What is removed is the directory of the flags or the one that was detected. -/
theorem removes_eq {around : Surroundings} {flags : Flags} {dir : String}
    (removed : removes around flags = some dir) :
    dir = flags.installDir.getD (detected around) := by
  unfold removes at removed
  split at removed
  · cases removed
  · dsimp only at removed
    split_ifs at removed
    exact (Option.some.inj removed).symm

theorem keeps_iff (args : List String) : Keeps args ↔ Proper args := by
  constructor
  · intro keeps items reads
    have parsed := (parseArgs_ok_iff args _).mpr ⟨items, reads, rfl⟩
    have honoured := (keeps _ parsed).1
    rw [foldl_installDir, foldl_serviceName] at honoured
    exact (honoured_iff reads guarded_valued known_of_kind).mp honoured
  · intro proper flags parsed
    obtain ⟨items, reads, rfl⟩ := (parseArgs_ok_iff args flags).mp parsed
    have honoured := (honoured_iff reads guarded_valued known_of_kind).mpr (proper items reads)
    rw [← foldl_installDir, ← foldl_serviceName] at honoured
    refine ⟨honoured, fun around dir removed => ?_⟩
    rw [removes_eq removed]
    exact honoured.namedOrDefault _

end Uninstaller

namespace Installer

/-- The flags are honoured, and so is the directory that is removed. -/
def Keeps (args : List String) : Prop :=
  ∀ around subcommand flags, select around args = .ok (subcommand, flags) →
    Honoured Known (args.drop 1) flags.installDir flags.serviceName ∧
      ∀ dir, removes around subcommand flags = some dir →
        NamedOrDefault (args.drop 1) (defaultInstallDir (serviceName around flags)) dir

/-- Every flag that is taken has a value of its own, where the subcommand is one and the
other arguments are all taken. -/
def Proper (args : List String) : Prop :=
  (Subcommand.ofText (args.getD 1 "help")).isSome = true →
    ∀ items, Reads kind (args.drop 2) items → ∀ item ∈ items, item.Clean Guarded Known

theorem known_of_kind (arg : String) (k : OptionKind) (flag : kind arg = some k) : Known arg := by
  rw [Known, flag]
  nofun

theorem map_pair_ok {parsed : Except String Flags} {text subcommand : String} {flags : Flags} :
    parsed.map (text, ·) = .ok (subcommand, flags) ↔
      subcommand = text ∧ parsed = .ok flags := by
  cases parsed with
  | error e =>
    constructor
    · nofun
    · rintro ⟨_, ⟨⟩⟩
  | ok given =>
    constructor
    · rintro ⟨⟩
      exact ⟨rfl, rfl⟩
    · rintro ⟨rfl, ⟨⟩⟩
      rfl

theorem parseArgs_ok_iff (args : List String) (subcommand : String) (flags : Flags) :
    parseArgs args = .ok (subcommand, flags) ↔ subcommand = args.getD 1 "help" ∧
      ∃ items, Reads kind (args.drop 2) items ∧
        flags = items.foldl (applyItem parseStep) .default := by
  match args with
  | [] | [_] | _ :: _ :: _ =>
    simp only [parseArgs]
    rw [map_pair_ok, ArgumentStep.loop_eq_scan, parseStep_regular.scan_ok_iff]
    rfl

theorem foldl_installDir (items : List (OptionItem String)) :
    (items.foldl (applyItem parseStep) Flags.default).installDir =
      lastValue "--install-dir" items :=
  foldl_lastValue applyItem_installDir items rfl

theorem foldl_serviceName (items : List (OptionItem String)) :
    (items.foldl (applyItem parseStep) Flags.default).serviceName =
      lastValue "--service-name" items :=
  foldl_lastValue applyItem_serviceName items rfl

/-- The menu gives no directory and no name. -/
theorem menu_flags (around : Surroundings) (flags : Flags) :
    (menu around flags).2.installDir = flags.installDir ∧
      (menu around flags).2.serviceName = flags.serviceName := by
  unfold menu
  split <;> exact ⟨rfl, rfl⟩

theorem select_ok {around : Surroundings} {args : List String} {subcommand : Subcommand}
    {flags : Flags} (selected : select around args = .ok (subcommand, flags)) :
    ∃ text given, parseArgs args = .ok (text, given) ∧ (Subcommand.ofText text).isSome = true ∧
      flags.installDir = given.installDir ∧ flags.serviceName = given.serviceName := by
  unfold select at selected
  rcases parsed : parseArgs args with e | ⟨text, given⟩
  · rw [parsed] at selected
    cases selected
  · refine ⟨text, given, rfl, ?_⟩
    simp only [parsed] at selected
    split at selected
    · rename_i known named
      cases selected
      by_cases asked : text = "help" ∧ args.length = 1 ∧ around.isTty = true
      · rw [if_pos asked]
        exact ⟨by rw [asked.1]; rfl, menu_flags around given⟩
      · rw [if_neg asked] at named ⊢
        exact ⟨Option.isSome_iff_exists.mpr ⟨_, named⟩, rfl, rfl⟩
    · cases selected

/-- Without a terminal nothing is asked. -/
def unattended : Surroundings where
  privileges := .ok ()
  isTty := false
  menu := none
  input _ := none
  confirm := none
  exeDirectory := none
  commandsRun := true
  pathExists _ := true

theorem select_unattended {args : List String} {text : String} {flags : Flags}
    {subcommand : Subcommand} (parsed : parseArgs args = .ok (text, flags))
    (named : Subcommand.ofText text = some subcommand) :
    select unattended args = .ok (subcommand, flags) := by
  have silent : ¬ (text = "help" ∧ args.length = 1 ∧ unattended.isTty = true) :=
    fun asked => Bool.false_ne_true asked.2.2
  simp only [select, parsed, if_neg silent, named]

/-- What is removed is the directory of the flags or the default. -/
theorem removes_eq {around : Surroundings} {subcommand : Subcommand} {flags : Flags}
    {dir : String} (removed : removes around subcommand flags = some dir) :
    dir = flags.installDir.getD (defaultInstallDir (serviceName around flags)) := by
  cases subcommand with
  | install | status | help => cases removed
  | uninstall =>
    unfold removes cmdUninstall at removed
    dsimp only at removed
    split at removed
    · cases removed
    · split_ifs at removed
      exact (Option.some.inj removed).symm

/-- A subcommand is no guarded flag. -/
theorem honoured_drop {args : List String} {installDir serviceName : Option String}
    (proper : (Subcommand.ofText (args.getD 1 "help")).isSome = true) :
    Honoured Known (args.drop 1) installDir serviceName ↔
      Honoured Known (args.drop 2) installDir serviceName := by
  match args, proper with
  | [], _ => exact Iff.rfl
  | [_], _ => exact Iff.rfl
  | _ :: subcommand :: rest, proper =>
    refine honoured_cons ?_
    rintro (rfl | rfl) <;> cases proper

theorem keeps_iff (args : List String) : Keeps args ↔ Proper args := by
  constructor
  · intro keeps named items reads
    have parsed := (parseArgs_ok_iff args _ _).mpr ⟨rfl, items, reads, rfl⟩
    obtain ⟨subcommand, known⟩ := Option.isSome_iff_exists.mp named
    have honoured := (keeps _ _ _ (select_unattended parsed known)).1
    rw [honoured_drop named, foldl_installDir, foldl_serviceName] at honoured
    exact (honoured_iff reads guarded_valued known_of_kind).mp honoured
  · intro proper around subcommand flags selected
    obtain ⟨text, given, parsed, named, dir, name⟩ := select_ok selected
    obtain ⟨rfl, items, reads, rfl⟩ := (parseArgs_ok_iff args text given).mp parsed
    have honoured :=
      (honoured_iff reads guarded_valued known_of_kind).mpr (proper named items reads)
    rw [← foldl_installDir, ← foldl_serviceName, ← dir, ← name, ← honoured_drop named] at honoured
    refine ⟨honoured, fun removed_dir removed => ?_⟩
    rw [removes_eq removed]
    exact honoured.namedOrDefault _

end Installer

/-- Both programs honour what is given on exactly the proper command lines. -/
theorem command_lines_kept_iff (args : List String) :
    (Installer.Keeps args ↔ Installer.Proper args) ∧
      (Uninstaller.Keeps args ↔ Uninstaller.Proper args) :=
  ⟨Installer.keeps_iff args, Uninstaller.keeps_iff args⟩

namespace Installer

/-- The last argument is a flag without its value. -/
def truncatedLine : List String :=
  ["installer", "uninstall", "--non-interactive", "--install-dir"]

theorem truncatedLine_parsed : parseArgs truncatedLine =
    .ok ("uninstall", { Flags.default with nonInteractive := true }) :=
  (parseArgs_ok_iff _ _ _).mpr ⟨rfl, [.switch "--non-interactive", .missing "--install-dir"],
    .switch rfl (.missing rfl), rfl⟩

/-- A directory is asked for and none is named, and the default one is removed. -/
theorem truncatedLine_default_removed : ¬ Keeps truncatedLine := by
  intro keeps
  have selected := select_unattended truncatedLine_parsed rfl
  rcases (keeps _ _ _ selected).2 "/opt/api" (by decide) with named | ⟨absent, _⟩
  · revert named
    decide
  · revert absent
    decide

end Installer
end ApiBoilerplate
