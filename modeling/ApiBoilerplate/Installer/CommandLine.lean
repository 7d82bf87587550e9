import ApiBoilerplate.Foundation.OptionScan

/-!
# The command lines of the installer and the uninstaller

Both programs walk over their arguments by index and go on to remove a directory: the
one they were given, or else a default. What they find around them is in the
surroundings; paths are those of Unix.
-/

namespace ApiBoilerplate

open Foundation

/-- Answers a program gets from the system and from the terminal. -/
structure Surroundings where
  privileges : Except String Unit
  isTty : Bool
  /-- The entry chosen in the menu, unless the selection fails. -/
  menu : Option Nat
  /-- The text entered at a prompt, unless it fails. -/
  input : String → Option String
  confirm : Option Bool
  /-- The directory of the running binary. -/
  exeDirectory : Option String
  /-- The service manager could be run, each time it was called. -/
  commandsRun : Bool
  pathExists : String → Bool

namespace Installer

structure Flags where
  installDir : Option String
  serviceName : Option String
  displayName : Option String
  description : Option String
  noStart : Bool
  nonInteractive : Bool
  deriving DecidableEq, Repr

def Flags.default : Flags := ⟨none, none, none, none, false, false⟩

/-- The loop body of `parse_args`. A value that is missing is passed over. -/
def parseStep : ArgumentStep String Flags String := fun flags arg next =>
  if arg = "--install-dir" then
    .ok ({ flags with installDir := next.or flags.installDir }, true)
  else if arg = "--service-name" then
    .ok ({ flags with serviceName := next.or flags.serviceName }, true)
  else if arg = "--display-name" then
    .ok ({ flags with displayName := next.or flags.displayName }, true)
  else if arg = "--description" then
    .ok ({ flags with description := next.or flags.description }, true)
  else if arg = "--no-start" then .ok ({ flags with noStart := true }, false)
  else if arg = "--non-interactive" then .ok ({ flags with nonInteractive := true }, false)
  else .error ("installer: unknown flag: " ++ arg)

/-- `parse_args`; an error is printed and the process exits with 2. -/
def parseArgs (args : List String) : Except String (String × Flags) :=
  match args with
  | _ :: subcommand :: _ => (parseStep.loop args 2 .default).map (subcommand, ·)
  | _ => (parseStep.loop args 1 .default).map ("help", ·)

inductive Subcommand where
  | install
  | uninstall
  | status
  | help
  deriving DecidableEq, Repr

def Subcommand.ofText (text : String) : Option Subcommand :=
  if text = "install" then some .install
  else if text = "uninstall" then some .uninstall
  else if text = "status" then some .status
  else if text = "help" ∨ text = "--help" ∨ text = "-h" then some .help
  else none

section Program
variable (around : Surroundings)

/-- The menu that is shown without arguments on a terminal. -/
def menu (flags : Flags) : String × Flags :=
  match around.menu.getD 3 with
  | 0 => ("install", { flags with nonInteractive := false })
  | 1 => ("uninstall", { flags with nonInteractive := false })
  | 2 => ("status", { flags with nonInteractive := false })
  | _ => ("help", flags)

/-- `main` up to the subcommand. -/
def select (args : List String) : Except String (Subcommand × Flags) :=
  match parseArgs args with
  | .error e => .error e
  | .ok parsed =>
    let chosen :=
      if parsed.1 = "help" ∧ args.length = 1 ∧ around.isTty then menu around parsed.2 else parsed
    match Subcommand.ofText chosen.1 with
    | some subcommand => .ok (subcommand, chosen.2)
    | none =>
      .error ("installer: unknown subcommand '" ++ chosen.1 ++ "'. Run 'installer help'.")

def resolve (provided : Option String) (interactive : Bool) (prompt defaultVal : String) :
    String :=
  match provided with
  | some v => v
  | none => if interactive then (around.input prompt).getD defaultVal else defaultVal

def defaultInstallDir (serviceName : String) : String := "/opt/" ++ serviceName

def interactive (flags : Flags) : Bool := !flags.nonInteractive && around.isTty

def serviceName (flags : Flags) : String :=
  resolve around flags.serviceName (interactive around flags) "Service name" "api"

/-- The directory that `cmd_uninstall` removes, if it comes so far; `run_cmd` ends the
process when a command cannot be run. -/
def cmdUninstall (flags : Flags) : Option String :=
  match around.privileges with
  | .error _ => none
  | .ok () =>
    let installDir := flags.installDir.getD (defaultInstallDir (serviceName around flags))
    if interactive around flags && !around.confirm.getD false then none
    else if !around.commandsRun then none
    else if around.pathExists installDir then some installDir
    else none

/-- The directory that a subcommand removes; the others remove none. -/
def removes (subcommand : Subcommand) (flags : Flags) : Option String :=
  match subcommand with
  | .uninstall => cmdUninstall around flags
  | _ => none

end Program

end Installer

namespace Uninstaller

structure Flags where
  serviceName : Option String
  installDir : Option String
  nonInteractive : Bool
  deriving DecidableEq, Repr

def Flags.default : Flags := ⟨none, none, false⟩

/-- Where `parse_args` yields no flags: help was asked for, or the process exits with 2. -/
inductive Stop where
  | help
  | unknownFlag (arg : String)
  deriving DecidableEq, Repr

def parseStep : ArgumentStep Stop Flags String := fun flags arg next =>
  if arg = "--help" ∨ arg = "-h" then .error .help
  else if arg = "--service-name" then
    .ok ({ flags with serviceName := next.or flags.serviceName }, true)
  else if arg = "--install-dir" then
    .ok ({ flags with installDir := next.or flags.installDir }, true)
  else if arg = "--non-interactive" then .ok ({ flags with nonInteractive := true }, false)
  else .error (.unknownFlag arg)

def parseArgs (args : List String) : Except Stop Flags := parseStep.loop args 1 .default

section Program
variable (around : Surroundings)

/-- The directory that contains the binary. -/
def detected : String := around.exeDirectory.getD "."

/-- The directory that `main` removes once it has its flags, if it comes so far. -/
def removes (flags : Flags) : Option String :=
  match around.privileges with
  | .error _ => none
  | .ok () =>
    let installDir := flags.installDir.getD (detected around)
    if (!flags.nonInteractive && around.isTty) && !around.confirm.getD false then none
    else if around.pathExists installDir then some installDir
    else none

end Program

end Uninstaller

/-- The flags that say what is removed. -/
def Guarded (arg : String) : Prop := arg = "--install-dir" ∨ arg = "--service-name"

instance (arg : String) : Decidable (Guarded arg) := inferInstanceAs (Decidable (_ ∨ _))

namespace Installer

def kind (arg : String) : Option OptionKind :=
  if arg = "--install-dir" then some .valued
  else if arg = "--service-name" then some .valued
  else if arg = "--display-name" then some .valued
  else if arg = "--description" then some .valued
  else if arg = "--no-start" then some .switch
  else if arg = "--non-interactive" then some .switch
  else none

def Known (arg : String) : Prop := kind arg ≠ none

instance (arg : String) : Decidable (Known arg) := inferInstanceAs (Decidable (_ ≠ _))

theorem parseStep_regular : OptionScan.Regular kind parseStep := by
  constructor
  · intro flags arg next unknown
    unfold kind at unknown
    unfold parseStep
    split_ifs at unknown ⊢
    exact ⟨_, rfl⟩
  · intro flags arg known
    unfold kind at known
    unfold parseStep
    split_ifs at known ⊢
    all_goals first | exact ⟨_, fun _ => rfl⟩ | cases known
  · intro flags arg next known
    unfold kind at known
    unfold parseStep
    split_ifs at known ⊢
    all_goals first | exact ⟨_, rfl⟩ | cases known

theorem guarded_valued (arg : String) (guarded : Guarded arg) : kind arg = some .valued := by
  rcases guarded with rfl | rfl <;> rfl

theorem applyItem_installDir (flags : Flags) (item : OptionItem String) :
    (OptionScan.applyItem parseStep flags item).installDir =
      (item.valueOf "--install-dir").or flags.installDir := by
  cases item with
  | switch a | missing a | valued a v =>
    simp only [OptionScan.applyItem, parseStep, OptionItem.valueOf]
    split_ifs <;> rfl

theorem applyItem_serviceName (flags : Flags) (item : OptionItem String) :
    (OptionScan.applyItem parseStep flags item).serviceName =
      (item.valueOf "--service-name").or flags.serviceName := by
  cases item with
  | switch a | missing a | valued a v =>
    simp only [OptionScan.applyItem, parseStep, OptionItem.valueOf]
    split_ifs
    all_goals first | rfl | simp_all

end Installer

namespace Uninstaller

def kind (arg : String) : Option OptionKind :=
  if arg = "--help" ∨ arg = "-h" then none
  else if arg = "--service-name" then some .valued
  else if arg = "--install-dir" then some .valued
  else if arg = "--non-interactive" then some .switch
  else none

def Known (arg : String) : Prop := kind arg ≠ none ∨ arg = "--help" ∨ arg = "-h"

instance (arg : String) : Decidable (Known arg) := inferInstanceAs (Decidable (_ ∨ _))

theorem parseStep_regular : OptionScan.Regular kind parseStep := by
  constructor
  · intro flags arg next unknown
    unfold kind at unknown
    unfold parseStep
    split_ifs at unknown ⊢
    all_goals exact ⟨_, rfl⟩
  · intro flags arg known
    unfold kind at known
    unfold parseStep
    split_ifs at known ⊢
    all_goals first | exact ⟨_, fun _ => rfl⟩ | cases known
  · intro flags arg next known
    unfold kind at known
    unfold parseStep
    split_ifs at known ⊢
    all_goals first | exact ⟨_, rfl⟩ | cases known

theorem guarded_valued (arg : String) (guarded : Guarded arg) : kind arg = some .valued := by
  rcases guarded with rfl | rfl <;> rfl

theorem applyItem_installDir (flags : Flags) (item : OptionItem String) :
    (OptionScan.applyItem parseStep flags item).installDir =
      (item.valueOf "--install-dir").or flags.installDir := by
  cases item with
  | switch a | missing a | valued a v =>
    simp only [OptionScan.applyItem, parseStep, OptionItem.valueOf]
    split_ifs
    all_goals first | rfl | simp_all

theorem applyItem_serviceName (flags : Flags) (item : OptionItem String) :
    (OptionScan.applyItem parseStep flags item).serviceName =
      (item.valueOf "--service-name").or flags.serviceName := by
  cases item with
  | switch a | missing a | valued a v =>
    simp only [OptionScan.applyItem, parseStep, OptionItem.valueOf]
    split_ifs
    all_goals first | rfl | simp_all

end Uninstaller
end ApiBoilerplate
