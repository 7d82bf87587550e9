import ApiBoilerplate.Foundation.Fallible
import ApiBoilerplate.Updater.Status

/-!
# The layered configuration of the updater

`AppConfig::load` lays three sources over each other. A field that no source
sets takes its default, which for the version is the one compiled in.
-/

namespace ApiBoilerplate.Updater

open Foundation

/-- A source of the configuration, asked for a key path. -/
abbrev Layer (Value : Type) := String → Option Value

structure Sources (Value : Type) where
  /-- `default.yaml` -/
  base : Layer Value
  /-- The file named after `APP_ENV`, when it is there. -/
  environmentFile : Option (Layer Value)
  /-- Environment variables, with `__` between the parts of a key. -/
  environment : Layer Value

/-- How the `config` crate reads a value as the type of a field. -/
structure Conversions (Value : Type) where
  toBool : Value → Except String Bool
  toNat : Value → Except String Nat
  toText : Value → Except String String

inductive RestartMode where
  | spawn
  | supervisor
  deriving DecidableEq, Repr

def RestartMode.parse (text : String) : Except String RestartMode :=
  if text = "spawn" then .ok .spawn
  else if text = "supervisor" then .ok .supervisor
  else .error ("unknown variant " ++ text ++ ", expected spawn or supervisor")

namespace Sources
variable {Value : Type}

/-- From the lowest priority to the highest. -/
def layers (sources : Sources Value) : List (Layer Value) :=
  [sources.base] ++ sources.environmentFile.toList ++ [sources.environment]

def lookup (sources : Sources Value) (key : String) : Option Value :=
  sources.layers.reverse.findSome? (fun layer => layer key)

def field {α : Type} (sources : Sources Value) (key : String) (read : Value → Except String α)
    (default : α) : Except String α :=
  match sources.lookup key with
  | none => .ok default
  | some value => read value

/-- The `updater` section, as loaded by a binary of the given version. -/
def loadUpdater (conv : Conversions Value) (sources : Sources Value) (compiled : String) :
    Except String UpdaterConfig := do
  let enabled ← sources.field "updater.enabled" conv.toBool false
  let checkUrl ← sources.field "updater.check_url" conv.toText ""
  let autoUpdate ← sources.field "updater.auto_update" conv.toBool false
  let checkIntervalSeconds ← sources.field "updater.check_interval_seconds" conv.toNat 3600
  let _ ← sources.field "updater.restart_mode" (fun v => conv.toText v >>= RestartMode.parse)
    .supervisor
  let currentVersion ← sources.field "updater.current_version" conv.toText compiled
  return { enabled, checkUrl, autoUpdate, checkIntervalSeconds, currentVersion }

/-- No source sets the key. -/
def Unset (sources : Sources Value) (key : String) : Prop :=
  ∀ layer ∈ sources.layers, layer key = none

theorem lookup_eq_none {sources : Sources Value} {key : String} :
    sources.lookup key = none ↔ sources.Unset key := by
  simp [lookup, Unset]

theorem field_unset {α : Type} {sources : Sources Value} {key : String}
    (unset : sources.Unset key) (read : Value → Except String α) (default : α) :
    sources.field key read default = .ok default := by
  rw [field, lookup_eq_none.mpr unset]

/-- A field that some source sets does not depend on its default. -/
theorem field_set {α : Type} {sources : Sources Value} {key : String} (set : ¬ sources.Unset key)
    (read : Value → Except String α) (default other : α) :
    sources.field key read default = sources.field key read other := by
  rw [field, field]
  cases found : sources.lookup key with
  | none => exact absurd (lookup_eq_none.mp found) set
  | some value => rfl

/-- A version that some source sets hides the one compiled in. -/
theorem loadUpdater_set {sources : Sources Value} (conv : Conversions Value)
    (set : ¬ sources.Unset "updater.current_version") (compiled other : String) :
    sources.loadUpdater conv compiled = sources.loadUpdater conv other := by
  rw [loadUpdater, loadUpdater, field_set set conv.toText compiled other]

/-- A version that no source sets is the one compiled in; the rest is the same. -/
theorem loadUpdater_unset {sources : Sources Value} {conv : Conversions Value}
    (unset : sources.Unset "updater.current_version") {compiled : String} {config : UpdaterConfig}
    (loaded : sources.loadUpdater conv compiled = .ok config) (other : String) :
    config.currentVersion = compiled ∧
      sources.loadUpdater conv other = .ok { config with currentVersion := other } := by
  rw [loadUpdater, field_unset unset] at loaded ⊢
  obtain ⟨enabled, readEnabled, loaded⟩ := exists_of_bind_ok loaded
  obtain ⟨checkUrl, readUrl, loaded⟩ := exists_of_bind_ok loaded
  obtain ⟨autoUpdate, readAuto, loaded⟩ := exists_of_bind_ok loaded
  obtain ⟨interval, readInterval, loaded⟩ := exists_of_bind_ok loaded
  obtain ⟨mode, readMode, loaded⟩ := exists_of_bind_ok loaded
  cases loaded
  refine ⟨rfl, ?_⟩
  rw [readEnabled, readUrl, readAuto, readInterval, readMode]
  rfl

end Sources
end ApiBoilerplate.Updater
