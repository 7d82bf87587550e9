import ApiBoilerplate.Foundation.ArgumentScan
import ApiBoilerplate.Updater.Config

/-!
# The updater's command line

The service builds the argument vector, the updater binary reads it: flags, each with
a value, of which the last one counts.
-/

namespace ApiBoilerplate.Updater

open Foundation Http

/-- `parse::<u32>`: a sign `+` at most, then decimal digits. -/
def u32FromStr (text : String) : Option UInt32 :=
  let digits :=
    match text.toList with
    | '+' :: digits => digits
    | digits => digits
  if digits ≠ [] ∧ digits.all Char.isDigit then
    let value := Nat.ofDigitChars 10 digits 0
    if value < 2 ^ 32 then some (UInt32.ofNat value) else none
  else none

def u32ToString (n : UInt32) : String := n.toNat.repr

theorem u32FromStr_toString (n : UInt32) : u32FromStr (u32ToString n) = some n := by
  have digits : ∀ c ∈ Nat.toDigits 10 n.toNat, c.isDigit := fun c member =>
    Nat.isDigit_of_mem_toDigits (by decide) (by decide) member
  have unsigned : (match Nat.toDigits 10 n.toNat with
      | '+' :: digits => digits
      | digits => digits) = Nat.toDigits 10 n.toNat := by
    split
    · rename_i signed
      exact absurd (digits '+' (signed ▸ List.mem_cons_self)) (by decide)
    · rfl
  rw [u32FromStr, u32ToString, Nat.toList_repr, unsigned, Nat.ofDigitChars_ten_toDigits,
    if_pos ⟨Nat.toDigits_ne_nil, List.all_eq_true.mpr digits⟩, if_pos n.toNat_lt]
  exact congrArg some UInt32.ofNat_toNat

def RestartMode.text : RestartMode → String
  | .spawn => "spawn"
  | .supervisor => "supervisor"

inductive Flag where
  | zipPath
  | targetPath
  | binaryName
  | pid
  | restartMode
  deriving DecidableEq, Repr

def Flag.text : Flag → String
  | .zipPath => "--zip-path"
  | .targetPath => "--target-path"
  | .binaryName => "--binary-name"
  | .pid => "--pid"
  | .restartMode => "--restart-mode"

/-- The arguments after the program's name. -/
def updaterArguments (zipPath currentExe binaryName : String) (pid : UInt32)
    (mode : RestartMode) : List String :=
  [Flag.zipPath.text, zipPath, Flag.targetPath.text, currentExe, Flag.binaryName.text, binaryName,
    Flag.pid.text, u32ToString pid, Flag.restartMode.text, mode.text]

/-- What `spawn_updater` finds around it. -/
structure SpawnSurroundings where
  currentExe : Except String String
  /-- The path of `updater` next to an executable, where that has a directory. -/
  updaterBeside : String → Option String
  pathExists : String → Bool
  processId : UInt32
  spawn : String → List String → Except String Unit

/-- `spawn_updater`, with the command that was spawned. -/
def spawnUpdater (around : SpawnSurroundings) (mode : RestartMode) (zipPath : String)
    (manifest : VersionManifest) : Except AppError (String × List String) := do
  let currentExe ← around.currentExe.mapError fun e =>
    .internal ("Cannot resolve current executable path: " ++ e)
  match around.updaterBeside currentExe with
  | none => throw (.internal "Cannot resolve executable directory")
  | some updaterPath =>
    if around.pathExists updaterPath then
      let arguments :=
        updaterArguments zipPath currentExe manifest.binaryName around.processId mode
      (around.spawn updaterPath arguments).mapError fun e =>
        .internal ("Failed to spawn updater process: " ++ e)
      return (updaterPath, arguments)
    else throw (.internal ("Updater binary not found at: " ++ updaterPath))

/-- The command that is spawned carries these arguments. -/
theorem spawnUpdater_ok {around : SpawnSurroundings} {mode : RestartMode} {zipPath : String}
    {manifest : VersionManifest} {program : String} {arguments : List String}
    (spawned : spawnUpdater around mode zipPath manifest = .ok (program, arguments)) :
    ∃ exe, around.currentExe = .ok exe ∧ around.updaterBeside exe = some program ∧
      arguments = updaterArguments zipPath exe manifest.binaryName around.processId mode := by
  cases current : around.currentExe with
  | error e =>
    rw [spawnUpdater, current] at spawned
    cases spawned
  | ok exe =>
    rw [spawnUpdater, current] at spawned
    obtain ⟨exe', ⟨⟩, spawned⟩ := exists_of_bind_ok spawned
    cases beside : around.updaterBeside exe with
    | none =>
      simp only [beside] at spawned
      cases spawned
    | some updaterPath =>
      simp only [beside] at spawned
      by_cases present : around.pathExists updaterPath
      · rw [if_pos present] at spawned
        obtain ⟨_, _, spawned⟩ := exists_of_bind_ok spawned
        cases spawned
        exact ⟨exe, rfl, beside, rfl⟩
      · rw [if_neg present] at spawned
        cases spawned

def Flag.ofText (arg : String) : Option Flag :=
  if arg = "--zip-path" then some .zipPath
  else if arg = "--target-path" then some .targetPath
  else if arg = "--binary-name" then some .binaryName
  else if arg = "--pid" then some .pid
  else if arg = "--restart-mode" then some .restartMode
  else none

theorem Flag.ofText_eq_some {arg : String} {flag : Flag} :
    Flag.ofText arg = some flag ↔ arg = flag.text := by
  constructor
  · intro known
    unfold Flag.ofText at known
    split at known
    · cases known; assumption
    · split at known
      · cases known; assumption
      · split at known
        · cases known; assumption
        · split at known
          · cases known; assumption
          · split at known
            · cases known; assumption
            · cases known
  · rintro rfl
    cases flag <;> decide

structure Args where
  zipPath : String
  targetPath : String
  binaryName : String
  pid : UInt32
  restartMode : String
  deriving DecidableEq, Repr

/-- The variables of the loop. -/
structure Parsing where
  zipPath : Option String
  targetPath : Option String
  binaryName : Option String
  pid : UInt32
  restartMode : String
  deriving DecidableEq, Repr

def Parsing.set (p : Parsing) (value : String) : Flag → Except String Parsing
  | .zipPath => .ok { p with zipPath := some value }
  | .targetPath => .ok { p with targetPath := some value }
  | .binaryName => .ok { p with binaryName := some value }
  | .pid =>
    match u32FromStr value with
    | none => .error "invalid --pid value"
    | some pid => .ok { p with pid := pid }
  | .restartMode => .ok { p with restartMode := value }

def parseStep : ArgumentStep String Parsing String := fun p arg next =>
  match Flag.ofText arg with
  | none => .error ("unknown argument: " ++ arg)
  | some flag =>
    match next with
    | none => .error ("missing value for " ++ flag.text)
    | some value => (p.set value flag).map fun p => (p, true)

def required (value : Option String) (flag : Flag) : Except String String :=
  match value with
  | none => .error (flag.text ++ " is required")
  | some value => .ok value

def parseArgs (args : List String) : Except String Args := do
  let p ← parseStep.loop args 1 ⟨none, none, none, 0, "supervisor"⟩
  let zipPath ← required p.zipPath .zipPath
  let targetPath ← required p.targetPath .targetPath
  let binaryName ← required p.binaryName .binaryName
  return ⟨zipPath, targetPath, binaryName, p.pid, p.restartMode⟩

/-- The value of the last occurrence of a flag. -/
def lastValue (flag : Flag) (pairs : List (Flag × String)) : Option String :=
  (pairs.reverse.find? fun pair => pair.1 = flag).map Prod.snd

/-- Every process id is a number. -/
def Numbered (pairs : List (Flag × String)) : Prop :=
  ∀ value, (Flag.pid, value) ∈ pairs → (u32FromStr value).isSome

/-- Arguments that are flags with values, as the updater takes them. -/
structure Lists (arguments : List String) (pairs : List (Flag × String)) : Prop where
  whole : arguments = pairs.flatMap fun pair => [pair.1.text, pair.2]
  zipPath : ∃ value, (Flag.zipPath, value) ∈ pairs
  targetPath : ∃ value, (Flag.targetPath, value) ∈ pairs
  binaryName : ∃ value, (Flag.binaryName, value) ∈ pairs
  pid : Numbered pairs

/-- The last occurrence of each flag gives its value. -/
structure Gives (pairs : List (Flag × String)) (args : Args) : Prop where
  zipPath : lastValue .zipPath pairs = some args.zipPath
  targetPath : lastValue .targetPath pairs = some args.targetPath
  binaryName : lastValue .binaryName pairs = some args.binaryName
  pid : args.pid = ((lastValue .pid pairs).bind u32FromStr).getD 0
  restartMode : args.restartMode = (lastValue .restartMode pairs).getD "supervisor"

@[simp] theorem lastValue_nil (flag : Flag) : lastValue flag [] = none := rfl

theorem lastValue_cons (flag : Flag) (pair : Flag × String) (pairs : List (Flag × String)) :
    lastValue flag (pair :: pairs) =
      (lastValue flag pairs).or (if pair.1 = flag then some pair.2 else none) := by
  rw [lastValue, List.reverse_cons, List.find?_append, lastValue]
  by_cases named : pair.1 = flag
  · cases pairs.reverse.find? fun pair => pair.1 = flag <;> simp [named]
  · cases pairs.reverse.find? fun pair => pair.1 = flag <;> simp [named]

theorem mem_of_lastValue {flag : Flag} {pairs : List (Flag × String)} {value : String}
    (last : lastValue flag pairs = some value) : (flag, value) ∈ pairs := by
  obtain ⟨pair, found, rfl⟩ := Option.map_eq_some_iff.mp last
  have named : pair.1 = flag := by simpa using List.find?_some found
  rw [← named]
  exact List.mem_reverse.mp (List.mem_of_find?_eq_some found)

theorem isSome_lastValue {flag : Flag} {pairs : List (Flag × String)} :
    (lastValue flag pairs).isSome ↔ ∃ value, (flag, value) ∈ pairs := by
  simp [lastValue, List.find?_isSome]

theorem parseStep_none (p : Parsing) (flag : Flag) :
    parseStep p flag.text none = .error ("missing value for " ++ flag.text) := by
  rw [parseStep, Flag.ofText_eq_some.mpr rfl]

theorem parseStep_some (p : Parsing) (flag : Flag) (value : String) :
    parseStep p flag.text (some value) = (p.set value flag).map fun p => (p, true) := by
  rw [parseStep, Flag.ofText_eq_some.mpr rfl]

/-- A step that succeeds read a flag and took its value. -/
theorem parseStep_ok {p t : Parsing} {arg : String} {next : Option String} {valued : Bool}
    (stepped : parseStep p arg next = .ok (t, valued)) :
    ∃ flag value, arg = Flag.text flag ∧ next = some value ∧ p.set value flag = .ok t ∧
      valued = true := by
  cases known : Flag.ofText arg with
  | none =>
    rw [parseStep, known] at stepped
    cases stepped
  | some flag =>
    obtain rfl := Flag.ofText_eq_some.mp known
    cases next with
    | none =>
      rw [parseStep_none] at stepped
      cases stepped
    | some value =>
      rw [parseStep_some] at stepped
      cases set : p.set value flag with
      | error e =>
        rw [set] at stepped
        cases stepped
      | ok u =>
        rw [set] at stepped
        cases stepped
        exact ⟨flag, value, rfl, rfl, set, rfl⟩

theorem parseStep_valued : parseStep.Valued := by
  intro p arg next t valued stepped
  obtain ⟨flag, value, _, rfl, _, rfl⟩ := parseStep_ok stepped
  exact ⟨rfl, nofun⟩

def setPair (p : Parsing) (pair : Flag × String) : Except String Parsing := p.set pair.2 pair.1

def textPair (pair : Flag × String) : String × String := (pair.1.text, pair.2)

theorem put_textPair (p : Parsing) (pair : Flag × String) :
    parseStep.put p (textPair pair) = setPair p pair := by
  rw [ArgumentStep.put, textPair, parseStep_some, setPair]
  cases p.set pair.2 pair.1 <;> rfl

/-- The pairs that are taken are the texts of flags with values. -/
theorem foldlM_put_iff (p t : Parsing) (texts : List (String × String)) :
    texts.foldlM parseStep.put p = .ok t ↔
      ∃ pairs : List (Flag × String), texts = pairs.map textPair ∧
        pairs.foldlM setPair p = .ok t := by
  constructor
  · intro folded
    induction texts generalizing p with
    | nil => exact ⟨[], rfl, folded⟩
    | cons text texts ih =>
      rw [List.foldlM_cons] at folded
      obtain ⟨u, put, folded⟩ := exists_of_bind_ok folded
      obtain ⟨pairs, rfl, set⟩ := ih u folded
      rcases stepped : parseStep p text.1 (some text.2) with e | ⟨v, valued⟩
      · rw [ArgumentStep.put, stepped] at put
        cases put
      · obtain ⟨flag, value, named, same, _⟩ := parseStep_ok stepped
        cases same
        have text_eq : text = textPair (flag, text.2) := Prod.ext named rfl
        refine ⟨(flag, text.2) :: pairs, by rw [List.map_cons, ← text_eq], ?_⟩
        rw [text_eq, put_textPair] at put
        rw [List.foldlM_cons, put]
        exact set
  · rintro ⟨pairs, rfl, folded⟩
    rw [List.foldlM_map]
    simpa only [put_textPair] using folded

/-- The variables after some flags that were all taken. -/
def Parsing.after (p : Parsing) (pairs : List (Flag × String)) : Parsing where
  zipPath := (lastValue .zipPath pairs).or p.zipPath
  targetPath := (lastValue .targetPath pairs).or p.targetPath
  binaryName := (lastValue .binaryName pairs).or p.binaryName
  pid := ((lastValue .pid pairs).bind u32FromStr).getD p.pid
  restartMode := (lastValue .restartMode pairs).getD p.restartMode

theorem Numbered.cons_iff {pair : Flag × String} {pairs : List (Flag × String)} :
    Numbered (pair :: pairs) ↔
      (pair.1 = .pid → (u32FromStr pair.2).isSome) ∧ Numbered pairs := by
  constructor
  · intro numbered
    refine ⟨fun named => numbered pair.2 ?_, fun value member => numbered value ?_⟩
    · rw [← named]
      exact List.mem_cons_self
    · exact List.mem_cons_of_mem _ member
  · rintro ⟨first, rest⟩ value member
    rcases List.mem_cons.mp member with rfl | later
    · exact first rfl
    · exact rest value later

theorem setPair_cases (p : Parsing) (pair : Flag × String) :
    (setPair p pair = .ok (p.after [pair]) ∧ (pair.1 = .pid → (u32FromStr pair.2).isSome)) ∨
      ∃ e, setPair p pair = .error e ∧ pair.1 = .pid ∧ u32FromStr pair.2 = none := by
  obtain ⟨flag, value⟩ := pair
  cases flag with
  | pid =>
    cases number : u32FromStr value with
    | none =>
      right
      exact ⟨"invalid --pid value", by simp [setPair, Parsing.set, number], rfl, rfl⟩
    | some n =>
      left
      exact ⟨by simp [setPair, Parsing.set, number, Parsing.after, lastValue_cons], fun _ => rfl⟩
  | _ =>
    left
    exact ⟨by simp [setPair, Parsing.set, Parsing.after, lastValue_cons], nofun⟩

theorem after_cons (p : Parsing) {pair : Flag × String} {pairs : List (Flag × String)}
    (numbered : Numbered pairs) :
    (p.after [pair]).after pairs = p.after (pair :: pairs) := by
  have pid : ((lastValue .pid pairs).bind u32FromStr).getD (p.after [pair]).pid =
      ((lastValue .pid (pair :: pairs)).bind u32FromStr).getD p.pid := by
    rw [lastValue_cons]
    cases last : lastValue .pid pairs with
    | none => simp [Parsing.after, lastValue_cons]
    | some value =>
      have number := numbered value (mem_of_lastValue last)
      obtain ⟨n, read⟩ := Option.isSome_iff_exists.mp number
      simp [read]
  have restart : (lastValue .restartMode pairs).getD (p.after [pair]).restartMode =
      (lastValue .restartMode (pair :: pairs)).getD p.restartMode := by
    rw [lastValue_cons]
    cases lastValue .restartMode pairs <;> simp [Parsing.after, lastValue_cons]
  rw [Parsing.after, pid, restart]
  simp [Parsing.after, lastValue_cons, Option.or_assoc]

theorem foldlM_setPair_iff (p t : Parsing) (pairs : List (Flag × String)) :
    pairs.foldlM setPair p = .ok t ↔ Numbered pairs ∧ t = p.after pairs := by
  induction pairs generalizing p with
  | nil =>
    have start : p.after [] = p := rfl
    rw [start]
    constructor
    · rintro ⟨⟩
      exact ⟨nofun, rfl⟩
    · rintro ⟨_, rfl⟩
      rfl
  | cons pair pairs ih =>
    rw [List.foldlM_cons, Numbered.cons_iff]
    obtain ⟨set, number⟩ | ⟨e, failed, named, none⟩ := setPair_cases p pair
    · rw [set]
      change pairs.foldlM setPair (p.after [pair]) = .ok t ↔ _
      rw [ih]
      constructor
      · rintro ⟨numbered, rfl⟩
        exact ⟨⟨number, numbered⟩, after_cons p numbered⟩
      · rintro ⟨⟨_, numbered⟩, rfl⟩
        exact ⟨numbered, (after_cons p numbered).symm⟩
    · rw [failed]
      constructor
      · nofun
      · rintro ⟨⟨number, _⟩, _⟩
        have some := number named
        rw [none] at some
        cases some

theorem spread_textPair (pairs : List (Flag × String)) :
    ArgumentStep.spread (pairs.map textPair) =
      pairs.flatMap fun pair => [pair.1.text, pair.2] := by
  rw [ArgumentStep.spread, List.flatMap_map]
  rfl

/-- What the loop ends with. -/
theorem loop_ok_iff (args : List String) (p t : Parsing) :
    parseStep.loop args 1 p = .ok t ↔
      ∃ pairs : List (Flag × String),
        args.drop 1 = (pairs.flatMap fun pair => [pair.1.text, pair.2]) ∧ Numbered pairs ∧
          t = p.after pairs := by
  rw [ArgumentStep.loop_eq_scan, ArgumentStep.scan_ok_iff parseStep_valued]
  constructor
  · rintro ⟨texts, whole, folded⟩
    obtain ⟨pairs, rfl, set⟩ := (foldlM_put_iff p t texts).mp folded
    obtain ⟨numbered, after⟩ := (foldlM_setPair_iff p t pairs).mp set
    exact ⟨pairs, whole.trans (spread_textPair pairs), numbered, after⟩
  · rintro ⟨pairs, whole, numbered, after⟩
    refine ⟨pairs.map textPair, whole.trans (spread_textPair pairs).symm, ?_⟩
    exact (foldlM_put_iff p t _).mpr ⟨pairs, rfl, (foldlM_setPair_iff p t pairs).mpr
      ⟨numbered, after⟩⟩

theorem required_ok_iff {value : Option String} {flag : Flag} {given : String} :
    required value flag = .ok given ↔ value = some given := by
  cases value <;> simp [required]

theorem parseArgs_ok_iff (args : List String) (a : Args) :
    parseArgs args = .ok a ↔ ∃ pairs, Lists (args.drop 1) pairs ∧ Gives pairs a := by
  constructor
  · intro parsed
    obtain ⟨t, looped, parsed⟩ := exists_of_bind_ok parsed
    obtain ⟨zipPath, zip, parsed⟩ := exists_of_bind_ok parsed
    obtain ⟨targetPath, target, parsed⟩ := exists_of_bind_ok parsed
    obtain ⟨binaryName, binary, parsed⟩ := exists_of_bind_ok parsed
    cases parsed
    obtain ⟨pairs, whole, numbered, rfl⟩ := (loop_ok_iff args _ t).mp looped
    rw [required_ok_iff] at zip target binary
    simp only [Parsing.after, Option.or_none] at zip target binary
    refine ⟨pairs, ?_, ⟨zip, target, binary, rfl, rfl⟩⟩
    exact ⟨whole, ⟨_, mem_of_lastValue zip⟩, ⟨_, mem_of_lastValue target⟩,
      ⟨_, mem_of_lastValue binary⟩, numbered⟩
  · rintro ⟨pairs, lists, gives⟩
    have looped := (loop_ok_iff args ⟨none, none, none, 0, "supervisor"⟩ _).mpr
      ⟨pairs, lists.whole, lists.pid, rfl⟩
    rw [parseArgs, looped]
    obtain ⟨zipPath, targetPath, binaryName, pid, restartMode⟩ := a
    obtain ⟨zip, target, binary, rfl, rfl⟩ := gives
    simp only [Parsing.after, zip, target, binary, Option.some_or]
    rfl

theorem Lists.exists_gives {rest : List String} {pairs : List (Flag × String)}
    (lists : Lists rest pairs) : ∃ a, Gives pairs a := by
  obtain ⟨zipPath, zip⟩ := Option.isSome_iff_exists.mp (isSome_lastValue.mpr lists.zipPath)
  obtain ⟨targetPath, target⟩ := Option.isSome_iff_exists.mp (isSome_lastValue.mpr lists.targetPath)
  obtain ⟨binaryName, binary⟩ := Option.isSome_iff_exists.mp (isSome_lastValue.mpr lists.binaryName)
  exact ⟨⟨zipPath, targetPath, binaryName, _, _⟩, zip, target, binary, rfl, rfl⟩

/-- What the service writes is read back, and the updater accepts the rows of known
flags with values that give it what it requires, the last occurrence of a flag
counting. -/
theorem parseArgs_correct :
    (∀ program zipPath targetPath binaryName pid mode,
      parseArgs (program :: updaterArguments zipPath targetPath binaryName pid mode) =
        .ok ⟨zipPath, targetPath, binaryName, pid, mode.text⟩) ∧
    (∀ args, (∃ a, parseArgs args = .ok a) ↔ ∃ pairs, Lists (args.drop 1) pairs) ∧
    (∀ args pairs, Lists (args.drop 1) pairs → ∀ a, parseArgs args = .ok a ↔ Gives pairs a) := by
  refine ⟨?_, ?_, ?_⟩
  · intro program zipPath targetPath binaryName pid mode
    let pairs : List (Flag × String) := [(.zipPath, zipPath), (.targetPath, targetPath),
      (.binaryName, binaryName), (.pid, u32ToString pid), (.restartMode, mode.text)]
    refine (parseArgs_ok_iff _ _).mpr ⟨pairs, ?_, ?_⟩
    · constructor
      · rfl
      · exact ⟨zipPath, by simp [pairs]⟩
      · exact ⟨targetPath, by simp [pairs]⟩
      · exact ⟨binaryName, by simp [pairs]⟩
      · intro value member
        have same : value = u32ToString pid := by simpa [pairs] using member
        rw [same, u32FromStr_toString]
        rfl
    · constructor
      · rfl
      · rfl
      · rfl
      · change pid = ((some (u32ToString pid)).bind u32FromStr).getD 0
        rw [Option.bind_some, u32FromStr_toString]
        rfl
      · rfl
  · intro args
    constructor
    · rintro ⟨a, parsed⟩
      obtain ⟨pairs, lists, _⟩ := (parseArgs_ok_iff args a).mp parsed
      exact ⟨pairs, lists⟩
    · rintro ⟨pairs, lists⟩
      obtain ⟨a, gives⟩ := lists.exists_gives
      exact ⟨a, (parseArgs_ok_iff args a).mpr ⟨pairs, lists, gives⟩⟩
  · intro args pairs lists a
    constructor
    · intro parsed
      obtain ⟨a', gives⟩ := lists.exists_gives
      have parsed' := (parseArgs_ok_iff args a').mpr ⟨pairs, lists, gives⟩
      have same := Except.ok.inj (parsed.symm.trans parsed')
      exact same ▸ gives
    · intro gives
      exact (parseArgs_ok_iff args a).mpr ⟨pairs, lists, gives⟩

end ApiBoilerplate.Updater
