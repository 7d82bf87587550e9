import ApiBoilerplate.Foundation.ReverseIndex
import Mathlib.Tactic.Tauto

/-!
# Log files and their retention

A process writes its log to files of its own name, one for each day or hour, and
deletes the old ones later. The name a file is created under and the test that picks
the files to delete are two separate pieces of the program.
-/

namespace ApiBoilerplate.Bootstrap

open Foundation

inductive Rotation where
  | hourly
  | never
  | daily
  deriving DecidableEq, Repr

/-- The rotation of the configuration; any other text means daily. -/
def Rotation.ofConfig (rotation : String) : Rotation :=
  if rotation = "hourly" then .hourly else if rotation = "never" then .never else .daily

def daysIn (year month : Nat) : Nat :=
  if month = 2 then if 4 ∣ year ∧ (¬ 100 ∣ year ∨ 400 ∣ year) then 29 else 28
  else if month ∈ [4, 6, 9, 11] then 30
  else 31

/-- An hour of the calendar. -/
structure CalendarHour where
  year : Nat
  month : Nat
  day : Nat
  hour : Nat
  fourDigits : year < 10000
  ofYear : 1 ≤ month ∧ month ≤ 12
  ofMonth : 1 ≤ day ∧ day ≤ daysIn year month
  ofDay : hour < 24

/-- A number with at least `width` digits. -/
def padded (width n : Nat) : String :=
  let digits := Nat.toDigits 10 n
  String.ofList (List.replicate (width - digits.length) '0' ++ digits)

/-- The date format of a rotation. -/
def Rotation.date : Rotation → CalendarHour → String
  | .hourly, at_ =>
    padded 4 at_.year ++ "-" ++ padded 2 at_.month ++ "-" ++ padded 2 at_.day ++ "-" ++
      padded 2 at_.hour
  | _, at_ => padded 4 at_.year ++ "-" ++ padded 2 at_.month ++ "-" ++ padded 2 at_.day

/-- The file that the appender of `build_appender` writes to at an hour. An empty name
makes no part of it. -/
def appenderFile (rotation processName : String) (at_ : CalendarHour) : String :=
  let start := if processName = "" then "" else processName ++ "."
  match Rotation.ofConfig rotation with
  | .never => start ++ "log"
  | dated => start ++ dated.date at_ ++ ".log"

/-- A name that some rotation and some hour give. -/
def Produced (processName name : String) : Prop :=
  ∃ rotation at_, appenderFile rotation processName at_ = name

/-- The name of a file: text, or bytes that are no text. -/
inductive FileName where
  | text (name : String)
  | bytes (name : List UInt8)
  deriving DecidableEq, Repr

def FileName.toStr : FileName → Option String
  | .text name => some name
  | .bytes _ => none

/-- What a name in a directory stands for; a link leads to a regular file or not, throughout
a pass: a link to a log that the same pass has removed before is not covered. -/
inductive FileKind where
  | regular
  | directory
  | symlink (toFile : Bool)
  | other
  deriving DecidableEq, Repr

/-- `modified` is that of the entry itself, in nanoseconds. -/
structure DirEntry where
  kind : FileKind
  modified : Int
  deriving DecidableEq, Repr

/-- `Path::is_file` follows links. -/
def DirEntry.isFile (entry : DirEntry) : Bool :=
  match entry.kind with
  | .regular => true
  | .symlink toFile => toFile
  | _ => false

abbrev Directory := FinMap FileName DirEntry

/-- What `read_dir` yields. -/
structure Listing (dir : Directory) where
  names : List FileName
  complete : ∀ name, name ∈ names ↔ name ∈ dir

def cutoff (now : Int) (retentionDays : UInt32) : Int :=
  now - (retentionDays.toNat * 24 * 3600 : Nat) * 1000000000

def startsWith (name part : String) : Bool := part.toList.isPrefixOf name.toList

/-- The loop body of `cleanup_old_logs`. -/
def cleanupEntry (processName : String) (cutoff : Int) (dir : Directory) (name : FileName) :
    Directory :=
  match dir.lookup name with
  | none => dir
  | some entry =>
    if ¬ entry.isFile then dir
    else if ¬ startsWith (name.toStr.getD "") processName then dir
    else if entry.modified < cutoff then dir.erase name
    else dir

def cleanupOldLogs (processName : String) (retentionDays : UInt32) (now : Int) (dir : Directory)
    (listing : Listing dir) : Directory :=
  listing.names.foldl (cleanupEntry processName (cutoff now retentionDays)) dir

/-- The test of `cleanup_old_logs`. -/
def Doomed (processName : String) (limit : Int) (name : FileName) (entry : DirEntry) : Prop :=
  entry.isFile = true ∧ startsWith (name.toStr.getD "") processName = true ∧ entry.modified < limit

instance (processName : String) (limit : Int) (name : FileName) (entry : DirEntry) :
    Decidable (Doomed processName limit name entry) :=
  inferInstanceAs (Decidable (_ ∧ _))

section Deletion
variable {processName : String} {limit : Int}

theorem cleanupEntry_eq {dir : Directory} {name : FileName} {entry : DirEntry}
    (found : dir.lookup name = some entry) : cleanupEntry processName limit dir name =
      if Doomed processName limit name entry then dir.erase name else dir := by
  simp only [cleanupEntry, found, Doomed]
  by_cases file : entry.isFile = true
  · by_cases named : startsWith (name.toStr.getD "") processName = true
    · simp [file, named]
    · simp [file, named]
  · simp [file]

theorem cleanupEntry_lookup (dir : Directory) (name k : FileName) (e : DirEntry) :
    (cleanupEntry processName limit dir name).lookup k = some e ↔
      dir.lookup k = some e ∧ ¬ (k = name ∧ Doomed processName limit k e) := by
  cases found : dir.lookup name with
  | none =>
    simp only [cleanupEntry, found]
    constructor
    · intro there
      refine ⟨there, ?_⟩
      rintro ⟨rfl, _⟩
      rw [found] at there
      cases there
    · exact fun there => there.1
  | some entry =>
    rw [cleanupEntry_eq found]
    by_cases same : k = name
    · subst same
      rw [found, Option.some_inj]
      by_cases doomed : Doomed processName limit k entry
      · rw [if_pos doomed, Finmap.lookup_erase]
        constructor
        · nofun
        · rintro ⟨rfl, spared⟩
          exact absurd ⟨rfl, doomed⟩ spared
      · rw [if_neg doomed, found, Option.some_inj]
        constructor
        · rintro rfl
          exact ⟨rfl, fun both => doomed both.2⟩
        · exact fun both => both.1
    · have other : ¬ (k = name ∧ Doomed processName limit k e) := fun both => same both.1
      split
      · rw [Finmap.lookup_erase_ne same, and_iff_left other]
      · rw [and_iff_left other]

theorem foldl_cleanup_lookup (names : List FileName) (dir : Directory) (k : FileName)
    (e : DirEntry) :
    (names.foldl (cleanupEntry processName limit) dir).lookup k = some e ↔
      dir.lookup k = some e ∧ ¬ (k ∈ names ∧ Doomed processName limit k e) := by
  induction names generalizing dir with
  | nil => simp
  | cons name names ih =>
    rw [List.foldl_cons, ih, cleanupEntry_lookup, List.mem_cons]
    tauto

/-- A file stays exactly if it fails the test. -/
theorem cleanupOldLogs_lookup (processName : String) (retentionDays : UInt32) (now : Int)
    (dir : Directory) (listing : Listing dir) (k : FileName) (e : DirEntry) :
    (cleanupOldLogs processName retentionDays now dir listing).lookup k = some e ↔
      dir.lookup k = some e ∧ ¬ Doomed processName (cutoff now retentionDays) k e := by
  rw [cleanupOldLogs, foldl_cleanup_lookup]
  refine and_congr_right fun found => ?_
  have listed : k ∈ listing.names := by
    rw [listing.complete, ← Finmap.lookup_isSome, found]
    rfl
  rw [and_iff_right listed]

end Deletion

theorem startsWith_append (part rest : String) : startsWith (part ++ rest) part = true := by
  rw [startsWith, String.toList_append, List.isPrefixOf_iff_prefix]
  exact List.prefix_append _ _

/-- A name the appender gives begins with the process name and a dot. -/
theorem Produced.dotted {processName name : String} (produced : Produced processName name)
    (named : processName ≠ "") : startsWith name (processName ++ ".") = true := by
  obtain ⟨rotation, at_, rfl⟩ := produced
  unfold appenderFile
  simp only [if_neg named]
  split
  · exact startsWith_append _ _
  · rw [String.append_assoc]
    exact startsWith_append _ _

theorem Produced.startsWith {processName name : String} (produced : Produced processName name) :
    startsWith name processName = true := by
  by_cases named : processName = ""
  · subst named
    rfl
  · have dotted := produced.dotted named
    rw [Bootstrap.startsWith, List.isPrefixOf_iff_prefix] at dotted ⊢
    rw [String.toList_append] at dotted
    exact (List.prefix_append _ _).trans dotted

/-- An old log of the process. -/
structure OwnOldLog (processName : String) (limit : Int) (name : FileName) (entry : DirEntry) :
    Prop where
  regular : entry.kind = .regular
  older : entry.modified < limit
  produced : ∃ text, name = .text text ∧ Produced processName text

theorem OwnOldLog.doomed {processName : String} {limit : Int} {name : FileName}
    {entry : DirEntry} (own : OwnOldLog processName limit name entry) :
    Doomed processName limit name entry := by
  obtain ⟨text, rfl, produced⟩ := own.produced
  refine ⟨?_, produced.startsWith, own.older⟩
  rw [DirEntry.isFile, own.regular]

/-- Of a directory, the old logs of the process are gone and everything else is left as it
was. -/
structure OwnLogsOnly (processName : String) (limit : Int) (dir after : Directory) : Prop where
  removed : ∀ name entry, dir.lookup name = some entry → after.lookup name = none →
    OwnOldLog processName limit name entry
  swept : ∀ name entry, dir.lookup name = some entry →
    OwnOldLog processName limit name entry → after.lookup name = none
  untouched : ∀ name entry, dir.lookup name = some entry →
    ¬ OwnOldLog processName limit name entry → after.lookup name = some entry

/-- An old file that is no log of the process, or a link, under a name that begins like
one. -/
def Stray (processName : String) (limit : Int) (name : FileName) (entry : DirEntry) : Prop :=
  Doomed processName limit name entry ∧ ¬ OwnOldLog processName limit name entry

/-- The cleanup deletes the old logs of the process and nothing else exactly where the
directory holds no stray. -/
theorem own_logs_only_iff (processName : String) (retentionDays : UInt32) (now : Int)
    (dir : Directory) (listing : Listing dir) :
    OwnLogsOnly processName (cutoff now retentionDays) dir
        (cleanupOldLogs processName retentionDays now dir listing) ↔
      ∀ name entry, dir.lookup name = some entry →
        ¬ Stray processName (cutoff now retentionDays) name entry := by
  have kept := cleanupOldLogs_lookup processName retentionDays now dir listing
  constructor
  · rintro only name entry found ⟨doomed, foreign⟩
    exact ((kept name entry).mp (only.untouched name entry found foreign)).2 doomed
  · intro clean
    have gone : ∀ name entry, dir.lookup name = some entry →
        (cleanupOldLogs processName retentionDays now dir listing).lookup name ≠ none →
        ¬ Doomed processName (cutoff now retentionDays) name entry := by
      intro name entry found left
      obtain ⟨e, there⟩ := Option.ne_none_iff_exists'.mp left
      obtain ⟨found', spared⟩ := (kept name e).mp there
      rw [found] at found'
      obtain rfl := Option.some.inj found'
      exact spared
    refine ⟨fun name entry found removed => ?_, fun name entry found own => ?_,
      fun name entry found foreign => ?_⟩
    · by_contra foreign
      have spared : ¬ Doomed processName (cutoff now retentionDays) name entry :=
        fun doomed => clean name entry found ⟨doomed, foreign⟩
      rw [(kept name entry).mpr ⟨found, spared⟩] at removed
      cases removed
    · by_contra left
      exact gone name entry found left own.doomed
    · exact (kept name entry).mpr ⟨found, fun doomed => clean name entry found ⟨doomed, foreign⟩⟩

section Gateway

/-- The directory with an old log of another program. -/
def gatewayLogs : Directory := (∅ : Directory).insert (.text "api-gateway.log") ⟨.regular, 0⟩

def gatewayListing : Listing gatewayLogs where
  names := [.text "api-gateway.log"]
  complete name := by simp [gatewayLogs, Finmap.notMem_empty]

/-- The log of the gateway is deleted with the logs of `api`. -/
theorem gateway_log_deleted :
    ¬ OwnLogsOnly "api" (cutoff (10 ^ 18) 7) gatewayLogs
      (cleanupOldLogs "api" 7 (10 ^ 18) gatewayLogs gatewayListing) := by
  intro only
  have found : gatewayLogs.lookup (.text "api-gateway.log") = some ⟨.regular, 0⟩ :=
    Finmap.lookup_insert _
  have doomed : Doomed "api" (cutoff (10 ^ 18) 7) (.text "api-gateway.log") ⟨.regular, 0⟩ := by
    decide
  have foreign : ¬ OwnOldLog "api" (cutoff (10 ^ 18) 7) (.text "api-gateway.log")
      ⟨.regular, 0⟩ := by
    rintro ⟨_, _, text, ⟨⟩, produced⟩
    exact absurd (produced.dotted (by decide)) (by decide)
  have left := only.untouched _ _ found foreign
  exact ((cleanupOldLogs_lookup _ _ _ _ _ _ _).mp left).2 doomed

end Gateway
end ApiBoilerplate.Bootstrap
