import ApiBoilerplate.Updater.Pending

/-!
# The status and the last check

A check that finds nothing newer stores no version and takes back nothing that
an earlier check has stored. So the status tells of the last check that has
succeeded as long as every one of them finds a newer version, and no longer.
-/

namespace ApiBoilerplate.Updater

open Foundation Http

universe u
variable {V : Type u} [LinearOrder V]

section Runs
variable (parse : String → Except String V) (config : UpdaterConfig)

/-- The updates, with the manifest fetched by the last check that has succeeded. -/
def lastChecked : Machine (State × Option VersionManifest) Label :=
  (machine parse (buildState config)).recording none
    fun _ l last => (checkedBy parse (buildState config) l).or last

/-- The status tells of the manifest, and one that is no newer leaves nothing to
apply, whether or not an update is in progress meanwhile. -/
structure Reflects (status : UpdateStatus) (m : VersionManifest) : Prop where
  available : status.updateAvailable = true ↔ Newer parse status.currentVersion m
  latest : status.latestVersion = some m.version
  withdrawn : ¬ Newer parse status.currentVersion m →
    ∀ m', applyUpdate (buildState config) (status.setInProgress false) ≠ .ok m'

def UpToDate (p : State × Option VersionManifest) : Prop :=
  ∀ m, p.2 = some m → Reflects parse config p.1.status m

/-- The step is no check that succeeds without finding a newer version. -/
def FindsNewer (l : Label) : Prop :=
  ∀ m, checkedBy parse (buildState config) l = some m → Newer parse config.currentVersion m

variable {parse config} {status status' : UpdateStatus} {m : VersionManifest}

theorem Reflects.setInProgress (reflects : Reflects parse config status m) (up : Bool) :
    Reflects parse config (status.setInProgress up) m :=
  ⟨reflects.available, reflects.latest, reflects.withdrawn⟩

theorem reflects_available (current : status.currentVersion = config.currentVersion)
    (newer : Newer parse config.currentVersion m) (now : DateTime) :
    Reflects parse config (status.available m now) m := by
  have newer' : Newer parse (status.available m now).currentVersion m := by
    change Newer parse status.currentVersion m
    rw [current]
    exact newer
  exact ⟨iff_of_true rfl newer', rfl, fun old => absurd newer' old⟩

/-- The version of an earlier check still stands there, or none at all. -/
theorem not_reflects_checked (honest : Honest parse config status)
    (old : ¬ Newer parse config.currentVersion m) (now : DateTime) :
    ¬ Reflects parse config (status.checked now) m := by
  rintro ⟨available, latest, _⟩
  cases shown : status.updateAvailable with
  | true =>
    have newer : Newer parse status.currentVersion m := available.mp shown
    rw [honest.current] at newer
    exact old newer
  | false =>
    have none : status.latestVersion = some m.version := latest
    rw [honest.untold shown] at none
    cases none

theorem step_upToDate_iff {p q : State × Option VersionManifest} {l : Label}
    (honest : Honest parse config p.1.status) (upToDate : UpToDate parse config p)
    (hs : (lastChecked parse config).step p l = some q) :
    UpToDate parse config q ↔ FindsNewer parse config l := by
  obtain ⟨s, last⟩ := p
  obtain ⟨t, last'⟩ := q
  obtain ⟨stepped, recorded⟩ := Machine.recording_step.mp hs
  change step parse (buildState config) s l = some t at stepped
  change (checkedBy parse (buildState config) l).or last = last' at recorded
  subst recorded
  have move := step_status stepped
  change (∀ m, _ = some m → Reflects parse config t.status m) ↔ ∀ m, _ = some m → _
  generalize checkedBy parse (buildState config) l = fetched at move
  generalize t.status = status at move
  cases move with
  | unchecked up =>
    refine iff_of_true (fun m found => ?_) nofun
    exact (upToDate m found).setInProgress up
  | @newer m newer now =>
    refine iff_of_true (fun m' found => ?_) (fun m' found => ?_)
    · obtain rfl : m = m' := Option.some.inj found
      exact reflects_available honest.current newer now
    · obtain rfl : m = m' := Option.some.inj found
      exact newer
  | @upToDate m old now =>
    refine iff_of_false (fun holds => ?_) (fun finds => old (finds m rfl))
    exact not_reflects_checked honest old now (holds m rfl)

theorem lastChecked_honest {p : State × Option VersionManifest}
    (reach : (lastChecked parse config).Reachable p) : Honest parse config p.1.status :=
  (reachable_offered reach.of_recording).honest

/-- The status tells of the last check that has succeeded throughout a run exactly
when every such check of the run finds a newer version. -/
theorem status_reflects_iff (ls : List Label) (p : State × Option VersionManifest) :
    ((lastChecked parse config).Run (fun p _ => UpToDate parse config p) ls p ∧
      UpToDate parse config p) ↔
    (lastChecked parse config).Run (fun _ l => FindsNewer parse config l) ls p := by
  refine Machine.Run.throughout_iff ?_ (fun p l q reach upToDate hs => ?_) ls p
  · exact nofun
  · exact step_upToDate_iff (lastChecked_honest reach) upToDate hs

end Runs

section Examples

/-- The release before `newer`, which is served again once `newer` is withdrawn. -/
def servedAgain : VersionManifest :=
  { newer with
    version := "1.0.0"
    downloadUrl := "https://updates.example.com/api-1.0.0.zip" }

/-- A version that was withdrawn is still there to be applied. -/
theorem withdrawn_still_applied :
    ¬ ∀ p, (lastChecked twoVersions runningOld.config).Reachable p →
      UpToDate twoVersions runningOld.config p := by
  intro claim
  obtain ⟨p, reach, checked⟩ := Machine.reachable_of_replay
    (M := lastChecked twoVersions runningOld.config)
    (p := fun p => decide (p.2 = some servedAgain ∧
      applyUpdate runningOld (p.1.status.setInProgress false) = .ok newer))
    [.manualCheck (.manifest newer) 0, .manualCheck (.manifest servedAgain) 60] (by decide)
  obtain ⟨last, passed⟩ := of_decide_eq_true checked
  refine (claim p reach servedAgain last).withdrawn ?_ newer passed
  rintro ⟨current, remote, readCurrent, readRemote, below⟩
  rw [(lastChecked_honest reach).current] at readCurrent
  obtain rfl : current = remote := Except.ok.inj (readCurrent.symm.trans readRemote)
  exact lt_irrefl current below

end Examples

end ApiBoilerplate.Updater
