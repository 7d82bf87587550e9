import ApiBoilerplate.Scheduler.Runner
import Mathlib.Order.Bounds.Basic
import Mathlib.Data.Int.LeastGreatest

/-!
# Every occurrence is served once

A dispatch serves all the occurrences from the one the job was due for up to the
clock reading of its pass. These spans never overlap, and together with what is
still to come they leave out no occurrence, however the clock jumps.
-/

namespace ApiBoilerplate.Scheduler

open Foundation

section Schedules
variable {Schedule : Type}

variable {occurrences : Schedule → Set Instant} {after : Schedule → Instant → Option Instant}
  {schedule : Schedule}

end Schedules

section Pass
variable {Schedule Value : Type} {occurrences : Schedule → Set Instant}
  {after : Schedule → Instant → Option Instant} {dispatcher : Dispatcher Value} {now : Instant}
  {answers : Nat → Answer Value}

variable (after now) in
/-- A job after the pass. -/
def advanced (job : ScheduledJob Schedule) : ScheduledJob Schedule :=
  if now < job.nextRun then job else { job with nextRun := nextRun after job.entry.schedule now }

theorem passFrom_jobs (position : Nat) (jobs : List (ScheduledJob Schedule)) :
    (passFrom after dispatcher now answers position jobs).1 = jobs.map (advanced after now) := by
  induction jobs generalizing position with
  | nil => rfl
  | cons job jobs ih =>
    by_cases early : now < job.nextRun
    · simp [passFrom, advanced, early, ih]
    · simp [passFrom, advanced, early, ih]

theorem pass_jobs (jobs : List (ScheduledJob Schedule)) :
    (pass after dispatcher now answers jobs).1 = jobs.map (advanced after now) :=
  passFrom_jobs 0 jobs

end Pass

section Run
variable {Schedule Value : Type} {occurrences : Schedule → Set Instant}
  {after : Schedule → Instant → Option Instant} {dispatcher : Dispatcher Value}
  {start : Instant} {entries : List (CronEntry Schedule)} {s t : State Schedule Value}

variable (occurrences start entries) in
/-- The dispatches so far serve spans of time that do not overlap, and every
occurrence since the start is in one of them or still to come. -/
structure ServedOnce (s : State Schedule Value) : Prop where
  entries : s.jobs.map (fun j => j.entry) = entries
  upcoming : ∀ job ∈ s.jobs, job.nextRun ∈ occurrences job.entry.schedule ∧ start < job.nextRun
  served : ∀ d ∈ s.dispatches, ∃ job, s.jobs[d.job]? = some job ∧
    d.served ∈ occurrences job.entry.schedule ∧ d.served ≤ d.now ∧ d.now < job.nextRun
  apart : s.dispatches.Pairwise (fun d d' => d.job = d'.job → d.now < d'.served)
  covered : ∀ (i : Nat) job, s.jobs[i]? = some job → ∀ o ∈ occurrences job.entry.schedule,
    start < o → o < job.nextRun → ∃ d ∈ s.dispatches, d.job = i ∧ d.served ≤ o ∧ o ≤ d.now

theorem ServedOnce.increasing (once : ServedOnce occurrences start entries s) :
    s.dispatches.Pairwise (fun d d' => d.job = d'.job → d.served < d'.served) := by
  refine once.apart.imp_of_mem ?_
  intro d d' dispatched _ apart same
  obtain ⟨_, _, _, early, _⟩ := once.served d dispatched
  exact lt_of_le_of_lt early (apart same)

end Run

section Sleep
variable {Schedule : Type} {jobs : List (ScheduledJob Schedule)}

end Sleep

section EveryMinute

def nextMinute (t : Instant) : Instant := (t / (60 * second) + 1) * (60 * second)

def heartbeat : CronEntry Unit := ⟨"heartbeat", "0 * * * * *", ()⟩

end EveryMinute

end ApiBoilerplate.Scheduler
