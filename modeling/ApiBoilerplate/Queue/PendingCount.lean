import Mathlib.Data.Finset.Max
import ApiBoilerplate.Foundation.Supply
import ApiBoilerplate.Queue.Guarantees

/-!
# What `pending_count` counts

On the table the counting query and the selecting query ask for the same rows; on
the channel the length counts what `try_recv` can take. Calls of `dequeue` and
nothing else return the counted jobs, each once, and then none.
-/

namespace ApiBoilerplate

open Foundation Lifecycle

namespace DatabaseBackend
variable {Value : Type}

/-- The ids that `WHERE status IN ('pending', 'retrying') AND run_at <= NOW()` finds. -/
def selectable (jobs : JobTable) (now : DateTime) : Finset String :=
  jobs.keys.filter fun id => (jobs.lookup id).any fun row => decide (Selectable now row)

def pendingCount (jobs : JobTable) (now : DateTime) : Nat := (selectable jobs now).card

/-- A call of `dequeue` while nothing else moves and the clock stands at `now`. -/
inductive Dequeue (codec : Codec Value) (now : DateTime) (jobs : JobTable) :
    Except QueueError (Option (JobEnvelope Value)) → JobTable → Prop where
  | none : (∀ id, selectRow jobs now id = .none) → Dequeue codec now jobs (.ok .none) jobs
  | some {id : String} {jobs' : JobTable} {result : Except QueueError (JobEnvelope Value)} :
      dequeue codec jobs now id = .some (jobs', result) →
      Dequeue codec now jobs (result.map .some) jobs'

/-- Every row decodes, to the id it is stored under. -/
def Decodes (codec : Codec Value) (jobs : JobTable) : Prop :=
  ∀ k row, jobs.lookup k = some row → ∃ e, decode codec k row = .ok e ∧ k = e.id.hyphenated

/-- A later call may return the job: its row is selectable and starts when the job says. -/
def Awaited (now : DateTime) (jobs : JobTable) (e : JobEnvelope Value) : Prop :=
  ∃ row, jobs.lookup e.id.hyphenated = some row ∧ Selectable now row ∧ row.runAt = e.runAt

/-- The table as a store of the jobs that are due. -/
def supply (codec : Codec Value) (now : DateTime) :
    Supply JobTable QueueError (JobEnvelope Value) where
  call := Dequeue codec now
  count jobs := pendingCount jobs now
  comes := Awaited now

/-- Different jobs, in the order of their start times. -/
def StartsBefore (a b : JobEnvelope Value) : Prop := a.id ≠ b.id ∧ a.runAt ≤ b.runAt

section Selectable
variable {jobs : JobTable} {now : DateTime} {id : String} {set : JobRow → JobRow} {row : JobRow}

theorem mem_selectable {k : String} :
    k ∈ selectable jobs now ↔ ∃ row, jobs.lookup k = some row ∧ Selectable now row := by
  rw [selectable, Finset.mem_filter, Finmap.mem_keys, ← Finmap.lookup_isSome]
  cases jobs.lookup k with
  | none => simp
  | some row => simp

/-- An update that makes its row wait for nothing. -/
theorem selectable_leave (found : jobs.lookup id = some row)
    (left : ¬ Selectable now (set row)) :
    selectable (update jobs id set) now = (selectable jobs now).erase id := by
  ext k
  rw [Finset.mem_erase, mem_selectable, mem_selectable, lookup_update]
  by_cases same : k = id
  · rw [if_pos same, found, Option.map_some]
    constructor
    · rintro ⟨row', entry, waits⟩
      exact absurd (Option.some.inj entry ▸ waits) left
    · rintro ⟨other, _⟩
      exact absurd same other
  · rw [if_neg same]
    exact ⟨fun waits => ⟨same, waits⟩, And.right⟩

/-- An update that makes its row due. -/
theorem selectable_enter (found : jobs.lookup id = some row)
    (entered : Selectable now (set row)) :
    selectable (update jobs id set) now = insert id (selectable jobs now) := by
  ext k
  rw [Finset.mem_insert, mem_selectable, mem_selectable, lookup_update]
  by_cases same : k = id
  · rw [if_pos same, found, Option.map_some]
    exact ⟨fun _ => Or.inl same, fun _ => ⟨set row, rfl, entered⟩⟩
  · rw [if_neg same]
    exact ⟨Or.inr, fun waits => waits.resolve_left same⟩

/-- Some row is selected unless none is selectable. -/
theorem exists_selectRow (nonempty : (selectable jobs now).Nonempty) :
    ∃ id row, selectRow jobs now id = some row := by
  obtain ⟨id, member, least⟩ := (selectable jobs now).exists_min_image
    (fun k => ((jobs.lookup k).map JobRow.runAt).getD 0) nonempty
  obtain ⟨row, found, waits⟩ := mem_selectable.mp member
  refine ⟨id, row, Option.filter_eq_some_iff.mpr ⟨found, decide_eq_true ⟨waits, ?_⟩⟩⟩
  intro k _ other entry waits'
  have le := least k (mem_selectable.mpr ⟨other, entry, waits'⟩)
  rwa [found, Option.mem_def.mp entry] at le

theorem selectRow_some (selected : selectRow jobs now id = some row) :
    jobs.lookup id = some row ∧ Selectable now row ∧
      ∀ k other, jobs.lookup k = some other → Selectable now other → row.runAt ≤ other.runAt := by
  obtain ⟨found, chosen⟩ := Option.filter_eq_some_iff.mp selected
  obtain ⟨waits, first⟩ := of_decide_eq_true chosen
  refine ⟨found, waits, fun k other entry waits' => ?_⟩
  exact first k (Finmap.mem_keys.mpr (Finmap.mem_of_lookup_eq_some entry)) other entry waits'

end Selectable

section Supply
variable {codec : Codec Value} {jobs : JobTable} {now : DateTime}

theorem decode_runAt {id : String} {row : JobRow} {e : JobEnvelope Value}
    (decoded : decode codec id row = .ok e) : e.runAt = row.runAt := by
  rw [decode] at decoded
  split at decoded
  · cases decoded
  · split at decoded
    · cases decoded
    · rw [← Except.ok.inj decoded]

theorem not_selectable_markRunning (row : JobRow) : ¬ Selectable now (markRunning row) := by
  rintro ⟨waiting, _⟩
  simp [markRunning] at waiting

/-- Marking a row as running changes nothing that is decoded to its id. -/
theorem Decodes.markRunning (decodes : Decodes codec jobs) (id : String) :
    Decodes codec (update jobs id markRunning) := by
  intro k row found
  rw [lookup_update] at found
  split at found
  · rename_i same
    obtain ⟨row', entry, rfl⟩ := Option.map_eq_some_iff.mp found
    subst same
    obtain ⟨e, decoded, key⟩ := decodes k row' entry
    have readable := decode_ok_iff.mp ⟨e, decoded⟩
    obtain ⟨e', again⟩ : ∃ e', decode codec k (DatabaseBackend.markRunning row') = .ok e' :=
      decode_ok_iff.mpr readable
    have same : e'.id = e.id := Except.ok.inj ((decode_id again).symm.trans (decode_id decoded))
    exact ⟨e', again, by rw [same, ← key]⟩
  · exact decodes k row found

/-- A call finds nothing selectable, or returns the job of the row it selects. -/
theorem Dequeue.spec (decodes : Decodes codec jobs) {jobs' : JobTable}
    {answer : Except QueueError (Option (JobEnvelope Value))}
    (called : Dequeue codec now jobs answer jobs') :
    (answer = .ok .none ∧ jobs' = jobs ∧ selectable jobs now = ∅) ∨
      ∃ row e, selectRow jobs now e.id.hyphenated = .some row ∧
        decode codec e.id.hyphenated row = .ok e ∧ answer = .ok (.some e) ∧
        jobs' = update jobs e.id.hyphenated markRunning := by
  cases called with
  | none idle =>
    refine Or.inl ⟨rfl, rfl, ?_⟩
    by_contra waiting
    obtain ⟨id, row, selected⟩ := exists_selectRow (Finset.nonempty_iff_ne_empty.mpr waiting)
    rw [idle id] at selected
    cases selected
  | @some id _ result called =>
    obtain ⟨row, selected, ends⟩ := Option.map_eq_some_iff.mp called
    obtain ⟨rfl, rfl⟩ := Prod.mk.inj ends
    obtain ⟨e, decoded, rfl⟩ := decodes id row (selectRow_some selected).1
    exact Or.inr ⟨row, e, selected, decoded, by rw [decoded]; rfl, rfl⟩

/-- Each call returns the job of the first row and takes that row out of the count. -/
theorem supply_lawful : (supply codec now).Lawful (Decodes codec) StartsBefore where
  answered := by
    intro jobs _
    rcases (selectable jobs now).eq_empty_or_nonempty with none | nonempty
    · refine ⟨_, jobs, .none fun id => ?_⟩
      cases selected : selectRow jobs now id with
      | none => rfl
      | some row =>
        obtain ⟨found, waits, _⟩ := selectRow_some selected
        have member := mem_selectable.mpr ⟨row, found, waits⟩
        simp [none] at member
    · obtain ⟨id, row, selected⟩ := exists_selectRow nonempty
      have called : dequeue codec jobs now id =
          some (update jobs id markRunning, decode codec id row) := by
        rw [dequeue, selected, Option.map_some]
      exact ⟨_, _, .some called⟩
  flawless := by
    intro jobs e jobs' decodes called
    rcases Dequeue.spec decodes called with ⟨answer, _⟩ | ⟨_, _, _, _, answer, _⟩
    · cases answer
    · cases answer
  empty := by
    intro jobs jobs' decodes called
    rcases Dequeue.spec decodes called with ⟨_, same, none⟩ | ⟨_, _, _, _, answer, _⟩
    · refine ⟨?_, same⟩
      change (selectable jobs now).card = 0
      rw [none, Finset.card_empty]
    · cases answer
  taken := by
    intro jobs e jobs' decodes called
    rcases Dequeue.spec decodes called with ⟨answer, _⟩ | ⟨row, e', selected, decoded, answer, rfl⟩
    · cases answer
    obtain rfl : e = e' := by
      cases answer
      rfl
    obtain ⟨found, waits, first⟩ := selectRow_some selected
    have member := mem_selectable.mpr ⟨row, found, waits⟩
    have start := decode_runAt decoded
    refine ⟨decodes.markRunning _, ?_, ⟨row, found, waits, start.symm⟩, ?_⟩
    · change (selectable jobs now).card = _ + 1
      rw [← Finset.card_erase_add_one member]
      congr 2
      exact (selectable_leave found (not_selectable_markRunning row)).symm
    · rintro b ⟨row', found', waits', start'⟩
      rw [lookup_update] at found'
      split at found'
      · rw [found, Option.map_some] at found'
        exact absurd (Option.some.inj found' ▸ waits') (not_selectable_markRunning row)
      · rename_i other
        refine ⟨⟨row', found', waits', start'⟩, fun same => other (by rw [same]), ?_⟩
        rw [start, ← start']
        exact first _ row' found' waits'

end Supply

section Running
variable {jobs : JobTable} {now : DateTime}

/-- What the end of a call on a running row does to the count; the clock that a retry
time is compared with is `NOW()`. -/
structure Settles (jobs : JobTable) (now : DateTime) (i : Uuid) : Prop where
  acknowledged : pendingCount (acknowledge jobs i) now = pendingCount jobs now
  gaveUp : ∀ error failedAt,
    pendingCount (fail jobs i error none failedAt) now = pendingCount jobs now
  retried : ∀ error at_ failedAt, at_ ≤ DateTime.sqlNow now →
    pendingCount (fail jobs i error (some at_) failedAt) now = pendingCount jobs now + 1

theorem settles {i : Uuid} {row : JobRow} (found : jobs.lookup i.hyphenated = some row)
    (running : row.status = .running) : Settles jobs now i := by
  have idle : i.hyphenated ∉ selectable jobs now := by
    intro member
    obtain ⟨row', found', waiting, _⟩ := mem_selectable.mp member
    rw [found] at found'
    obtain rfl := Option.some.inj found'
    rw [running] at waiting
    simp at waiting
  have left : ∀ {set : JobRow → JobRow}, ¬ Selectable now (set row) →
      pendingCount (update jobs i.hyphenated set) now = pendingCount jobs now := by
    intro set gone
    rw [pendingCount, selectable_leave found gone, Finset.erase_eq_of_notMem idle, pendingCount]
  refine ⟨left ?_, fun error failedAt => left ?_, fun error at_ failedAt due => ?_⟩
  · simp [Selectable]
  · simp [Selectable]
  · have entered : Selectable now { row with
        status := .retrying, error := some error, runAt := DateTime.stored at_ } :=
      ⟨Or.inr rfl, DateTime.stored_le_sqlNow due⟩
    rw [pendingCount, fail, selectable_enter found entered, Finset.card_insert_of_notMem idle,
      pendingCount]

end Running

end DatabaseBackend

namespace DatabaseQueue
variable {Value : Type} {codec : Codec Value} {worker : WorkerConfig} {s : DatabaseQueue Value}

/-- A reachable table whose rows decode is one whose rows decode to their ids. -/
theorem reachable_decodes (parse_hyphenated : ∀ u : Uuid, codec.parseStr u.hyphenated = .ok u)
    (reach : (machine codec worker).Reachable s)
    (decode : ∀ k row, s.jobs.lookup k = some row →
      ∃ e, DatabaseBackend.decode codec k row = .ok e) :
    DatabaseBackend.Decodes codec s.jobs := by
  obtain ⟨L, tracks, _⟩ := (tracking codec worker parse_hyphenated).reachable reach
  intro k row found
  obtain ⟨e, decoded⟩ := decode k row found
  obtain ⟨i, rfl⟩ := tracks.keys k row found
  have same : i = e.id :=
    Except.ok.inj ((parse_hyphenated i).symm.trans (DatabaseBackend.decode_id decoded))
  exact ⟨e, decoded, by rw [same]⟩

/-- The row of a job in the hands of a task is running. -/
theorem reachable_running (parse_hyphenated : ∀ u : Uuid, codec.parseStr u.hyphenated = .ok u)
    (reach : (machine codec worker).Reachable s) {task : TaskId} {job : JobTask Value}
    (live : s.tasks task = some job) :
    ∃ row, s.jobs.lookup job.envelope.id.hyphenated = some row ∧ row.status = .running := by
  obtain ⟨L, tracks, _⟩ := (tracking codec worker parse_hyphenated).reachable reach
  obtain ⟨m, n, account, _⟩ := tracks.task task job live
  obtain ⟨row, found, shown, _⟩ := tracks.known account
  exact ⟨row, found, (Option.some.inj shown.status).symm⟩

end DatabaseQueue

namespace ChannelBackend
variable {Value : Type}

def pendingCount (b : ChannelBackend Value) : Nat := b.buffer.length

/-- The envelope as `dequeue` returns it. -/
def running (e : JobEnvelope Value) : JobEnvelope Value :=
  { e with attempts := e.attempts + 1, status := .running }

/-- `fail` to its return when nothing else moves; `none` when its send waits. -/
def failAlone (b : ChannelBackend Value) (id : Uuid) (error : String)
    (retryAt : Option DateTime) : Option (ChannelBackend Value) :=
  match b.fail id error retryAt with
  | (b', some again) => b'.send again
  | (b', none) => some b'

/-- The channel as a store of the jobs sent. -/
def supply : Supply (ChannelBackend Value) QueueError (JobEnvelope Value) where
  call b answer b' := answer = .ok (b.dequeue.map Prod.fst) ∧
    b' = (b.dequeue.map Prod.snd).getD b
  count := pendingCount
  comes b e := e ∈ b.buffer.map running

/-- Different jobs, in the order in which they were sent. -/
def SentBefore (sent : List (JobEnvelope Value)) (a b : JobEnvelope Value) : Prop :=
  a.id ≠ b.id ∧ [a, b].Sublist (sent.map running)

/-- The channel holds the last of the envelopes sent, of different jobs. -/
def Holds (sent : List (JobEnvelope Value)) (b : ChannelBackend Value) : Prop :=
  (∃ earlier, sent = earlier ++ b.buffer) ∧ (b.buffer.map JobEnvelope.id).Nodup

theorem supply_lawful (sent : List (JobEnvelope Value)) :
    (supply : Supply (ChannelBackend Value) _ _).Lawful (Holds sent) (SentBefore sent) where
  answered := fun b _ => ⟨_, _, rfl, rfl⟩
  flawless := by
    rintro b e b' _ ⟨answer, _⟩
    cases answer
  empty := by
    rintro ⟨capacity, buffer, inFlight⟩ b' _ ⟨answer, rest⟩
    cases buffer with
    | nil => exact ⟨rfl, rest⟩
    | cons e buffer => cases answer
  taken := by
    rintro ⟨capacity, buffer, inFlight⟩ a b' ⟨⟨earlier, split⟩, distinct⟩ ⟨answer, rest⟩
    cases buffer with
    | nil => cases answer
    | cons e buffer =>
      obtain rfl : a = running e := by
        cases answer
        rfl
      obtain rfl : b' = ⟨capacity, buffer, inFlight.insert e.id (running e)⟩ := rest
      obtain ⟨fresh, distinct'⟩ := List.nodup_cons.mp distinct
      refine ⟨⟨⟨earlier ++ [e], by rw [split, List.append_assoc]; rfl⟩, distinct'⟩, rfl,
        List.mem_cons_self, fun b listed => ⟨List.mem_cons_of_mem _ listed, ?_, ?_⟩⟩
      · obtain ⟨e', listed', rfl⟩ := List.mem_map.mp listed
        exact fun same => fresh (List.mem_map.mpr ⟨e', listed', same.symm⟩)
      · rw [split, List.map_append]
        exact (List.Sublist.cons_cons _ (List.singleton_sublist.mpr listed)).trans
          (List.sublist_append_right _ _)

/-- What the end of a call on a job in flight does to the count. A retry is sent
when the channel has room for it. -/
structure Settles (b : ChannelBackend Value) (i : Uuid) (e : JobEnvelope Value) : Prop where
  acknowledged : (b.acknowledge i).pendingCount = b.pendingCount
  gaveUp : ∀ error retryAt, retryAt = none ∨ e.maxAttempts ≤ e.attempts →
    (b.failAlone i error retryAt).map pendingCount = some b.pendingCount
  retried : ∀ error at_, e.attempts < e.maxAttempts → b.pendingCount < b.capacity →
    (b.failAlone i error (some at_)).map pendingCount = some (b.pendingCount + 1)
  waits : ∀ error at_, e.attempts < e.maxAttempts → b.capacity ≤ b.pendingCount →
    b.failAlone i error (some at_) = none ∧
    ∃ half again, b.fail i error (some at_) = (half, some again) ∧
      half.pendingCount = b.pendingCount ∧
      ∀ later sent, send later again = some sent → sent.pendingCount = later.pendingCount + 1

theorem send_pendingCount {b b' : ChannelBackend Value} {e : JobEnvelope Value}
    (accepted : b.send e = some b') : b'.pendingCount = b.pendingCount + 1 := by
  obtain ⟨_, rfl⟩ := send_some accepted
  exact List.length_append

theorem settles {b : ChannelBackend Value} {i : Uuid} {e : JobEnvelope Value}
    (found : b.inFlight.lookup i = some e) : Settles b i e := by
  have again : ∀ error at_, e.attempts < e.maxAttempts →
      b.fail i error (some at_) = ({ b with inFlight := b.inFlight.erase i },
        some { e with status := .retrying, error := some error }) := by
    intro error at_ left
    simp only [fail, found]
    rw [if_pos ⟨rfl, left⟩]
  refine ⟨rfl, ?_, ?_, ?_⟩
  · intro error retryAt last
    have gone : b.fail i error retryAt = ({ b with inFlight := b.inFlight.erase i }, none) := by
      simp only [fail, found]
      rw [if_neg]
      rintro ⟨given, left⟩
      rcases last with rfl | spent
      · cases given
      · exact absurd left (UInt32.not_lt.mpr spent)
    rw [failAlone, gone]
    rfl
  · intro error at_ left room
    have open_ : b.buffer.length < b.capacity := room
    rw [failAlone, again error at_ left]
    simp only [send]
    rw [if_pos open_]
    exact congrArg some List.length_append
  · intro error at_ left full
    refine ⟨?_, _, _, again error at_ left, rfl, fun later sent => send_pendingCount⟩
    have closed : ¬ b.buffer.length < b.capacity := not_lt.mpr full
    rw [failAlone, again error at_ left]
    simp only [send]
    rw [if_neg closed]

end ChannelBackend

namespace ChannelQueue
variable {Value : Type} {worker : WorkerConfig} {capacity : Nat}

/-- Envelopes whose send completed, in that order. -/
def sending (s : ChannelQueue Value) (l : Label Value) (sent : List (JobEnvelope Value)) :
    List (JobEnvelope Value) :=
  match l with
  | .sendCompletes sender => sent ++ (s.sends sender).toList
  | _ => sent

def logged (worker : WorkerConfig) (capacity : Nat) :
    Machine (ChannelQueue Value × List (JobEnvelope Value)) (Label Value) :=
  (machine worker capacity).recording [] sending

theorem step_sent {s s' : ChannelQueue Value} {l : Label Value}
    {sent : List (JobEnvelope Value)} (hs : step worker s l = some s')
    (before : ∃ earlier, sent = earlier ++ s.backend.buffer) :
    ∃ earlier, sending s l sent = earlier ++ s'.backend.buffer := by
  obtain ⟨earlier, split⟩ := before
  cases step_moves hs with
  | @sent sender e waits backend accepted =>
    obtain ⟨_, rfl⟩ := ChannelBackend.send_some accepted
    refine ⟨earlier, ?_⟩
    simp only [sending, waits, split, Option.toList_some, List.append_assoc]
  | @dequeued task e backend vacant idle taken =>
    obtain ⟨first, rest, front, _, rfl⟩ := ChannelBackend.dequeue_some taken
    refine ⟨earlier ++ [first], ?_⟩
    simp only [sending, split, front, List.append_assoc, List.singleton_append]
  | resending live now half | failed live now half =>
    exact ⟨earlier, split.trans (by rw [(ChannelBackend.fail_buffer half).1])⟩
  | enqueued | returned | acknowledged | vanished | cancelled => exact ⟨earlier, split⟩

theorem logged_holds {p : ChannelQueue Value × List (JobEnvelope Value)}
    (reach : (logged worker capacity).Reachable p) : p.1.backend.Holds p.2 := by
  obtain ⟨before, split⟩ := reach.recording
    (I := fun s sent => ∃ earlier, sent = earlier ++ s.backend.buffer) ⟨[], rfl⟩
    (fun s sent l s' _ before _ stepped => step_sent stepped before)
  obtain ⟨L, tracks, _⟩ := (tracking worker capacity).reachable before
  exact ⟨split, tracks.distinct⟩

end ChannelQueue

/-- Calls of `dequeue` and nothing else return the counted jobs and then none, on
the table by start time and on the channel as they were sent. The end of a job that
was returned leaves the count, or raises it by one for a retry: on the channel as
soon as the retry is sent, which is at once when the channel has room. -/
theorem pending_count_agrees {Value : Type} {codec : Codec Value} (worker : WorkerConfig)
    (capacity : Nat) (parse_hyphenated : ∀ u : Uuid, codec.parseStr u.hyphenated = .ok u) :
    (∀ jobs, DatabaseBackend.Decodes codec jobs → ∀ now,
      (DatabaseBackend.supply codec now).Drains DatabaseBackend.StartsBefore jobs) ∧
    (∀ (jobs : JobTable) (i : Uuid) row, jobs.lookup i.hyphenated = some row →
      row.status = .running → ∀ now, DatabaseBackend.Settles jobs now i) ∧
    (∀ s, (DatabaseQueue.machine codec worker).Reachable s →
      ((∀ k row, s.jobs.lookup k = some row → ∃ e, DatabaseBackend.decode codec k row = .ok e) →
        DatabaseBackend.Decodes codec s.jobs) ∧
      ∀ task job, s.tasks task = some job →
        ∃ row, s.jobs.lookup job.envelope.id.hyphenated = some row ∧ row.status = .running) ∧
    ∀ p : ChannelQueue Value × List (JobEnvelope Value),
      (ChannelQueue.logged worker capacity).Reachable p →
      ChannelBackend.supply.Drains (ChannelBackend.SentBefore p.2) p.1.backend ∧
      ∀ i e, p.1.backend.inFlight.lookup i = some e → ChannelBackend.Settles p.1.backend i e := by
  refine ⟨fun jobs decodes now => DatabaseBackend.supply_lawful.drains decodes,
    fun jobs i row found running now => DatabaseBackend.settles found running,
    fun s reach => ⟨DatabaseQueue.reachable_decodes parse_hyphenated reach,
      fun task job => DatabaseQueue.reachable_running parse_hyphenated reach⟩,
    fun p reach => ⟨?_, fun i e => ChannelBackend.settles⟩⟩
  exact (ChannelBackend.supply_lawful p.2).drains (ChannelQueue.logged_holds reach)

section Examples

/-- Two heartbeats wait in the table, so three calls return two jobs. -/
theorem pending_count_agrees_twoHeartbeats :
    ∃ s, (DatabaseQueue.machine strokes heartbeats).Reachable s ∧
      DatabaseBackend.pendingCount s.jobs 0 = 2 ∧
      ∀ answers t, (DatabaseBackend.supply strokes 0).Calls s.jobs answers t →
        answers.length = 3 → ∃ a b, answers = [.ok (some a), .ok (some b), .ok none] ∧
          a.id ≠ b.id ∧ a.runAt ≤ b.runAt := by
  obtain ⟨table, _, reachable, _⟩ := pending_count_agrees heartbeats 1 strokes_parse
  obtain ⟨s, reach, checked⟩ := Machine.reachable_of_replay
    (M := DatabaseQueue.machine strokes heartbeats)
    (p := fun s => decide (DatabaseBackend.pendingCount s.jobs 0 = 2))
    [.enqueue (heartbeat 1 3), .enqueue (heartbeat 2 3)] (by decide)
  have counted := of_decide_eq_true checked
  have decodes : DatabaseBackend.Decodes strokes s.jobs := by
    refine (reachable s reach).1 fun k row found => DatabaseBackend.decode_ok_iff.mpr ?_
    obtain ⟨L, tracks, _⟩ :=
      (DatabaseQueue.tracking strokes heartbeats strokes_parse).reachable reach
    obtain ⟨i, rfl⟩ := tracks.keys k row found
    exact ⟨⟨_, rfl⟩, i, strokes_parse i⟩
  refine ⟨s, reach, counted, fun answers t calls three => ?_⟩
  obtain ⟨items, split, length, ordered, _⟩ := (table s.jobs decodes 0).exact answers t calls
  have two : (DatabaseBackend.supply strokes 0).count s.jobs = 2 := counted
  rw [two, three] at split length
  obtain ⟨a, b, rfl⟩ := List.length_eq_two.mp length
  exact ⟨a, b, split, List.rel_of_pairwise_cons ordered List.mem_cons_self⟩

namespace ChannelQueue
variable {Value : Type} {worker : WorkerConfig} {capacity : Nat} {s : ChannelQueue Value}

/-- An `enqueue` that finds room in the channel completes. -/
theorem leads_enqueued (order : JobOrder Value) (n : Nat) (fresh : order.id ∉ s.submitted)
    (idle : s.sends (.producer n) = none) (room : s.backend.buffer.length < s.backend.capacity) :
    (machine worker capacity).Leads s { s with
      backend := { s.backend with buffer := s.backend.buffer ++ [order.envelope] }
      submitted := s.submitted.insert order.id order.maxAttempts } := by
  refine Machine.Leads.head (l := .enqueue n order)
    (if_pos ⟨fresh, Option.isNone_iff_eq_none.mpr idle⟩)
    (Machine.Leads.head (l := .sendCompletes (.producer n)) ?_ (Machine.leads_refl _))
  simp only [machine, step, Function.update_self, ChannelBackend.send]
  rw [if_pos room, Option.map_some, Function.update_idem, ← idle, Function.update_eq_self]

end ChannelQueue

/-- Job 1 was taken off a channel of capacity 1 and job 2 has its place: `fail` of
job 1 waits, and the count stays. -/
theorem full_channel_keeps_count :
    ¬ ∀ s : ChannelQueue Nat, (ChannelQueue.machine heartbeats 1).Reachable s →
      (∀ sender, s.sends sender = none) →
      ∀ i e, s.backend.inFlight.lookup i = some e → e.attempts < e.maxAttempts →
      ∀ error (at_ now : DateTime), at_ ≤ now →
        (s.backend.failAlone i error (some at_)).map ChannelBackend.pendingCount =
          some (s.backend.pendingCount + 1) := by
  intro raises
  have start : (ChannelQueue.machine heartbeats 1 : Machine (ChannelQueue Nat) _).Reachable
    (ChannelQueue.machine heartbeats 1).init := ⟨[], .start⟩
  have first := start.leads
    (ChannelQueue.leads_enqueued (heartbeat 1 3) 0 (by decide) rfl (by decide))
  have taken : (ChannelQueue.machine heartbeats 1 : Machine (ChannelQueue Nat) _).Reachable _ :=
    first.next (l := .dequeue ⟨0, 0⟩) trivial rfl
  have second := taken.leads
    (ChannelQueue.leads_enqueued (heartbeat 2 3) 0 (by decide) rfl (by decide))
  have raised := raises _ second (fun _ => rfl) 1 _ rfl (by decide) "busy" 0 0 (by decide)
  exact absurd raised (by decide)

end Examples

end ApiBoilerplate
