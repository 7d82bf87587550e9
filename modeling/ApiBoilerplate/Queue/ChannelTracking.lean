import ApiBoilerplate.Queue.Channel

/-!
# The channel backend keeps job accounts

The account of a job says where its envelope is: with a sender, in the channel,
in flight, or gone with its end recorded. Every step of the process moves the
envelope of one job.
-/

namespace ApiBoilerplate
namespace ChannelQueue

open Foundation
open Lifecycle (Stage Job Move Advance Ledger Sound SoundLedger Tracking eventsOf_append)

variable {Value : Type}

/-- Where a waiting envelope is: with a sender, or in the channel. -/
abbrev Place := Option Sender

/-- An envelope that carries the `n`-th attempt count of a job. -/
structure EnvelopeAt (e : JobEnvelope Value) (i : Uuid) (m n : Nat) (x : JobStatus) : Prop where
  id : e.id = i
  budget : e.maxAttempts.toNat = m
  attempts : e.attempts.toNat = n
  status : e.status = x

def waitingStatus : Nat → JobStatus
  | 0 => .pending
  | _ + 1 => .retrying

/-- What is found where the stage of job `i` says. -/
def Shows (s : ChannelQueue Value) (i : Uuid) (m : Nat) : Stage Place TaskId → Prop
  | .waiting (some sender) n =>
    ∃ e, s.sends sender = some e ∧ EnvelopeAt e i m n (waitingStatus n)
  | .waiting none n => ∃ e ∈ s.backend.buffer, EnvelopeAt e i m n (waitingStatus n)
  | .held t n r =>
    (∃ job, s.tasks t = some job ∧ EnvelopeAt job.envelope i m n .running ∧
      job.result.map Except.isOk = r) ∧
    ∃ e, s.backend.inFlight.lookup i = some e ∧ EnvelopeAt e i m n .running
  | .stranded n => ∃ e, s.backend.inFlight.lookup i = some e ∧ EnvelopeAt e i m n .running
  | .completed _ => s.finished.lookup i = some .completed
  | .failed _ => s.finished.lookup i = some .failed
  | .lost _ => True

/-- Nothing of job `i` is found elsewhere. -/
structure Only (s : ChannelQueue Value) (i : Uuid) (stage : Option (Stage Place TaskId)) :
    Prop where
  sending : ∀ sender e, s.sends sender = some e → e.id = i →
    ∃ n, stage = some (.waiting (some sender) n)
  buffered : ∀ e ∈ s.backend.buffer, e.id = i → ∃ n, stage = some (.waiting none n)
  inFlight : ∀ e, s.backend.inFlight.lookup i = some e →
    ∃ n, (∃ t r, stage = some (.held t n r)) ∨ stage = some (.stranded n)
  task : ∀ t job, s.tasks t = some job → job.envelope.id = i →
    ∃ n r, stage = some (.held t n r)
  finished : ∀ x, s.finished.lookup i = some x →
    ∃ n, (x = .completed ∧ stage = some (.completed n)) ∨ (x = .failed ∧ stage = some (.failed n))

structure Tracks (s : ChannelQueue Value) (L : Ledger Place TaskId) : Prop where
  budget : ∀ i, (s.submitted.lookup i).map UInt32.toNat = (L i).map Job.maxAttempts
  shows_ : ∀ i m stage, L i = some ⟨m, stage⟩ → Shows s i m stage
  sole : ∀ i, Only s i ((L i).map Job.stage)
  distinct : (s.backend.buffer.map JobEnvelope.id).Nodup
  free : ∀ t job, s.tasks t = some job → s.sends (.task t) = none

/-- The two states agree on every job but `i`. -/
structure Frame (i : Uuid) (s s' : ChannelQueue Value) : Prop where
  sends : ∀ sender e, e.id ≠ i → (s'.sends sender = some e ↔ s.sends sender = some e)
  buffer : ∀ e : JobEnvelope Value, e.id ≠ i → (e ∈ s'.backend.buffer ↔ e ∈ s.backend.buffer)
  inFlight : ∀ j, j ≠ i → s'.backend.inFlight.lookup j = s.backend.inFlight.lookup j
  tasks : ∀ t job, job.envelope.id ≠ i → (s'.tasks t = some job ↔ s.tasks t = some job)
  finished : ∀ j, j ≠ i → s'.finished.lookup j = s.finished.lookup j
  submitted : ∀ j, j ≠ i → s'.submitted.lookup j = s.submitted.lookup j

section Frames
variable {s s' : ChannelQueue Value} {L : Ledger Place TaskId} {i j : Uuid}

theorem Frame.shows_ (frame : Frame i s s') (other : j ≠ i) {m : Nat}
    {stage : Stage Place TaskId} (before : Shows s j m stage) : Shows s' j m stage := by
  cases stage with
  | waiting p n =>
    cases p with
    | some sender =>
      obtain ⟨e, sending, at_⟩ := before
      exact ⟨e, (frame.sends sender e (fun h => other (at_.id.symm.trans h))).mpr sending, at_⟩
    | none =>
      obtain ⟨e, listed, at_⟩ := before
      exact ⟨e, (frame.buffer e (fun h => other (at_.id.symm.trans h))).mpr listed, at_⟩
  | held t n r =>
    obtain ⟨⟨job, live, at_, result⟩, e, filed, at_'⟩ := before
    exact ⟨⟨job, (frame.tasks t job (fun h => other (at_.id.symm.trans h))).mpr live, at_, result⟩,
      e, (frame.inFlight j other).trans filed, at_'⟩
  | stranded n =>
    obtain ⟨e, filed, at_⟩ := before
    exact ⟨e, (frame.inFlight j other).trans filed, at_⟩
  | completed n => exact (frame.finished j other).trans before
  | failed n => exact (frame.finished j other).trans before
  | lost n => trivial

theorem Frame.only (frame : Frame i s s') (other : j ≠ i) {stage : Option (Stage Place TaskId)}
    (before : Only s j stage) : Only s' j stage where
  sending sender e sending id :=
    before.sending sender e
      ((frame.sends sender e (fun h => other (id.symm.trans h))).mp sending) id
  buffered e listed id :=
    before.buffered e ((frame.buffer e (fun h => other (id.symm.trans h))).mp listed) id
  inFlight e filed := before.inFlight e ((frame.inFlight j other).symm.trans filed)
  task t job live id :=
    before.task t job ((frame.tasks t job (fun h => other (id.symm.trans h))).mp live) id
  finished x ended := before.finished x ((frame.finished j other).symm.trans ended)

/-- What `Tracking.next` asks of a step, job by job. -/
def StepsTo (R : Prop) (s s' : ChannelQueue Value) (L L' : Ledger Place TaskId) : Prop :=
  ∀ i, (L' i = L i ∧ view.events s' i = view.events s i ∧ view.record s' i = view.record s i) ∨
    ∃ new, Advance R (L i) (L' i) new ∧ view.events s' i = view.events s i ++ new

/-- A step that changes the account of job `i` only. -/
theorem Tracks.change (tracks : Tracks s L) (frame : Frame i s s') {R : Prop}
    {job : Job Place TaskId} {new : List Lifecycle.Event}
    (advance : Advance R (L i) (some job) new)
    (history : s'.history = s.history ++ new.map (fun e => (i, e)))
    (budget : (s'.submitted.lookup i).map UInt32.toNat = some job.maxAttempts)
    (shows_ : Shows s' i job.maxAttempts job.stage) (only : Only s' i (some job.stage))
    (distinct : (s'.backend.buffer.map JobEnvelope.id).Nodup)
    (free : ∀ t job, s'.tasks t = some job → s'.sends (.task t) = none) :
    ∃ L', Tracks s' L' ∧ StepsTo R s s' L L' := by
  refine ⟨Function.update L i (some job), ⟨?_, ?_, ?_, distinct, free⟩, ?_⟩
  · intro j
    by_cases same : j = i
    · subst same
      rw [Function.update_self, budget, Option.map_some]
    · rw [Function.update_of_ne same, frame.submitted j same]
      exact tracks.budget j
  · intro j m stage account
    by_cases same : j = i
    · subst same
      rw [Function.update_self] at account
      obtain rfl := Option.some.inj account
      exact shows_
    · rw [Function.update_of_ne same] at account
      exact frame.shows_ same (tracks.shows_ j m stage account)
  · intro j
    by_cases same : j = i
    · subst same
      rw [Function.update_self]
      exact only
    · rw [Function.update_of_ne same]
      exact frame.only same (tracks.sole j)
  · intro j
    have events : view.events s' j = view.events s j ++ if j = i then new else [] :=
      (congrArg (fun h => Lifecycle.eventsOf h j) history).trans
        (eventsOf_append s.history i j new)
    by_cases same : j = i
    · subst same
      refine Or.inr ⟨new, ?_, by rw [events, if_pos rfl]⟩
      rw [Function.update_self]
      exact advance
    · refine Or.inl ⟨Function.update_of_ne same .., ?_, frame.finished j same⟩
      rw [events, if_neg same, List.append_nil]

end Frames

section Places
variable {s : ChannelQueue Value} {L : Ledger Place TaskId}

theorem Tracks.account_of_only (tracks : Tracks s L) {i : Uuid} {stage : Stage Place TaskId}
    (only : (L i).map Job.stage = some stage) :
    ∃ m, L i = some ⟨m, stage⟩ ∧ Shows s i m stage := by
  obtain ⟨⟨m, stage'⟩, account, rfl⟩ := Option.map_eq_some_iff.mp only
  exact ⟨m, account, tracks.shows_ i m _ account⟩

theorem Tracks.at_sender (tracks : Tracks s L) {sender : Sender} {e : JobEnvelope Value}
    (sending : s.sends sender = some e) : ∃ m n, L e.id = some ⟨m, .waiting (some sender) n⟩ ∧
      EnvelopeAt e e.id m n (waitingStatus n) := by
  obtain ⟨n, stage⟩ := (tracks.sole e.id).sending sender e sending rfl
  obtain ⟨m, account, e', sending', at_⟩ := tracks.account_of_only stage
  rw [sending] at sending'
  obtain rfl := Option.some.inj sending'
  exact ⟨m, n, account, at_⟩

theorem Tracks.at_buffer (tracks : Tracks s L) {e : JobEnvelope Value}
    (listed : e ∈ s.backend.buffer) : ∃ m n, L e.id = some ⟨m, .waiting none n⟩ ∧
      EnvelopeAt e e.id m n (waitingStatus n) := by
  obtain ⟨n, stage⟩ := (tracks.sole e.id).buffered e listed rfl
  obtain ⟨m, account, e', listed', at_⟩ := tracks.account_of_only stage
  obtain rfl := List.inj_on_of_nodup_map tracks.distinct listed listed' at_.id.symm
  exact ⟨m, n, account, at_⟩

theorem Tracks.at_task (tracks : Tracks s L) {t : TaskId} {job : JobTask Value}
    (live : s.tasks t = some job) : ∃ m n,
      L job.envelope.id = some ⟨m, .held t n (job.result.map Except.isOk)⟩ ∧
      EnvelopeAt job.envelope job.envelope.id m n .running ∧
      ∃ e, s.backend.inFlight.lookup job.envelope.id = some e ∧
        EnvelopeAt e job.envelope.id m n .running := by
  obtain ⟨n, r, stage⟩ := (tracks.sole job.envelope.id).task t job live rfl
  obtain ⟨m, account, ⟨job', live', at_, result⟩, filed⟩ := tracks.account_of_only stage
  rw [live] at live'
  obtain rfl := Option.some.inj live'
  exact ⟨m, n, result ▸ account, at_, filed⟩

theorem Tracks.at_inFlight (tracks : Tracks s L) {i : Uuid} {e : JobEnvelope Value}
    (filed : s.backend.inFlight.lookup i = some e) : ∃ m n stage, L i = some ⟨m, stage⟩ ∧
      stage.status = some .running ∧ stage.attempts = n ∧ EnvelopeAt e i m n .running := by
  obtain ⟨n, ⟨t, r, stage⟩ | stage⟩ := (tracks.sole i).inFlight e filed
  · obtain ⟨m, account, _, e', filed', at_⟩ := tracks.account_of_only stage
    rw [filed] at filed'
    obtain rfl := Option.some.inj filed'
    exact ⟨m, n, _, account, rfl, rfl, at_⟩
  · obtain ⟨m, account, e', filed', at_⟩ := tracks.account_of_only stage
    rw [filed] at filed'
    obtain rfl := Option.some.inj filed'
    exact ⟨m, n, _, account, rfl, rfl, at_⟩

theorem Tracks.submitted (tracks : Tracks s L) {i : Uuid} {m : Nat}
    {stage : Stage Place TaskId} (account : L i = some ⟨m, stage⟩) :
    (s.submitted.lookup i).map UInt32.toNat = some m := by
  rw [tracks.budget, account, Option.map_some]

end Places

section Absent
variable {s : ChannelQueue Value} {i : Uuid} {stage : Option (Stage Place TaskId)}

theorem Only.not_sending (only : Only s i stage)
    (other : ∀ sender n, stage ≠ some (.waiting (some sender) n)) {sender : Sender}
    {e : JobEnvelope Value} (sending : s.sends sender = some e) : e.id ≠ i := by
  intro id
  obtain ⟨n, same⟩ := only.sending sender e sending id
  exact other sender n same

theorem Only.not_buffered (only : Only s i stage) (other : ∀ n, stage ≠ some (.waiting none n))
    {e : JobEnvelope Value} (listed : e ∈ s.backend.buffer) : e.id ≠ i := by
  intro id
  obtain ⟨n, same⟩ := only.buffered e listed id
  exact other n same

theorem Only.not_inFlight (only : Only s i stage)
    (held : ∀ t n r, stage ≠ some (.held t n r)) (stranded : ∀ n, stage ≠ some (.stranded n)) :
    s.backend.inFlight.lookup i = none := by
  rw [Option.eq_none_iff_forall_ne_some]
  intro e filed
  obtain ⟨n, ⟨t, r, same⟩ | same⟩ := only.inFlight e filed
  · exact held t n r same
  · exact stranded n same

theorem Only.not_task (only : Only s i stage) (other : ∀ t n r, stage ≠ some (.held t n r))
    {t : TaskId} {job : JobTask Value} (live : s.tasks t = some job) : job.envelope.id ≠ i := by
  intro id
  obtain ⟨n, r, same⟩ := only.task t job live id
  exact other t n r same

theorem Only.not_finished (only : Only s i stage) (completed : ∀ n, stage ≠ some (.completed n))
    (failed : ∀ n, stage ≠ some (.failed n)) : s.finished.lookup i = none := by
  rw [Option.eq_none_iff_forall_ne_some]
  intro x ended
  obtain ⟨n, ⟨_, same⟩ | ⟨_, same⟩⟩ := only.finished x ended
  · exact completed n same
  · exact failed n same

end Absent

section Slots
variable {κ α : Type} [DecidableEq κ] {f : κ → Option α} {k k' : κ} {a : α}

theorem update_eq_some {x : α} (entry : Function.update f k (some x) k' = some a) :
    (k' = k ∧ x = a) ∨ (k' ≠ k ∧ f k' = some a) := by
  by_cases same : k' = k
  · rw [same, Function.update_self] at entry
    exact Or.inl ⟨same, Option.some.inj entry⟩
  · rw [Function.update_of_ne same] at entry
    exact Or.inr ⟨same, entry⟩

theorem of_update_none (entry : Function.update f k none k' = some a) :
    k' ≠ k ∧ f k' = some a := by
  by_cases same : k' = k
  · rw [same, Function.update_self] at entry
    cases entry
  · rw [Function.update_of_ne same] at entry
    exact ⟨same, entry⟩

/-- Writing to a slot changes nothing about entries other than the ones written. -/
theorem update_iff {x : Option α} {P : α → Prop} (old : ∀ a, f k = some a → P a)
    (new : ∀ a, x = some a → P a) (other : ¬ P a) :
    Function.update f k x k' = some a ↔ f k' = some a := by
  by_cases same : k' = k
  · subst same
    rw [Function.update_self]
    exact ⟨fun h => absurd (new a h) other, fun h => absurd (old a h) other⟩
  · rw [Function.update_of_ne same]

end Slots

section Step
variable {worker : WorkerConfig} {s s' : ChannelQueue Value} {L : Ledger Place TaskId}

theorem enqueue_tracks (tracks : Tracks s L) {producer : Nat} {order : JobOrder Value} (R : Prop)
    (hs : step worker s (.enqueue producer order) = some s') :
    ∃ L', Tracks s' L' ∧ StepsTo R s s' L L' := by
  cases step_moves hs with
  | enqueued fresh idle =>
    have closed : L order.id = none := by
      have budget := tracks.budget order.id
      rw [Finmap.lookup_eq_none.mpr fresh] at budget
      exact Option.map_eq_none_iff.mp budget.symm
    have before := tracks.sole order.id
    rw [closed, Option.map_none] at before
    have opened : Advance R (L order.id)
        (some ⟨order.maxAttempts.toNat, .waiting (some (.producer producer)) 0⟩) [] := by
      rw [closed]
      exact .opened
    refine tracks.change ?_ opened ?_ ?_ ?_ ?_ tracks.distinct ?_
    · refine ⟨fun sender e other => ?_, fun _ _ => Iff.rfl, fun _ _ => rfl,
        fun _ _ _ => Iff.rfl, fun _ _ => rfl, fun _ other => Finmap.lookup_insert_of_ne _ other⟩
      refine update_iff (P := fun e => e.id = order.id) ?_ ?_ other
      · intro e sending
        rw [idle] at sending
        cases sending
      · intro e same
        rw [← Option.some.inj same]
        exact order.envelope_id
    · exact (List.append_nil _).symm
    · rw [Finmap.lookup_insert]
      rfl
    · exact ⟨order.envelope, Function.update_self .., order.envelope_id,
        by rw [order.envelope_maxAttempts], by rw [order.envelope_attempts]; rfl,
        order.envelope_status⟩
    · refine ⟨fun sender e sending id => ?_,
        fun e listed id => absurd id (before.not_buffered (by simp) listed),
        fun e filed => ?_, fun t job live id => absurd id (before.not_task (by simp) live),
        fun x ended => ?_⟩
      · rcases update_eq_some sending with ⟨same, _⟩ | ⟨_, sending⟩
        · exact ⟨0, by rw [same]⟩
        · exact absurd id (before.not_sending (by simp) sending)
      · rw [before.not_inFlight (by simp) (by simp)] at filed
        cases filed
      · rw [before.not_finished (by simp) (by simp)] at ended
        cases ended
    · intro t job live
      change Function.update s.sends (.producer producer) (some order.envelope) (.task t) = none
      rw [Function.update_of_ne (by simp)]
      exact tracks.free t job live

theorem sendCompletes_tracks (tracks : Tracks s L) {sender : Sender} (R : Prop)
    (hs : step worker s (.sendCompletes sender) = some s') :
    ∃ L', Tracks s' L' ∧ StepsTo R s s' L L' := by
  cases step_moves hs with
  | @sent _ e sending backend accepted =>
    obtain ⟨_, rfl⟩ := ChannelBackend.send_some accepted
    obtain ⟨m, n, account, at_⟩ := tracks.at_sender sending
    have before := tracks.sole e.id
    rw [account, Option.map_some] at before
    have moved : Advance R (L e.id) (some ⟨m, .waiting none n⟩) [] := by
      rw [account]
      exact .moved .place
    refine tracks.change ?_ moved ?_ ?_ ?_ ?_ ?_ ?_
    · refine ⟨fun k e' other => ?_, fun e' other => ?_, fun _ _ => rfl, fun _ _ _ => Iff.rfl,
        fun _ _ => rfl, fun _ _ => rfl⟩
      · refine update_iff (P := fun a => a.id = e.id) ?_ (by simp) other
        intro a same
        rw [sending] at same
        rw [← Option.some.inj same]
      · constructor
        · intro listed
          rcases List.mem_append.mp listed with listed | listed
          · exact listed
          · exact absurd (congrArg JobEnvelope.id (List.mem_singleton.mp listed)) other
        · exact List.mem_append_left _
    · exact (List.append_nil _).symm
    · exact tracks.submitted account
    · exact ⟨e, List.mem_append_right _ (List.mem_singleton.mpr rfl), at_⟩
    · refine ⟨fun k e' sending' id => ?_, fun e' _ _ => ⟨n, rfl⟩, fun e' filed => ?_,
        fun t job live id => absurd id (before.not_task (by simp) live), fun x ended => ?_⟩
      · obtain ⟨other, still⟩ := of_update_none sending'
        obtain ⟨k', same⟩ := before.sending k e' still id
        simp only [Option.some.injEq, Stage.waiting.injEq] at same
        exact absurd same.1.symm other
      · have none := before.not_inFlight (by simp) (by simp)
        exact absurd (filed.symm.trans none) (by simp)
      · have none := before.not_finished (by simp) (by simp)
        exact absurd (ended.symm.trans none) (by simp)
    · change ((s.backend.buffer ++ [e]).map JobEnvelope.id).Nodup
      rw [List.map_append]
      refine List.nodup_append.mpr ⟨tracks.distinct, List.nodup_singleton _, ?_⟩
      rintro _ listed _ last rfl
      obtain ⟨e', listed', same⟩ := List.mem_map.mp listed
      rw [List.map_singleton, List.mem_singleton] at last
      exact before.not_buffered (by simp) listed' (same.trans last)
    · intro t job live
      by_cases same : Sender.task t = sender
      · rw [← same, tracks.free t job live] at sending
        cases sending
      · exact (Function.update_of_ne same ..).trans (tracks.free t job live)

theorem dequeue_tracks (tracks : Tracks s L) (sound : SoundLedger view s L) {task : TaskId}
    (R : Prop) (hs : step worker s (.dequeue task) = some s') :
    ∃ L', Tracks s' L' ∧ StepsTo R s s' L L' := by
  cases step_moves hs with
  | @dequeued _ _ backend idle silent taken =>
    obtain ⟨e, rest, buffered, rfl, rfl⟩ := ChannelBackend.dequeue_some taken
    have head : e ∈ s.backend.buffer := by
      rw [buffered]
      exact List.mem_cons_self
    obtain ⟨m, n, account, at_⟩ := tracks.at_buffer head
    have before := tracks.sole e.id
    rw [account, Option.map_some] at before
    have room := (sound.at account).waiting none n rfl
    have limit : m < 2 ^ 32 := by
      rw [← at_.budget]
      exact e.maxAttempts.toNat_lt
    have next : (e.attempts + 1).toNat = n + 1 := by
      rw [UInt32.toNat_add, at_.attempts]
      exact Nat.mod_eq_of_lt (by change n + 1 < 2 ^ 32; omega)
    have unique : ∀ e' ∈ rest, e'.id ≠ e.id := by
      intro e' listed same
      have distinct := tracks.distinct
      rw [buffered, List.map_cons, List.nodup_cons] at distinct
      exact distinct.1 (same ▸ List.mem_map_of_mem listed)
    have running : EnvelopeAt { e with attempts := e.attempts + 1, status := .running } e.id m
        (n + 1) .running := ⟨rfl, at_.budget, next, rfl⟩
    have started : Advance R (L e.id) (some ⟨m, .held task (n + 1) none⟩) [.started (n + 1)] := by
      rw [account]
      exact .moved .start
    refine tracks.change ?_ started ?_ ?_ ?_ ?_ ?_ ?_
    · refine ⟨fun _ _ _ => Iff.rfl, fun e' other => ?_,
        fun j other => Finmap.lookup_insert_of_ne _ other, fun t job other => ?_,
        fun _ _ => rfl, fun _ _ => rfl⟩
      · rw [buffered, List.mem_cons]
        exact ⟨Or.inr, fun listed => listed.resolve_left (fun same => other (by rw [same]))⟩
      · refine update_iff (P := fun a => a.envelope.id = e.id) ?_ ?_ other
        · intro a live
          rw [idle] at live
          cases live
        · intro a same
          rw [← Option.some.inj same]
    · change s.history ++ [(e.id, .started (e.attempts + 1).toNat)] = _
      rw [next]
      rfl
    · exact tracks.submitted account
    · exact ⟨⟨_, Function.update_self .., running, rfl⟩, _, Finmap.lookup_insert _, running⟩
    · refine ⟨fun sender e' sending id => absurd id (before.not_sending (by simp) sending),
        fun e' listed id => absurd id (unique e' listed),
        fun _ _ => ⟨n + 1, Or.inl ⟨task, none, rfl⟩⟩,
        fun t job live id => ?_, fun x ended => ?_⟩
      · rcases update_eq_some live with ⟨same, _⟩ | ⟨_, live⟩
        · exact ⟨n + 1, none, by rw [same]⟩
        · exact absurd id (before.not_task (by simp) live)
      · have none := before.not_finished (by simp) (by simp)
        exact absurd (ended.symm.trans none) (by simp)
    · have distinct := tracks.distinct
      rw [buffered, List.map_cons, List.nodup_cons] at distinct
      exact distinct.2
    · intro t job live
      rcases update_eq_some live with ⟨rfl, _⟩ | ⟨_, live⟩
      · exact silent
      · exact tracks.free t job live

theorem handlerReturns_tracks (tracks : Tracks s L) {task : TaskId}
    {result : Except QueueError Unit} (R : Prop)
    (hs : step worker s (.handlerReturns task result) = some s') :
    ∃ L', Tracks s' L' ∧ StepsTo R s s' L L' := by
  cases step_moves hs with
  | @returned _ envelope live _ outcome decided =>
    subst decided
    obtain ⟨m, n, account, at_, filed⟩ := tracks.at_task live
    change L envelope.id = some ⟨m, .held task n none⟩ at account
    have before := tracks.sole envelope.id
    rw [account, Option.map_some] at before
    have returned : Advance R (L envelope.id) (some ⟨m, .held task n
        (some (Worker.outcome worker.registered envelope.jobType result).isOk)⟩)
        [.returned (Worker.outcome worker.registered envelope.jobType result).isOk] := by
      rw [account]
      exact .moved .finish
    refine tracks.change ?_ returned ?_ ?_ ?_ ?_ tracks.distinct ?_
    · refine ⟨fun _ _ _ => Iff.rfl, fun _ _ => Iff.rfl, fun _ _ => rfl, fun t job other => ?_,
        fun _ _ => rfl, fun _ _ => rfl⟩
      refine update_iff (P := fun a => a.envelope.id = envelope.id) ?_ ?_ other
      · intro a live'
        rw [live] at live'
        rw [← Option.some.inj live']
      · intro a same
        rw [← Option.some.inj same]
    · rfl
    · exact tracks.submitted account
    · exact ⟨⟨_, Function.update_self .., at_, rfl⟩, filed⟩
    · refine ⟨fun sender e sending id => absurd id (before.not_sending (by simp) sending),
        fun e listed id => absurd id (before.not_buffered (by simp) listed),
        fun _ _ => ⟨n, Or.inl ⟨task, _, rfl⟩⟩, fun t job live' id => ?_, fun x ended => ?_⟩
      · rcases update_eq_some live' with ⟨same, _⟩ | ⟨other, live'⟩
        · exact ⟨n, _, by rw [same]⟩
        · obtain ⟨k, r, same⟩ := before.task t job live' id
          simp only [Option.some.injEq, Stage.held.injEq] at same
          exact absurd same.1.symm other
      · have none := before.not_finished (by simp) (by simp)
        exact absurd (ended.symm.trans none) (by simp)
    · intro t job live'
      rcases update_eq_some live' with ⟨rfl, _⟩ | ⟨_, live'⟩
      · exact tracks.free t _ live
      · exact tracks.free t job live'

theorem finish_of_inFlight {i : Uuid} {e : JobEnvelope Value}
    (filed : s.backend.inFlight.lookup i = some e) (x : JobStatus) :
    s.finish i x = s.finished.insert i x := by
  rw [ChannelQueue.finish, if_pos (Finmap.mem_of_lookup_eq_some filed)]

/-- A held job ends: it leaves the in-flight map, and its end is recorded. -/
theorem Tracks.ends (tracks : Tracks s L) {task : TaskId} {job : JobTask Value}
    (live : s.tasks task = some job) {m n : Nat} {r : Option Bool}
    (account : L job.envelope.id = some ⟨m, .held task n r⟩) {R : Prop}
    {b : Stage Place TaskId} {x : JobStatus} (move : Move R m (.held task n r) b [])
    (final : (x = .completed ∧ b = .completed n) ∨ (x = .failed ∧ b = .failed n)) :
    ∃ L', Tracks { s with
        backend := { s.backend with inFlight := s.backend.inFlight.erase job.envelope.id }
        tasks := Function.update s.tasks task none
        finished := s.finished.insert job.envelope.id x } L' ∧
      StepsTo R s { s with
        backend := { s.backend with inFlight := s.backend.inFlight.erase job.envelope.id }
        tasks := Function.update s.tasks task none
        finished := s.finished.insert job.envelope.id x } L L' := by
  have before := tracks.sole job.envelope.id
  rw [account, Option.map_some] at before
  have ended : Advance R (L job.envelope.id) (some ⟨m, b⟩) [] := by
    rw [account]
    exact .moved move
  refine tracks.change ?_ ended ?_ ?_ ?_ ?_ tracks.distinct ?_
  · refine ⟨fun _ _ _ => Iff.rfl, fun _ _ => Iff.rfl, fun j other => Finmap.lookup_erase_ne other,
      fun t job' other => ?_, fun j other => Finmap.lookup_insert_of_ne _ other, fun _ _ => rfl⟩
    refine update_iff (P := fun a => a.envelope.id = job.envelope.id) ?_ (by simp) other
    intro a live'
    rw [live] at live'
    rw [← Option.some.inj live']
  · exact (List.append_nil _).symm
  · exact tracks.submitted account
  · rcases final with ⟨rfl, rfl⟩ | ⟨rfl, rfl⟩
    · exact Finmap.lookup_insert _
    · exact Finmap.lookup_insert _
  · refine ⟨fun sender e sending id => absurd id (before.not_sending (by simp) sending),
      fun e listed id => absurd id (before.not_buffered (by simp) listed), fun e filed => ?_,
      fun t job' live' id => ?_, fun y ended => ?_⟩
    · have gone :
          (s.backend.inFlight.erase job.envelope.id).lookup job.envelope.id = some e := filed
      simp at gone
    · obtain ⟨other, live'⟩ := of_update_none live'
      obtain ⟨k, q, same⟩ := before.task t job' live' id
      simp only [Option.some.injEq, Stage.held.injEq] at same
      exact absurd same.1.symm other
    · obtain rfl := Option.some.inj ((Finmap.lookup_insert _).symm.trans ended)
      rcases final with ⟨rfl, rfl⟩ | ⟨rfl, rfl⟩
      · exact ⟨n, Or.inl ⟨rfl, rfl⟩⟩
      · exact ⟨n, Or.inr ⟨rfl, rfl⟩⟩
  · intro t job' live'
    exact tracks.free t job' (of_update_none live').2

theorem acknowledge_tracks (tracks : Tracks s L) {task : TaskId} (R : Prop)
    (hs : step worker s (.acknowledge task) = some s') :
    ∃ L', Tracks s' L' ∧ StepsTo R s s' L L' := by
  cases step_moves hs with
  | acknowledged live =>
    obtain ⟨m, n, account, _, e, filed, _⟩ := tracks.at_task live
    rw [finish_of_inFlight filed]
    exact tracks.ends live account .complete (Or.inl ⟨rfl, rfl⟩)

/-- A failed job with attempts left goes back to waiting, in the send of its task. -/
theorem Tracks.requeues (tracks : Tracks s L) {task : TaskId} {job : JobTask Value}
    (live : s.tasks task = some job) {m n : Nat}
    (account : L job.envelope.id = some ⟨m, .held task n (some false)⟩) (R : Prop) (left : n < m)
    {e : JobEnvelope Value} (at_ : EnvelopeAt e job.envelope.id m n .retrying)
    (positive : 1 ≤ n) :
    ∃ L', Tracks { s with
        backend := { s.backend with inFlight := s.backend.inFlight.erase job.envelope.id }
        tasks := Function.update s.tasks task none
        sends := Function.update s.sends (.task task) (some e) } L' ∧
      StepsTo R s { s with
        backend := { s.backend with inFlight := s.backend.inFlight.erase job.envelope.id }
        tasks := Function.update s.tasks task none
        sends := Function.update s.sends (.task task) (some e) } L L' := by
  have before := tracks.sole job.envelope.id
  rw [account, Option.map_some] at before
  have silent := tracks.free task job live
  have again : Advance R (L job.envelope.id) (some ⟨m, .waiting (some (.task task)) n⟩) [] := by
    rw [account]
    exact .moved (.retry left)
  refine tracks.change ?_ again ?_ ?_ ?_ ?_ tracks.distinct ?_
  · refine ⟨fun sender e' other => ?_, fun _ _ => Iff.rfl,
      fun j other => Finmap.lookup_erase_ne other, fun t job' other => ?_, fun _ _ => rfl,
      fun _ _ => rfl⟩
    · refine update_iff (P := fun a => a.id = job.envelope.id) ?_ ?_ other
      · intro a sending
        rw [silent] at sending
        cases sending
      · intro a same
        rw [← Option.some.inj same]
        exact at_.id
    · refine update_iff (P := fun a => a.envelope.id = job.envelope.id) ?_ (by simp) other
      intro a live'
      rw [live] at live'
      rw [← Option.some.inj live']
  · exact (List.append_nil _).symm
  · exact tracks.submitted account
  · obtain ⟨k, rfl⟩ : ∃ k, n = k + 1 := ⟨n - 1, by omega⟩
    exact ⟨e, Function.update_self .., at_⟩
  · refine ⟨fun sender e' sending id => ?_,
      fun e' listed id => absurd id (before.not_buffered (by simp) listed), fun e' filed => ?_,
      fun t job' live' id => ?_, fun y ended => ?_⟩
    · rcases update_eq_some sending with ⟨same, _⟩ | ⟨_, sending⟩
      · exact ⟨n, by rw [same]⟩
      · exact absurd id (before.not_sending (by simp) sending)
    · have gone :
          (s.backend.inFlight.erase job.envelope.id).lookup job.envelope.id = some e' := filed
      simp at gone
    · obtain ⟨other, live'⟩ := of_update_none live'
      obtain ⟨k, q, same⟩ := before.task t job' live' id
      simp only [Option.some.injEq, Stage.held.injEq] at same
      exact absurd same.1.symm other
    · have none := before.not_finished (by simp) (by simp)
      exact absurd (ended.symm.trans none) (by simp)
  · intro t job' live'
    obtain ⟨other, live'⟩ := of_update_none live'
    have apart : Sender.task t ≠ .task task := fun same => other (Sender.task.inj same)
    change Function.update s.sends (.task task) (some e) (.task t) = none
    rw [Function.update_of_ne apart]
    exact tracks.free t job' live'

theorem fail_tracks (tracks : Tracks s L) (sound : SoundLedger view s L) {task : TaskId}
    {now : DateTime} (R : Prop) (hs : step worker s (.fail task now) = some s') :
    ∃ L', Tracks s' L' ∧ StepsTo R s s' L L' := by
  simp only [step] at hs
  split at hs
  · rename_i envelope error live
    obtain ⟨m, n, account, at_, e, filed, at_'⟩ := tracks.at_task live
    change L envelope.id = some ⟨m, .held task n (some false)⟩ at account
    have positive := (sound.at account).positive task n (some false) rfl
    have attempts : envelope.attempts.toNat = n := at_.attempts
    have budget : envelope.maxAttempts.toNat = m := at_.budget
    simp only [ChannelBackend.fail, show s.backend.inFlight.lookup envelope.id = some e from filed]
      at hs
    by_cases left : n < m
    · have retry : Worker.shouldRetry envelope.attempts envelope.maxAttempts = true := by
        apply decide_eq_true
        change envelope.attempts.toNat < envelope.maxAttempts.toNat
        rwa [attempts, budget]
      have again : e.attempts < e.maxAttempts := by
        change e.attempts.toNat < e.maxAttempts.toNat
        rwa [at_'.attempts, at_'.budget]
      simp only [Worker.retryAt, retry, if_true, Option.isSome_some, again, and_self] at hs
      obtain rfl := Option.some.inj hs
      exact tracks.requeues live account R left ⟨at_'.id, at_'.budget, at_'.attempts, rfl⟩ positive
    · have never : Worker.shouldRetry envelope.attempts envelope.maxAttempts = false := by
        apply decide_eq_false
        change ¬ envelope.attempts.toNat < envelope.maxAttempts.toNat
        rwa [attempts, budget]
      simp only [Worker.retryAt, never, Bool.false_eq_true, if_false, Option.isSome_none,
        false_and] at hs
      obtain rfl := Option.some.inj hs
      rw [finish_of_inFlight filed]
      exact tracks.ends live account (.giveUp (not_lt.mp left)) (Or.inr ⟨rfl, rfl⟩)
  · cases hs

theorem vanish_tracks (tracks : Tracks s L) {task : TaskId}
    (hs : step worker s (.vanish task) = some s') :
    ∃ L', Tracks s' L' ∧ StepsTo True s s' L L' := by
  cases step_moves hs with
  | @vanished _ job live =>
    obtain ⟨m, n, account, _, filed⟩ := tracks.at_task live
    have before := tracks.sole job.envelope.id
    rw [account, Option.map_some] at before
    have stranded : Advance True (L job.envelope.id) (some ⟨m, .stranded n⟩) [] := by
      rw [account]
      exact .moved (.vanish trivial)
    refine tracks.change ?_ stranded ?_ ?_ ?_ ?_ tracks.distinct ?_
    · refine ⟨fun _ _ _ => Iff.rfl, fun _ _ => Iff.rfl, fun _ _ => rfl, fun t job' other => ?_,
        fun _ _ => rfl, fun _ _ => rfl⟩
      refine update_iff (P := fun a => a.envelope.id = job.envelope.id) ?_ (by simp) other
      intro a live'
      rw [live] at live'
      rw [← Option.some.inj live']
    · exact (List.append_nil _).symm
    · exact tracks.submitted account
    · exact filed
    · refine ⟨fun sender e sending id => absurd id (before.not_sending (by simp) sending),
        fun e listed id => absurd id (before.not_buffered (by simp) listed),
        fun _ _ => ⟨n, Or.inr rfl⟩, fun t job' live' id => ?_, fun x ended => ?_⟩
      · obtain ⟨other, live'⟩ := of_update_none live'
        obtain ⟨k, q, same⟩ := before.task t job' live' id
        simp only [Option.some.injEq, Stage.held.injEq] at same
        exact absurd same.1.symm other
      · have none := before.not_finished (by simp) (by simp)
        exact absurd (ended.symm.trans none) (by simp)
    · intro t job' live'
      exact tracks.free t job' (of_update_none live').2

theorem cancel_tracks (tracks : Tracks s L) {sender : Sender}
    (hs : step worker s (.cancel sender) = some s') :
    ∃ L', Tracks s' L' ∧ StepsTo True s s' L L' := by
  cases step_moves hs with
  | @cancelled _ e sending =>
    obtain ⟨m, n, account, at_⟩ := tracks.at_sender sending
    have before := tracks.sole e.id
    rw [account, Option.map_some] at before
    have lost : Advance True (L e.id) (some ⟨m, .lost n⟩) [] := by
      rw [account]
      exact .moved (.drop trivial)
    refine tracks.change ?_ lost ?_ ?_ trivial ?_ tracks.distinct ?_
    · refine ⟨fun k e' other => ?_, fun _ _ => Iff.rfl, fun _ _ => rfl, fun _ _ _ => Iff.rfl,
        fun _ _ => rfl, fun _ _ => rfl⟩
      refine update_iff (P := fun a => a.id = e.id) ?_ (by simp) other
      intro a same
      rw [sending] at same
      rw [← Option.some.inj same]
    · exact (List.append_nil _).symm
    · exact tracks.submitted account
    · refine ⟨fun k e' sending' id => ?_,
        fun e' listed id => absurd id (before.not_buffered (by simp) listed), fun e' filed => ?_,
        fun t job live id => absurd id (before.not_task (by simp) live), fun x ended => ?_⟩
      · obtain ⟨other, still⟩ := of_update_none sending'
        obtain ⟨k', same⟩ := before.sending k e' still id
        simp only [Option.some.injEq, Stage.waiting.injEq] at same
        exact absurd same.1.symm other
      · have none := before.not_inFlight (by simp) (by simp)
        exact absurd (filed.symm.trans none) (by simp)
      · have none := before.not_finished (by simp) (by simp)
        exact absurd (ended.symm.trans none) (by simp)
    · intro t job live
      by_cases same : Sender.task t = sender
      · rw [← same, tracks.free t job live] at sending
        cases sending
      · exact (Function.update_of_ne same ..).trans (tracks.free t job live)

theorem step_tracks {l : Label Value} (tracks : Tracks s L) (sound : SoundLedger view s L)
    (hs : step worker s l = some s') :
    ∃ L', Tracks s' L' ∧ StepsTo (Disturbs s l) s s' L L' := by
  cases l with
  | enqueue producer order => exact enqueue_tracks tracks _ hs
  | sendCompletes sender => exact sendCompletes_tracks tracks _ hs
  | dequeue task => exact dequeue_tracks tracks sound _ hs
  | handlerReturns task result => exact handlerReturns_tracks tracks _ hs
  | acknowledge task => exact acknowledge_tracks tracks _ hs
  | fail task now => exact fail_tracks tracks sound _ hs
  | vanish task => exact vanish_tracks tracks hs
  | cancel sender => exact cancel_tracks tracks hs

end Step

theorem tracks_start (capacity : Nat) : Tracks
    (⟨.new capacity, fun _ => none, fun _ => none, ∅, ∅, []⟩ : ChannelQueue Value)
    (fun _ => none) where
  budget := fun _ => rfl
  shows_ := by simp
  sole := fun i => ⟨by simp, by simp [ChannelBackend.new], by simp [ChannelBackend.new],
    by simp, by simp⟩
  distinct := List.nodup_nil
  free := by simp

/-- Every place an envelope can be in shows the status and counter of its account. -/
theorem Tracks.located {s : ChannelQueue Value} {L : Ledger Place TaskId} (tracks : Tracks s L)
    {e : JobEnvelope Value} (located : Located s e) : ∃ m stage, L e.id = some ⟨m, stage⟩ ∧
      stage.status = some e.status ∧ e.attempts.toNat = stage.attempts ∧ ¬ stage.Terminal := by
  have waiting : ∀ (p : Place) (n : Nat),
      (Stage.waiting p n : Stage Place TaskId).status = some (waitingStatus n) := by
    intro p n
    cases n <;> rfl
  cases located with
  | sending sending =>
    obtain ⟨m, n, account, at_⟩ := tracks.at_sender sending
    exact ⟨m, _, account, by rw [waiting, at_.status], at_.attempts, fun h => h⟩
  | buffered listed =>
    obtain ⟨m, n, account, at_⟩ := tracks.at_buffer listed
    exact ⟨m, _, account, by rw [waiting, at_.status], at_.attempts, fun h => h⟩
  | inFlight filed =>
    obtain ⟨m, n, stage, account, status, attempts, at_⟩ := tracks.at_inFlight filed
    rw [at_.id]
    refine ⟨m, stage, account, by rw [status, at_.status], by rw [attempts, at_.attempts], ?_⟩
    cases stage with
    | completed n => cases status
    | failed n => cases status
    | _ => exact fun h => h

theorem Tracks.status_iff {s : ChannelQueue Value} {L : Ledger Place TaskId} (tracks : Tracks s L)
    (i : Uuid) (x : JobStatus) : view.status s i x ↔
      ∃ m stage, L i = some ⟨m, stage⟩ ∧ stage.status = some x := by
  constructor
  · rintro (⟨e, located, rfl, rfl⟩ | ended)
    · obtain ⟨m, stage, account, status, _⟩ := tracks.located located
      exact ⟨m, stage, account, status⟩
    · obtain ⟨n, ⟨rfl, stage⟩ | ⟨rfl, stage⟩⟩ := (tracks.sole i).finished x ended
      · obtain ⟨m, account, _⟩ := tracks.account_of_only stage
        exact ⟨m, _, account, rfl⟩
      · obtain ⟨m, account, _⟩ := tracks.account_of_only stage
        exact ⟨m, _, account, rfl⟩
  · rintro ⟨m, stage, account, status⟩
    have shown := tracks.shows_ i m stage account
    cases stage with
    | waiting p n =>
      have same : waitingStatus n = x := by
        cases n <;> exact Option.some.inj status
      cases p with
      | some sender =>
        obtain ⟨e, sending, at_⟩ := shown
        exact Or.inl ⟨e, .sending sending, at_.id, at_.status.trans same⟩
      | none =>
        obtain ⟨e, listed, at_⟩ := shown
        exact Or.inl ⟨e, .buffered listed, at_.id, at_.status.trans same⟩
    | held t n r =>
      obtain ⟨_, e, filed, at_⟩ := shown
      exact Or.inl ⟨e, .inFlight filed, at_.id, at_.status.trans (Option.some.inj status)⟩
    | stranded n =>
      obtain ⟨e, filed, at_⟩ := shown
      exact Or.inl ⟨e, .inFlight filed, at_.id, at_.status.trans (Option.some.inj status)⟩
    | completed n =>
      obtain rfl := Option.some.inj status
      exact Or.inr shown
    | failed n =>
      obtain rfl := Option.some.inj status
      exact Or.inr shown
    | lost n => cases status

/-- The channel and its tasks are tracked by job accounts. -/
theorem tracking (worker : WorkerConfig) (capacity : Nat) :
    Tracking (machine worker capacity : Machine (ChannelQueue Value) (Label Value)) view Disturbs
      Tracks where
  start := tracks_start capacity
  silent := fun _ => rfl
  next := fun tracks sound hs => step_tracks tracks sound hs
  holds := by
    intro s L tracks t i
    constructor
    · rintro ⟨job, live, rfl⟩
      obtain ⟨m, n, account, _⟩ := tracks.at_task live
      exact ⟨m, n, _, account⟩
    · rintro ⟨m, n, r, account⟩
      obtain ⟨⟨job, live, at_, _⟩, _⟩ := tracks.shows_ i m _ account
      exact ⟨job, live, at_.id⟩
  status := fun tracks i x => tracks.status_iff i x
  budget := fun tracks i => tracks.budget i
  counter := by
    rintro s L tracks i a ⟨e, located, rfl, rfl⟩
    obtain ⟨m, stage, account, _, attempts, _⟩ := tracks.located located
    exact ⟨m, stage, account, by rw [attempts]⟩

end ChannelQueue
end ApiBoilerplate
