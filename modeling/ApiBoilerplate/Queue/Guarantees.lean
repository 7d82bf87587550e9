import ApiBoilerplate.Queue.DatabaseTracking
import ApiBoilerplate.Queue.ChannelTracking

/-!
# What the queue guarantees

Exclusive execution in every run of either backend, and the attempt law in runs
without crashes, panics or backend errors.
-/

namespace ApiBoilerplate

open Foundation Lifecycle

section Exclusive
variable {Value : Type} (codec : Codec Value) (worker : WorkerConfig) (capacity : Nat)

/-- On either backend a job has one holder at a time, changes status along the
edges of the status graph only, and is left alone once it has ended. -/
theorem safe_execution (parse_hyphenated : ∀ u : Uuid, codec.parseStr u.hyphenated = .ok u) :
    SafeExecution (DatabaseQueue.machine codec worker) DatabaseQueue.view ∧
    SafeExecution (ChannelQueue.machine worker capacity :
      Machine (ChannelQueue Value) (ChannelQueue.Label Value)) ChannelQueue.view :=
  ⟨(DatabaseQueue.tracking codec worker parse_hyphenated).safe,
    (ChannelQueue.tracking worker capacity).safe⟩

end Exclusive

/-- Payloads are numbers written as strokes. -/
def strokes : Codec Nat where
  toText n := .ok (String.ofList (List.replicate n '|'))
  fromText text := .ok text.length
  parseStr text :=
    match Uuid.ofHyphenated text with
    | some uuid => .ok uuid
    | none => .error "invalid uuid"

theorem strokes_parse (u : Uuid) : strokes.parseStr u.hyphenated = .ok u := by
  simp only [strokes, Uuid.ofHyphenated_hyphenated]

def heartbeats : WorkerConfig := ⟨fun jobType => jobType = "heartbeat", 5⟩

def heartbeat (id : Uuid) (maxAttempts : UInt32) : JobOrder Nat :=
  ⟨id, 0, "heartbeat", 2, maxAttempts, none⟩

theorem safe_execution_heartbeats :
    SafeExecution (DatabaseQueue.machine strokes heartbeats) DatabaseQueue.view ∧
    SafeExecution (ChannelQueue.machine heartbeats 1 :
      Machine (ChannelQueue Nat) (ChannelQueue.Label Nat)) ChannelQueue.view :=
  safe_execution strokes heartbeats 1 strokes_parse

/-- A step that reports what the outcome stream of the job says for this attempt. -/
def Agrees (worker : WorkerConfig) (outcomes : Uuid → Nat → Bool) {Value : Type}
    (tasks : TaskId → Option (JobTask Value)) (history : List (Uuid × Event)) (task : TaskId)
    (result : Except QueueError Unit) : Prop :=
  ∀ envelope, tasks task = some ⟨envelope, none⟩ →
    outcomes envelope.id (executions (eventsOf history envelope.id)).length =
      (Worker.outcome worker.registered envelope.jobType result).isOk

/-- Which events a step adds to the history. -/
inductive Records {Value : Type} (worker : WorkerConfig)
    (tasks : TaskId → Option (JobTask Value)) (history : List (Uuid × Event)) :
    Option (TaskId × Except QueueError Unit) → List (Uuid × Event) → Prop where
  | nothing {report : Option (TaskId × Except QueueError Unit)} :
      Records worker tasks history report history
  | started {report : Option (TaskId × Except QueueError Unit)} {i : Uuid} {n : Nat} :
      Records worker tasks history report (history ++ [(i, .started n)])
  | returned {task : TaskId} {result : Except QueueError Unit} {envelope : JobEnvelope Value} :
      tasks task = some ⟨envelope, none⟩ →
      Records worker tasks history (some (task, result)) (history ++
        [(envelope.id, .returned (Worker.outcome worker.registered envelope.jobType result).isOk)])

theorem Records.agrees {Value : Type} {worker : WorkerConfig} {outcomes : Uuid → Nat → Bool}
    {tasks : TaskId → Option (JobTask Value)} {history history' : List (Uuid × Event)}
    {report : Option (TaskId × Except QueueError Unit)}
    (records : Records worker tasks history report history')
    (agrees : ∀ task result, report = some (task, result) →
      Agrees worker outcomes tasks history task result) {i : Uuid} {r : Bool}
    (events : eventsOf history' i = eventsOf history i ++ [.returned r]) :
    outcomes i (executions (eventsOf history i)).length = r := by
  cases records with
  | nothing =>
    have none : [Event.returned r] = [] := List.append_cancel_left (events.symm.trans (by simp))
    cases none
  | @started _ j n =>
    rw [show [(j, Event.started n)] = [Event.started n].map (fun e => (j, e)) from rfl,
      eventsOf_append] at events
    have same := List.append_cancel_left events
    split_ifs at same with here
    · cases same
  | @returned task result envelope live =>
    rw [show ∀ e : Event, [(envelope.id, e)] = [e].map (fun e => (envelope.id, e)) from
      fun _ => rfl, eventsOf_append] at events
    have same := List.append_cancel_left events
    split_ifs at same with here
    · rw [here, agrees task result rfl envelope live]
      simpa using same

namespace DatabaseQueue
variable {Value : Type}

/-- No crash, panic or database error takes a job from its task, and handlers
return what the outcome streams say. -/
def Calm (codec : Codec Value) (worker : WorkerConfig) (outcomes : Uuid → Nat → Bool)
    (s : DatabaseQueue Value) (l : Label Value) : Prop :=
  ¬ Disturbs codec s l ∧ ∀ task result, l = .handlerReturns task result →
    Agrees worker outcomes s.tasks s.history task result

def Label.report : Label Value → Option (TaskId × Except QueueError Unit)
  | .handlerReturns task result => some (task, result)
  | _ => none

theorem step_records {codec : Codec Value} {worker : WorkerConfig} {s s' : DatabaseQueue Value}
    {l : Label Value} (hs : step codec worker s l = some s') :
    Records worker s.tasks s.history l.report s'.history := by
  cases step_moves hs with
  | returned idle selected decoded => exact .started
  | handled live result decided =>
    rw [decided]
    exact .returned live
  | enqueued | misread | rolledBack | acknowledged | failed | vanished | crashed =>
    exact .nothing

theorem calm_agrees {codec : Codec Value} {worker : WorkerConfig}
    {outcomes : Uuid → Nat → Bool} {s : DatabaseQueue Value} {l : Label Value}
    (calm : Calm codec worker outcomes s l) (task : TaskId) (result : Except QueueError Unit)
    (report : l.report = some (task, result)) :
    Agrees worker outcomes s.tasks s.history task result := by
  cases l with
  | handlerReturns task' result' =>
    cases report
    exact calm.2 task result rfl
  | _ => cases report

theorem calm_reports {codec : Codec Value} {worker : WorkerConfig}
    {outcomes : Uuid → Nat → Bool} {s s' : DatabaseQueue Value} {l : Label Value} {i : Uuid}
    {r : Bool} (calm : Calm codec worker outcomes s l) (hs : step codec worker s l = some s')
    (events : view.events s' i = view.events s i ++ [.returned r]) :
    outcomes i (executions (view.events s i)).length = r :=
  (step_records hs).agrees (calm_agrees calm) events

end DatabaseQueue

namespace ChannelQueue
variable {Value : Type}

def Calm (worker : WorkerConfig) (outcomes : Uuid → Nat → Bool) (s : ChannelQueue Value)
    (l : Label Value) : Prop :=
  ¬ Disturbs s l ∧ ∀ task result, l = .handlerReturns task result →
    Agrees worker outcomes s.tasks s.history task result

def Label.report : Label Value → Option (TaskId × Except QueueError Unit)
  | .handlerReturns task result => some (task, result)
  | _ => none

theorem step_records {worker : WorkerConfig} {s s' : ChannelQueue Value} {l : Label Value}
    (hs : step worker s l = some s') : Records worker s.tasks s.history l.report s'.history := by
  cases step_moves hs with
  | dequeued vacant idle taken => exact .started
  | returned live result decided =>
    rw [decided]
    exact .returned live
  | enqueued | sent | acknowledged | resending | failed | vanished | cancelled => exact .nothing

theorem calm_agrees {worker : WorkerConfig} {outcomes : Uuid → Nat → Bool}
    {s : ChannelQueue Value} {l : Label Value} (calm : Calm worker outcomes s l) (task : TaskId)
    (result : Except QueueError Unit) (report : l.report = some (task, result)) :
    Agrees worker outcomes s.tasks s.history task result := by
  cases l with
  | handlerReturns task' result' =>
    cases report
    exact calm.2 task result rfl
  | _ => cases report

theorem calm_reports {worker : WorkerConfig} {outcomes : Uuid → Nat → Bool}
    {s s' : ChannelQueue Value} {l : Label Value} {i : Uuid} {r : Bool}
    (calm : Calm worker outcomes s l) (hs : step worker s l = some s')
    (events : view.events s' i = view.events s i ++ [.returned r]) :
    outcomes i (executions (view.events s i)).length = r :=
  (step_records hs).agrees (calm_agrees calm) events

end ChannelQueue

section Attempts
variable {Value : Type} (codec : Codec Value) (worker : WorkerConfig) (capacity : Nat)

/-- In an undisturbed run every job is tried exactly as often as its outcomes
say, on either backend; a job that ended has left the channel and the in-flight
map, and no counter can overflow its column. -/
theorem attempt_law (parse_hyphenated : ∀ u : Uuid, codec.parseStr u.hyphenated = .ok u)
    (outcomes : Uuid → Nat → Bool) :
    (∀ s, (DatabaseQueue.machine codec worker).ReachableWhere
        (DatabaseQueue.Calm codec worker outcomes) s →
      ∀ i m, DatabaseQueue.view.budget s i = some m →
        m < 2 ^ 31 ∧ AttemptLaw DatabaseQueue.view (outcomes i) m s i) ∧
    (∀ s, (ChannelQueue.machine worker capacity :
        Machine (ChannelQueue Value) (ChannelQueue.Label Value)).ReachableWhere
        (ChannelQueue.Calm worker outcomes) s →
      ∀ i m, ChannelQueue.view.budget s i = some m →
        m < 2 ^ 32 ∧ AttemptLaw ChannelQueue.view (outcomes i) m s i ∧
        (ChannelQueue.view.status s i .completed ∨ ChannelQueue.view.status s i .failed →
          ∀ e, ChannelQueue.Located s e → e.id ≠ i)) := by
  constructor
  · intro s reach i m budget
    have tracking := DatabaseQueue.tracking codec worker parse_hyphenated
    obtain ⟨L, tracks, sound, regular⟩ := tracking.regular (fun _ _ calm => calm.1) reach
    have follows := tracking.follows (C := DatabaseQueue.Calm codec worker outcomes)
      (fun _ _ _ _ _ => DatabaseQueue.calm_reports) reach
    refine ⟨?_, tracking.law tracks sound regular follows budget⟩
    obtain ⟨row, _, rfl⟩ := Option.map_eq_some_iff.mp budget
    have bound := row.maxAttempts.toInt_lt
    omega
  · intro s reach i m budget
    have tracking : Tracking (ChannelQueue.machine worker capacity :
        Machine (ChannelQueue Value) (ChannelQueue.Label Value)) _ _ _ :=
      ChannelQueue.tracking worker capacity
    obtain ⟨L, tracks, sound, regular⟩ := tracking.regular (fun _ _ calm => calm.1) reach
    have follows := tracking.follows (C := ChannelQueue.Calm worker outcomes)
      (fun _ _ _ _ _ => ChannelQueue.calm_reports) reach
    refine ⟨?_, tracking.law tracks sound regular follows budget, ?_⟩
    · obtain ⟨max, _, rfl⟩ := Option.map_eq_some_iff.mp budget
      exact max.toNat_lt
    · rintro ended e located rfl
      obtain ⟨_, stage, account, _, _, open_⟩ := tracks.located located
      have terminal : ∀ x, x = .completed ∨ x = .failed →
          ChannelQueue.view.status s e.id x → stage.Terminal :=
        fun x final status =>
          terminal_of_status ((tracking.status_at tracks account x).mp status) final
      rcases ended with status | status
      · exact open_ (terminal _ (Or.inl rfl) status)
      · exact open_ (terminal _ (Or.inr rfl) status)

end Attempts

/-- A test for `Calm`. -/
def DatabaseQueue.calmly {Value : Type} (codec : Codec Value) (worker : WorkerConfig)
    (outcomes : Uuid → Nat → Bool) (s : DatabaseQueue Value) : DatabaseQueue.Label Value → Bool
  | .enqueue _ => true
  | .dequeue _ id _ reply =>
    reply == .errorBefore || (reply == .ok &&
      (s.jobs.lookup id).all (fun row => (DatabaseBackend.decode codec id row).isOk))
  | .handlerReturns task result =>
    match s.tasks task with
    | some ⟨envelope, none⟩ =>
      outcomes envelope.id (executions (eventsOf s.history envelope.id)).length ==
        (Worker.outcome worker.registered envelope.jobType result).isOk
    | _ => true
  | .acknowledge _ reply => reply != .errorBefore
  | .fail _ _ _ reply => reply != .errorBefore
  | .vanish _ => false
  | .crash _ => false

theorem DatabaseQueue.calm_of_calmly {Value : Type} (codec : Codec Value) (worker : WorkerConfig)
    (outcomes : Uuid → Nat → Bool) (s : DatabaseQueue Value) (l : DatabaseQueue.Label Value)
    (checked : s.calmly codec worker outcomes l = true) :
    DatabaseQueue.Calm codec worker outcomes s l := by
  cases l with
  | enqueue order => exact ⟨fun h => h, by simp⟩
  | dequeue task id now reply =>
    refine ⟨?_, by simp⟩
    rintro (rfl | ⟨rfl, row, e, found, decoded⟩)
    · simp [calmly] at checked
    · simp [calmly, found, decoded, Except.isOk, Except.toBool] at checked
  | handlerReturns task result =>
    refine ⟨fun h => h, ?_⟩
    rintro _ _ ⟨⟩ envelope live
    simpa [calmly, live] using checked
  | acknowledge task reply =>
    refine ⟨?_, by simp⟩
    rintro rfl
    simp [calmly] at checked
  | fail task now sqlNow reply =>
    refine ⟨?_, by simp⟩
    rintro rfl
    simp [calmly] at checked
  | vanish task => cases checked
  | crash process => cases checked

def ChannelQueue.calmly {Value : Type} (worker : WorkerConfig) (outcomes : Uuid → Nat → Bool)
    (s : ChannelQueue Value) : ChannelQueue.Label Value → Bool
  | .handlerReturns task result =>
    match s.tasks task with
    | some ⟨envelope, none⟩ =>
      outcomes envelope.id (executions (eventsOf s.history envelope.id)).length ==
        (Worker.outcome worker.registered envelope.jobType result).isOk
    | _ => true
  | .vanish _ => false
  | .cancel _ => false
  | _ => true

theorem ChannelQueue.calm_of_calmly {Value : Type} (worker : WorkerConfig)
    (outcomes : Uuid → Nat → Bool) (s : ChannelQueue Value) (l : ChannelQueue.Label Value)
    (checked : s.calmly worker outcomes l = true) : ChannelQueue.Calm worker outcomes s l := by
  cases l with
  | handlerReturns task result =>
    refine ⟨fun h => h, ?_⟩
    rintro _ _ ⟨⟩ envelope live
    simpa [calmly, live] using checked
  | vanish task => cases checked
  | cancel sender => cases checked
  | _ => exact ⟨fun h => h, by simp⟩

/-- Every job fails at first and succeeds at its second attempt. -/
def secondTime : Uuid → Nat → Bool := fun _ n => n == 2

/-- Job 1 may be tried twice: it fails, is retried after five seconds and completes. -/
def retriedRun : List (DatabaseQueue.Label Nat) :=
  [.enqueue (heartbeat 1 2), .dequeue ⟨0, 0⟩ (Uuid.hyphenated 1) 0 .ok,
    .handlerReturns ⟨0, 0⟩ (.error (.execution "busy")), .fail ⟨0, 0⟩ 0 0 .ok,
    .dequeue ⟨1, 0⟩ (Uuid.hyphenated 1) 5000000000 .ok, .handlerReturns ⟨1, 0⟩ (.ok ()),
    .acknowledge ⟨1, 0⟩ .ok]

/-- Job 1 may be tried once only, and its type is not registered. -/
def unknownRun : List (ChannelQueue.Label Nat) :=
  [.enqueue 0 { heartbeat 1 0 with jobType := "report" }, .sendCompletes (.producer 0),
    .dequeue ⟨0, 0⟩, .handlerReturns ⟨0, 0⟩ (.ok ()), .fail ⟨0, 0⟩ 0]

theorem attempt_law_secondTime :
    (∃ s, (DatabaseQueue.machine strokes heartbeats).ReachableWhere
        (DatabaseQueue.Calm strokes heartbeats secondTime) s ∧
      (s.jobs.lookup (Uuid.hyphenated 1)).map JobRow.status = some .completed ∧
      AttemptLaw DatabaseQueue.view (secondTime 1) 2 s 1) ∧
    ∃ s : ChannelQueue Nat, (ChannelQueue.machine heartbeats 1).ReachableWhere
        (ChannelQueue.Calm heartbeats secondTime) s ∧
      s.finished.lookup 1 = some .failed ∧ AttemptLaw ChannelQueue.view (secondTime 1) 0 s 1 := by
  have law := attempt_law strokes heartbeats 1 strokes_parse secondTime
  constructor
  · obtain ⟨s, reach, checked⟩ := Machine.reachableWhere_of_replay
      (M := DatabaseQueue.machine strokes heartbeats)
      (DatabaseQueue.calm_of_calmly strokes heartbeats secondTime)
      (p := fun s => decide (DatabaseQueue.view.budget s 1 = some 2 ∧
        (s.jobs.lookup (Uuid.hyphenated 1)).map JobRow.status = some .completed))
      retriedRun (by decide)
    obtain ⟨budget, completed⟩ := of_decide_eq_true checked
    exact ⟨s, reach, completed, (law.1 s reach 1 2 budget).2⟩
  · obtain ⟨s, reach, checked⟩ := Machine.reachableWhere_of_replay
      (M := ChannelQueue.machine heartbeats 1)
      (ChannelQueue.calm_of_calmly heartbeats secondTime)
      (p := fun s => decide (ChannelQueue.view.budget s 1 = some 0 ∧
        s.finished.lookup 1 = some .failed)) unknownRun (by decide)
    obtain ⟨budget, failed⟩ := of_decide_eq_true checked
    exact ⟨s, reach, failed, (law.2 s reach 1 0 budget).2.1⟩

end ApiBoilerplate
