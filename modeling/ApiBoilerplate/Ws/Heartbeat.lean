import ApiBoilerplate.Foundation.Inbox
import ApiBoilerplate.Ws.SessionTeardown

/-!
# Which clients the heartbeat reaps

The session beside the clock, the ticker and the stream of the client's messages. Time
passes and messages become ready at any moment, also while the session awaits a write;
what is ready when the loop selects is read, forwarded or ticked in any order.
-/

namespace ApiBoilerplate

open Foundation

/-- What `stream.recv()` yields; `none` is its end. -/
abbrev Received := Option (Except String AggregatedMessage)

def Received.isFrame : Received → Bool
  | some (.ok _) => true
  | _ => false

/-- In nanoseconds. -/
def SessionConfig.heartbeatInterval (config : SessionConfig) : Nat :=
  (max config.heartbeatIntervalSeconds 1).toNat * 1000000000

/-- The clock, the messages off the stream and the ticker. -/
structure LoopClock where
  inbox : Inbox Received
  /-- When `run` made its ticker and read the clock for the first time. -/
  started : Nat
  deadline : Nat

inductive ClockEvent where
  | elapse (d : Nat)
  | arrive (item : Received)
  | start (instant : Nat)
  | read (item : Received) (instant : Nat)
  | tick (instant : Nat)
  /-- The session goes on without the clock, the stream or the ticker. -/
  | act

namespace LoopClock

/-- The next deadline, with `MissedTickBehavior::Delay`; five milliseconds late is not
missed. -/
def nextDeadline (deadline now period : Nat) : Nat :=
  if deadline + 5000000 < now then now + period else deadline + period

/-- The ticker starts with its first tick, which is consumed at once. -/
def step (period : Nat) (c : LoopClock) : ClockEvent → Option LoopClock
  | .elapse d => some { c with inbox := c.inbox.elapse d }
  | .arrive item => some { c with inbox := c.inbox.arrive item }
  | .start instant =>
    if c.inbox.now ≤ instant then
      some { c with started := instant, deadline := instant + period }
    else none
  | .read item instant =>
    if c.started ≤ c.inbox.now ∧ instant = c.inbox.now then
      match c.inbox.take with
      | some (waiting, rest) => if waiting = item then some { c with inbox := rest } else none
      | none => none
    else none
  | .tick instant =>
    if c.started ≤ c.inbox.now ∧ instant = c.inbox.now ∧ c.deadline ≤ instant then
      some { c with deadline := nextDeadline c.deadline instant period }
    else none
  | .act => if c.started ≤ c.inbox.now then some c else none

def machine (period : Nat) : Machine LoopClock ClockEvent where
  init := ⟨.new, 0, 0⟩
  step := step period

end LoopClock

inductive TimedLabel (Value : Type) where
  | elapse (d : Nat)
  | arrive (item : Received)
  | session (l : SessionRunLabel Value)

/-- The session in time. -/
abbrev TimedRun (Value : Type) := SessionRun Value × LoopClock

namespace TimedRun
variable {Value : Type}

/-- What an event of the session does with the clock. -/
def clockEvent : SessionEvent Value → ClockEvent
  | .register _ instant => .start instant
  | .inbound item instant => .read item instant
  | .tick instant => .tick instant
  | _ => .act

def parts (_ : TimedRun Value) :
    TimedLabel Value → Option (SessionRunLabel Value) × Option ClockEvent
  | .elapse d => (none, some (.elapse d))
  | .arrive item => (none, some (.arrive item))
  | .session (.hub l) => (some (.hub l), none)
  | .session (.own event ids topics) => (some (.own event ids topics), some (clockEvent event))

section Machine
variable (encode : ServerMessage Value → Except WsError ByteString)
  (parse : String → Except String (ClientMessage Value)) (config : SessionConfig)
  (ctx : WsContext) (nodeId : Uuid) (hubConfig : WebSocketConfig)
  (clusterTx : Option (Mpsc (ClusterFrame Value)))

def machine : Machine (TimedRun Value) (TimedLabel Value) :=
  (SessionRun.machine encode parse config ctx nodeId hubConfig clusterTx).together
    (LoopClock.machine config.heartbeatInterval) parts

end Machine

/-- The loop is left with the reason "Heartbeat timeout". -/
def Reaps (p q : TimedRun Value) : Prop :=
  p.1.task.stage = .selecting ∧
    q.1.task.stage = .leaving (some SessionTask.heartbeatTimeout)

/-- A step that reaps the client does so after a silence of the whole timeout: no frame
has become ready on the stream since, read or not. -/
def ReapsSilent (M : Machine (TimedRun Value) (TimedLabel Value)) (config : SessionConfig)
    (p : TimedRun Value) (l : TimedLabel Value) : Prop :=
  ∀ q, M.step p l = some q → Reaps p q →
    ∀ e ∈ p.2.inbox.taken ++ p.2.inbox.unread, e.2.isFrame = true →
      e.1 + config.clientTimeout < p.2.inbox.now

/-- The branch that ends the session: a heartbeat that finds `last_seen` too old, or a
close frame of the client with that very reason, which is sent back. -/
def TimesOut (config : SessionConfig) (task : SessionTask Value) : TimedLabel Value → Prop
  | .session (.own (.tick now) _ _) => config.clientTimeout < now - task.lastSeen
  | .session (.own (.inbound (some (.ok (.close reason))) _) _ _) =>
    reason = some SessionTask.heartbeatTimeout
  | _ => False

/-- The branch is taken only with no frame in the stream that became ready within the
timeout and still waits to be read. -/
def Attentive (config : SessionConfig) (p : TimedRun Value) (l : TimedLabel Value) : Prop :=
  TimesOut config p.1.task l → ∀ e ∈ p.2.inbox.unread, e.2.isFrame = true →
    e.1 + config.clientTimeout < p.2.inbox.now

section Step
variable {encode : ServerMessage Value → Except WsError ByteString}
  {parse : String → Except String (ClientMessage Value)} {config : SessionConfig}
  {ctx : WsContext} {nodeId : Uuid} {hubConfig : WebSocketConfig}
  {clusterTx : Option (Mpsc (ClusterFrame Value))} {p q : TimedRun Value}

/-- What one step does to the session and to the clock. -/
inductive Moves (encode : ServerMessage Value → Except WsError ByteString)
    (parse : String → Except String (ClientMessage Value)) (config : SessionConfig)
    (ctx : WsContext) (p : TimedRun Value) : TimedLabel Value → TimedRun Value → Prop where
  | elapsed (d : Nat) :
      Moves encode parse config ctx p (.elapse d)
        (p.1, { p.2 with inbox := p.2.inbox.elapse d })
  | arrived (item : Received) :
      Moves encode parse config ctx p (.arrive item)
        (p.1, { p.2 with inbox := p.2.inbox.arrive item })
  | hub {l : TaskLabel Value} {s : SessionRun Value} (same : s.task = p.1.task) :
      Moves encode parse config ctx p (.session (.hub l)) (s, p.2)
  | own {event : SessionEvent Value} {ids : List ConnectionId} {topics : List Topic}
      {s : SessionRun Value} {c : LoopClock}
      (moved : SessionRun.Moves encode parse config ctx p.1 (.own event ids topics) s)
      (timed : LoopClock.step config.heartbeatInterval p.2 (clockEvent event) = some c) :
      Moves encode parse config ctx p (.session (.own event ids topics)) (s, c)

theorem step_moves {l : TimedLabel Value}
    (stepped : (machine encode parse config ctx nodeId hubConfig clusterTx).step p l = some q) :
    Moves encode parse config ctx p l q := by
  obtain ⟨s, c⟩ := q
  obtain ⟨session, clock⟩ := Machine.together_step.mp stepped
  cases l with
  | elapse d =>
    obtain rfl := Option.some.inj session
    obtain rfl := Option.some.inj clock
    exact .elapsed d
  | arrive item =>
    obtain rfl := Option.some.inj session
    obtain rfl := Option.some.inj clock
    exact .arrived item
  | session l =>
    cases l with
    | hub l =>
      obtain rfl := Option.some.inj clock
      cases SessionRun.step_moves session with
      | started _ _ _ | ran _ => exact .hub rfl
    | own event ids topics => exact .own (SessionRun.step_moves session) clock

theorem read_inbox {period : Nat} {c c' : LoopClock} {item : Received} {instant : Nat}
    (read : LoopClock.step period c (.read item instant) = some c') :
    instant = c.inbox.now ∧ c'.inbox.now = c.inbox.now ∧
      ∃ t, c.inbox.unread = (t, item) :: c'.inbox.unread ∧
        c'.inbox.taken = c.inbox.taken ++ [(t, item)] := by
  simp only [LoopClock.step] at read
  split at read
  · rename_i here
    split at read
    · rename_i waiting rest took
      split at read
      · rename_i same
        cases read
        obtain ⟨now, t, unread, taken⟩ := Inbox.take_some took
        rw [same] at unread taken
        exact ⟨here.2, now, t, unread, taken⟩
      · cases read
    · cases read
  · cases read

theorem tick_inbox {period : Nat} {c c' : LoopClock} {instant : Nat}
    (ticked : LoopClock.step period c (.tick instant) = some c') :
    instant = c.inbox.now ∧ c'.inbox = c.inbox := by
  simp only [LoopClock.step] at ticked
  split at ticked
  · rename_i here
    cases ticked
    exact ⟨here.2.1, rfl⟩
  · cases ticked

theorem start_inbox {period : Nat} {c c' : LoopClock} {instant : Nat}
    (started : LoopClock.step period c (.start instant) = some c') :
    c.inbox.now ≤ instant ∧ c'.inbox = c.inbox := by
  simp only [LoopClock.step] at started
  split at started
  · rename_i here
    cases started
    exact ⟨here, rfl⟩
  · cases started

theorem act_inbox {period : Nat} {c c' : LoopClock}
    (acted : LoopClock.step period c .act = some c') : c' = c := by
  simp only [LoopClock.step] at acted
  split at acted
  · exact (Option.some.inj acted).symm
  · cases acted

/-- No hub operation ends the session. -/
theorem requests_stage {hub : WsHub Value} {task task' : SessionTask Value}
    {event : SessionEvent Value} {op : WsHub.Op Value}
    (requests : task.Requests ctx hub event op task') (selecting : task.stage = .selecting) :
    event = .outbound ∧ ∃ frame, task'.stage = .forwarding frame := by
  cases requests with
  | outbound here queued => exact ⟨rfl, _, rfl⟩
  | register here | subscribe here | unsubscribe here | publish here | finish here =>
    rw [selecting] at here
    cases here
  | policy awaits leaves =>
    rw [selecting] at awaits
    cases awaits
  | unregister after =>
    rw [selecting] at after
    cases after

/-- A message ends the session with this reason only if it is a close frame that has
it. -/
theorem received_leaves (message : AggregatedMessage) :
    SessionTask.received parse message = .leaving (some SessionTask.heartbeatTimeout) ↔
      message = .close (some SessionTask.heartbeatTimeout) := by
  cases message with
  | text text =>
    simp only [SessionTask.received, SessionTask.handling]
    rcases parse text with e | m
    · simp
    · cases m <;> simp
  | binary | ping | pong | close => simp [SessionTask.received]

theorem nexts_leaves {hub : WsHub Value} {task task' : SessionTask Value}
    {event : SessionEvent Value} {ids : List ConnectionId} {topics : List Topic}
    (nexts : task.Nexts config ctx encode parse hub event task')
    (selecting : task.stage = .selecting) :
    task'.stage = .leaving (some SessionTask.heartbeatTimeout) ↔
      TimesOut config task (.session (.own event ids topics)) := by
  cases nexts with
  | accepted here | rejected here | authorized here | forbidden here | published here
  | unpublished here _ | onDisconnect here | close here =>
    rw [selecting] at here
    cases here
  | write done =>
    rw [selecting] at done
    cases done
  | evicted here idle gone | ended here | protocolError here =>
    simp [TimesOut, SessionTask.closedByServer, SessionTask.heartbeatTimeout]
  | @message message now here =>
    rw [received_leaves]
    cases message <;> simp [TimesOut]
  | @tick now here =>
    simp only [TimesOut]
    split
    · rename_i late
      simp [late]
    · rename_i early
      simp [early]

/-- The branches that end the session are those that time out. -/
theorem reaps_iff {l : TimedLabel Value} (moves : Moves encode parse config ctx p l q)
    (selecting : p.1.task.stage = .selecting) :
    q.1.task.stage = .leaving (some SessionTask.heartbeatTimeout) ↔
      TimesOut config p.1.task l := by
  cases moves with
  | elapsed d | arrived item => simp [selecting, TimesOut]
  | hub same => simp [same, selecting, TimesOut]
  | own moved timed =>
    cases moved with
    | requested idle requests performed =>
      obtain ⟨rfl, frame, forwards⟩ := requests_stage requests selecting
      simp [forwards, TimesOut]
    | moved idle nexts => exact nexts_leaves nexts selecting

theorem selecting_of_timesOut {l : TimedLabel Value}
    (moves : Moves encode parse config ctx p l q) (late : TimesOut config p.1.task l) :
    p.1.task.stage = .selecting := by
  cases moves with
  | elapsed d | arrived item | hub same => exact late.elim
  | own moved timed =>
    cases moved with
    | requested idle requests performed => cases requests <;> exact late.elim
    | moved idle nexts =>
      cases nexts with
      | message here | tick here => exact here
      | accepted | rejected | write | evicted | ended | protocolError | authorized | forbidden
      | published | unpublished | onDisconnect | close => exact late.elim

/-- Every frame that was read had arrived by the time `last_seen` was set. -/
def Seen (p : TimedRun Value) : Prop :=
  ∀ e ∈ p.2.inbox.taken, e.2.isFrame = true → e.1 ≤ p.1.task.lastSeen

theorem Seen.keep {s : SessionRun Value} {c : LoopClock} (seen : Seen p)
    (task : s.task.lastSeen = p.1.task.lastSeen) (clock : c.inbox.taken = p.2.inbox.taken) :
    Seen (s, c) := by
  intro e taken frame
  rw [clock] at taken
  rw [task]
  exact seen e taken frame

theorem seen_requested {tasks : HubTasks Value} {task : SessionTask Value} {c : LoopClock}
    {event : SessionEvent Value} {op : WsHub.Op Value} {period : Nat} (seen : Seen p)
    (requests : p.1.task.Requests ctx p.1.tasks.hub event op task)
    (timed : LoopClock.step period p.2 (clockEvent event) = some c) :
    Seen (⟨tasks, task⟩, c) := by
  cases requests with
  | register here =>
    obtain ⟨later, same⟩ := start_inbox timed
    intro e taken frame
    rw [same] at taken
    exact (Inbox.taken_past taken).trans later
  | policy | outbound | subscribe | unsubscribe | publish | unregister | finish =>
    obtain rfl := act_inbox timed
    exact seen.keep rfl rfl

theorem seen_moved {tasks : HubTasks Value} {task : SessionTask Value} {c : LoopClock}
    {event : SessionEvent Value} {period : Nat} (seen : Seen p)
    (nexts : p.1.task.Nexts config ctx encode parse p.1.tasks.hub event task)
    (timed : LoopClock.step period p.2 (clockEvent event) = some c) :
    Seen (⟨tasks, task⟩, c) := by
  cases nexts with
  | message here =>
    obtain ⟨rfl, now, t, unread, taken⟩ := read_inbox timed
    intro e member frame
    have past := c.inbox.past e (List.mem_append_left _ member)
    rw [now] at past
    exact past
  | ended here | protocolError here =>
    obtain ⟨_, now, t, unread, taken⟩ := read_inbox timed
    intro e member frame
    rw [taken, List.mem_append, List.mem_singleton] at member
    rcases member with before | rfl
    · exact seen e before frame
    · cases frame
  | tick here =>
    obtain ⟨_, same⟩ := tick_inbox timed
    split <;> exact seen.keep rfl (congrArg Inbox.taken same)
  | accepted | rejected | write | evicted | authorized | forbidden | published | unpublished
  | onDisconnect | close =>
    obtain rfl := act_inbox timed
    exact seen.keep rfl rfl

theorem seen_step {l : TimedLabel Value} (seen : Seen p)
    (moves : Moves encode parse config ctx p l q) : Seen q := by
  cases moves with
  | elapsed d | arrived item => exact seen
  | hub same => exact seen.keep (congrArg SessionTask.lastSeen same) rfl
  | own moved timed =>
    cases moved with
    | requested idle requests performed => exact seen_requested seen requests timed
    | moved idle nexts => exact seen_moved seen nexts timed

theorem reachable_seen
    (reach : (machine encode parse config ctx nodeId hubConfig clusterTx).Reachable p) :
    Seen p := by
  have start : Seen (machine encode parse config ctx nodeId hubConfig clusterTx).init := by
    intro e member
    cases member
  refine reach.invariant (I := Seen) start ?_
  intro s l t seen _ stepped
  exact seen_step seen (step_moves stepped)

/-- A session that times out has read nothing that arrived within the timeout. -/
theorem taken_old {l : TimedLabel Value} (seen : Seen p)
    (moves : Moves encode parse config ctx p l q) (late : TimesOut config p.1.task l)
    (unread : ∀ e ∈ p.2.inbox.unread, e.2.isFrame = true →
      e.1 + config.clientTimeout < p.2.inbox.now) :
    ∀ e ∈ p.2.inbox.taken, e.2.isFrame = true →
      e.1 + config.clientTimeout < p.2.inbox.now := by
  intro e taken frame
  cases moves with
  | elapsed d | arrived item | hub same => exact late.elim
  | @own event ids topics s c moved timed =>
    cases event with
    | tick now =>
      obtain ⟨rfl, _⟩ := tick_inbox timed
      have old := seen e taken frame
      change config.clientTimeout < p.2.inbox.now - p.1.task.lastSeen at late
      omega
    | inbound item now =>
      obtain ⟨_, _, t, waiting, _⟩ := read_inbox timed
      rcases item with _ | e' | message
      · exact late.elim
      · exact late.elim
      · have head : (t, some (.ok message)) ∈ p.2.inbox.unread := by
          rw [waiting]
          exact List.mem_cons_self
        have before := Inbox.taken_le taken head
        have old := unread _ head rfl
        dsimp only at before old
        omega
    | register | policy | onConnect | write | outbound | authorize | call | published
    | unregister | onDisconnect | close | finish => exact late.elim

theorem reapsSilent_iff {l : TimedLabel Value}
    (reach : (machine encode parse config ctx nodeId hubConfig clusterTx).Reachable p)
    (stepped : (machine encode parse config ctx nodeId hubConfig clusterTx).step p l = some q) :
    ReapsSilent (machine encode parse config ctx nodeId hubConfig clusterTx) config p l ↔
      Attentive config p l := by
  have moves := step_moves stepped
  constructor
  · intro silent late e waiting frame
    have selecting := selecting_of_timesOut moves late
    have reaps : Reaps p q := ⟨selecting, (reaps_iff moves selecting).mpr late⟩
    exact silent q stepped reaps e (List.mem_append_right _ waiting) frame
  · intro attentive q' stepped' reaps e member frame
    have late := (reaps_iff (step_moves stepped') reaps.1).mp reaps.2
    rcases List.mem_append.mp member with taken | waiting
    · exact taken_old (reachable_seen reach) moves late (attentive late) e taken frame
    · exact attentive late e waiting frame

/-- In a run every reaping is of a client silent for the whole timeout exactly if no step
of it times out past a fresh frame that waits in the stream. -/
theorem only_silent_reaped_iff {ls : List (TimedLabel Value)} :
    (machine encode parse config ctx nodeId hubConfig clusterTx).Run
        (ReapsSilent (machine encode parse config ctx nodeId hubConfig clusterTx) config) ls p ↔
      (machine encode parse config ctx nodeId hubConfig clusterTx).Run (Attentive config) ls p := by
  constructor
  · exact Machine.Run.imp fun _ _ _ reach stepped => (reapsSilent_iff reach stepped).mp
  · exact Machine.Run.imp fun _ _ _ reach stepped => (reapsSilent_iff reach stepped).mpr

end Step

section Stall

/-- A ping every 20 seconds, and a timeout of 60. -/
def anonymousClock : Machine (TimedRun Nat) (TimedLabel Nat) :=
  machine WsHub.plainFrame (fun e => .error e) ⟨20, 60⟩ ⟨1, none, none⟩ 9 ⟨0, 0, 1⟩ none

/-- The write of the welcome frame takes 100 seconds, and the client's pong is ready
before it completes. -/
def stalledWrite : List (TimedLabel Nat) :=
  [.session (.own (.register 0 0) [] []), .session (.hub (.run (.session 1) [] [])),
    .session (.own (.onConnect (.ok ())) [] []), .elapse 100000000000, .arrive (some (.ok .pong)),
    .session (.own (.write true) [] [])]

def stalledState : TimedRun Nat := anonymousClock.follow (fun _ _ => true) stalledWrite

def overdueTick : TimedLabel Nat := .session (.own (.tick 100000000000) [] [])

/-- The tick is taken first, and the client is gone whose frame has just come. -/
theorem fresh_frame_reaped :
    ¬ ∀ p, anonymousClock.Reachable p → ∀ l, ReapsSilent anonymousClock ⟨20, 60⟩ p l := by
  intro claim
  have run : anonymousClock.Run (fun _ _ => True) stalledWrite stalledState :=
    Machine.run_follow (fun _ _ _ => trivial) (by decide +kernel)
  obtain ⟨q, stepped⟩ : ∃ q, anonymousClock.step stalledState overdueTick = some q :=
    Option.isSome_iff_exists.mp (by decide +kernel)
  have moves := step_moves stepped
  have late : TimesOut ⟨20, 60⟩ stalledState.1.task overdueTick := by
    change _ < _
    decide +kernel
  have selecting := selecting_of_timesOut moves late
  have reaps : Reaps stalledState q := ⟨selecting, (reaps_iff moves selecting).mpr late⟩
  have waits : (100000000000, some (.ok .pong)) ∈ stalledState.2.inbox.unread := by
    decide +kernel
  have old := claim _ ⟨_, run⟩ overdueTick q stepped reaps _ (List.mem_append_right _ waits) rfl
  revert old
  decide +kernel

end Stall
end TimedRun
end ApiBoilerplate
