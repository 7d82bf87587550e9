import ApiBoilerplate.Ws.CallEffects
import ApiBoilerplate.Ws.Policy

/-!
# One session from handshake to return

`session::run` as a task beside every other task of the process. What its awaits
answer is in the labels: verdicts of the policy, outcomes of socket writes, what
the stream yields, and which branch of the select loop is taken. Its own hub
operations are made call by call under the name of the session, so that any
other task may move in between; the task goes on once the operation is finished.
-/

namespace ApiBoilerplate

open Foundation
open WsHub (Op)

inductive CloseCode where
  | normal
  | away
  | protocol
  | unsupported
  | abnormal
  | invalid
  | policy
  | size
  | extension
  | error
  | restart
  | again
  | other (code : UInt16)
  deriving DecidableEq, Repr

structure CloseReason where
  code : CloseCode
  description : Option String
  deriving DecidableEq, Repr

/-- A message off the stream. The payload of a binary message is never read. -/
inductive AggregatedMessage where
  | text (text : String)
  | binary
  | ping (bytes : List UInt8)
  | pong
  | close (reason : Option CloseReason)
  deriving DecidableEq, Repr

structure SessionConfig where
  heartbeatIntervalSeconds : UInt64
  clientTimeoutSeconds : UInt64
  deriving DecidableEq, Repr

/-- In nanoseconds, as the clock is read. -/
def SessionConfig.clientTimeout (config : SessionConfig) : Nat :=
  (max config.clientTimeoutSeconds 1).toNat * 1000000000

/-- Where the task of a session stands. -/
inductive Stage (Value : Type) where
  /-- `ws_connect`, before the connection is registered. -/
  | handshake
  /-- No place was left: a 503, and no session. -/
  | refused
  | connecting
  | rejected (reason : String)
  | welcoming
  | turnedAway
  | selecting
  | forwarding (frame : ByteString)
  | authorizing (text : String) (message : ClientMessage Value)
  | calling (text : String) (message : ClientMessage Value)
  | publishing (text : String) (topic : Topic) (payload : Value)
  | responding (request : AggregatedMessage) (response : ServerMessage Value)
  | ponging (bytes : List UInt8)
  | pinging
  /-- Out of the loop. -/
  | leaving (reason : Option CloseReason)
  | disconnecting (reason : Option CloseReason)
  | closing (reason : Option CloseReason)
  | finishing
  | returned

/-- A data frame on the socket, by the place it was written from: `send`, or the
outbound branch of the loop. -/
inductive Sent (Value : Type) where
  | own (message : ServerMessage Value)
  | forwarded (frame : ByteString)

structure SessionTask (Value : Type) where
  stage : Stage Value
  lastSeen : Nat
  sent : List (Sent Value)

inductive SessionEvent (Value : Type) where
  | register (now : DateTime) (instant : Nat)
  /-- A hub operation made by the policy while the session awaits it. -/
  | policy (op : Op Value)
  | onConnect (verdict : Except String Unit)
  /-- The write under way completes. -/
  | write (ok : Bool)
  | outbound
  | inbound (received : Option (Except String AggregatedMessage)) (now : Nat)
  | tick (now : Nat)
  | authorize (verdict : Except String Unit)
  | call
  | published (result : Except WsError Unit)
  | unregister
  | onDisconnect
  | close
  /-- `run` drops what it owns, the receiver with it, and returns. -/
  | finish

/-- Hub operations of the session, and of the policy it awaits; taking a frame
off the queue and dropping the receiver are not operations of the hub. -/
def SessionEvent.callsHub {Value : Type} : SessionEvent Value → Bool
  | .register _ _ => true
  | .policy _ => true
  | .call => true
  | .unregister => true
  | _ => false

inductive SessionRunLabel (Value : Type) where
  /-- Another task, or the calls left of the session's own operation. -/
  | hub (l : TaskLabel Value)
  /-- The session goes on; the lists are the orders in which its first call
  reads a hash set. -/
  | own (event : SessionEvent Value) (ids : List ConnectionId) (topics : List Topic)

structure SessionRun (Value : Type) where
  tasks : HubTasks Value
  task : SessionTask Value

/-- An operation that another task, or the policy, may make: ids are handed out
once, and a receiver is its session's own. -/
def WsHub.Op.leaves {Value : Type} (id : ConnectionId) : Op Value → Bool
  | .register k _ _ => k ≠ id
  | .drain k => k ≠ id
  | .dropReceiver k => k ≠ id
  | _ => true

namespace SessionTask
variable {Value : Type}

/-- `send`: a message that cannot be encoded is not written and not an error. -/
def send (encode : ServerMessage Value → Except WsError ByteString)
    (message : ServerMessage Value) (ok : Bool) : Bool × List (Sent Value) :=
  match encode message with
  | .error _ => (true, [])
  | .ok _ => (ok, if ok then [.own message] else [])

def welcome (config : SessionConfig) (ctx : WsContext) : ServerMessage Value :=
  .welcome ctx.connectionId ctx.userId config.heartbeatIntervalSeconds

def binaryError : ServerMessage Value :=
  .error ErrorCode.badRequest "Binary frames are not supported — send JSON text frames"

def closedByServer : CloseReason := ⟨.away, some "Connection closed by server"⟩

def heartbeatTimeout : CloseReason := ⟨.away, some "Heartbeat timeout"⟩

/-- The beginning of `handle_text`, up to its first await or hub call. -/
def handling (parse : String → Except String (ClientMessage Value)) (text : String) :
    Stage Value :=
  match parse text with
  | .error e => .responding (.text text) (.error ErrorCode.badRequest e)
  | .ok (.subscribe topic) => .authorizing text (.subscribe topic)
  | .ok (.unsubscribe topic) => .calling text (.unsubscribe topic)
  | .ok (.publish topic payload) => .authorizing text (.publish topic payload)
  | .ok .ping => .responding (.text text) .pong

/-- The inbound branch of the loop, given a message. -/
def received (parse : String → Except String (ClientMessage Value)) :
    AggregatedMessage → Stage Value
  | .text text => handling parse text
  | .binary => .responding .binary binaryError
  | .ping bytes => .ponging bytes
  | .pong => .selecting
  | .close reason => .leaving reason

/-- The stage after a write, and the data frame that reached the socket. -/
def written (config : SessionConfig) (ctx : WsContext)
    (encode : ServerMessage Value → Except WsError ByteString) (ok : Bool) :
    Stage Value → Option (Stage Value × List (Sent Value))
  | .welcoming =>
    let result := send encode (welcome config ctx) ok
    some (if result.1 then .selecting else .turnedAway, result.2)
  | .forwarding frame =>
    some (if ok then .selecting else .leaving none, if ok then [.forwarded frame] else [])
  | .responding _ response =>
    let result := send encode response ok
    some (if result.1 then .selecting else .leaving none, result.2)
  | .ponging _ => some (if ok then .selecting else .leaving none, [])
  | .pinging => some (if ok then .selecting else .leaving none, [])
  | _ => none

/-- The task awaits a method of the policy, which may call the hub. -/
def awaitsPolicy : Stage Value → Bool
  | .connecting => true
  | .authorizing _ _ => true
  | .disconnecting _ => true
  | _ => false

/-- Where `run` goes on after each of its three calls of `unregister`. -/
def afterUnregister : Stage Value → Option (Stage Value)
  | .rejected reason => some (.closing (some ⟨.policy, some reason⟩))
  | .turnedAway => some .finishing
  | .leaving reason => some (.disconnecting reason)
  | _ => none

/-- The next frame in the outbound queue. -/
def nextFrame (hub : WsHub Value) (id : ConnectionId) : Option ByteString :=
  (hub.channels.lookup id).bind (fun rx => rx.queue.head?)

def subscribeResponse (topic : Topic) : Except WsError (WsHub Value) → ServerMessage Value
  | .ok _ => .subscribed topic
  | .error e => subscribeError e

/-- The hub operation an event makes, and the task once its first call is made. -/
def request (ctx : WsContext) (hub : WsHub Value) (task : SessionTask Value) :
    SessionEvent Value → Option (Op Value × SessionTask Value)
  | .register now instant =>
    match task.stage with
    | .handshake =>
      some (.register ctx.connectionId ctx.userId now,
        { task with
          stage := if hub.atCapacity then .refused else .connecting
          lastSeen := instant })
    | _ => none
  | .policy op =>
    if awaitsPolicy task.stage ∧ op.leaves ctx.connectionId then some (op, task) else none
  | .outbound =>
    match task.stage with
    | .selecting => (nextFrame hub ctx.connectionId).map (fun frame =>
        (.drain ctx.connectionId, { task with stage := .forwarding frame }))
    | _ => none
  | .call =>
    match task.stage with
    | .calling text (.subscribe topic) =>
      some (.subscribe ctx.connectionId topic,
        { task with
          stage := .responding (.text text)
            (subscribeResponse topic (hub.subscribeConnection ctx.connectionId topic)) })
    | .calling text (.unsubscribe topic) =>
      some (.unsubscribe ctx.connectionId topic,
        { task with stage := .responding (.text text) (.unsubscribed topic) })
    | .calling text (.publish topic payload) =>
      some (.publish topic (.ok payload), { task with stage := .publishing text topic payload })
    | _ => none
  | .unregister =>
    (afterUnregister task.stage).map (fun stage =>
      (.unregister ctx.connectionId, { task with stage := stage }))
  | .finish =>
    match task.stage with
    | .finishing => some (.dropReceiver ctx.connectionId, { task with stage := .returned })
    | _ => none
  | _ => none

/-- An event without a hub operation. `recv` yields `None` once the sender is gone and the
queue is empty, and publishing fails only where the event cannot be encoded. -/
def next (config : SessionConfig) (ctx : WsContext)
    (encode : ServerMessage Value → Except WsError ByteString)
    (parse : String → Except String (ClientMessage Value)) (hub : WsHub Value)
    (task : SessionTask Value) : SessionEvent Value → Option (SessionTask Value)
  | .onConnect verdict =>
    match task.stage with
    | .connecting => some { task with
        stage := match verdict with
          | .ok () => .welcoming
          | .error reason => .rejected reason }
    | _ => none
  | .write ok =>
    (written config ctx encode ok task.stage).map (fun result =>
      { task with stage := result.1, sent := task.sent ++ result.2 })
  | .outbound =>
    match task.stage with
    | .selecting =>
      if nextFrame hub ctx.connectionId = none ∧ ctx.connectionId ∉ hub.connections then
        some { task with stage := .leaving (some closedByServer) }
      else none
    | _ => none
  | .inbound item now =>
    match task.stage with
    | .selecting =>
      match item with
      | none => some { task with stage := .leaving none }
      | some (.error _) => some { task with stage := .leaving (some ⟨.protocol, none⟩) }
      | some (.ok message) => some { task with stage := received parse message, lastSeen := now }
    | _ => none
  | .tick now =>
    match task.stage with
    | .selecting => some { task with
        stage := if config.clientTimeout < now - task.lastSeen then
          .leaving (some heartbeatTimeout) else .pinging }
    | _ => none
  | .authorize verdict =>
    match task.stage with
    | .authorizing text message => some { task with
        stage := match verdict with
          | .ok () => .calling text message
          | .error reason => .responding (.text text) (.error ErrorCode.forbidden reason) }
    | _ => none
  | .published result =>
    match task.stage with
    | .publishing text topic payload =>
      match result with
      | .ok () => some { task with stage := .selecting }
      | .error e =>
        if WsHub.eventFrame encode topic payload = .error e then
          some { task with stage := .responding (.text text) (.error ErrorCode.internal e.text) }
        else none
    | _ => none
  | .onDisconnect =>
    match task.stage with
    | .disconnecting reason => some { task with stage := .closing reason }
    | _ => none
  | .close =>
    match task.stage with
    | .closing _ => some { task with stage := .finishing }
    | _ => none
  | _ => none

/-- The events with a hub operation. -/
inductive Requests (ctx : WsContext) (hub : WsHub Value) (task : SessionTask Value) :
    SessionEvent Value → Op Value → SessionTask Value → Prop where
  | register {now : DateTime} {instant : Nat} :
      task.stage = .handshake →
      Requests ctx hub task (.register now instant) (.register ctx.connectionId ctx.userId now)
        { task with
          stage := if hub.atCapacity then .refused else .connecting
          lastSeen := instant }
  | policy {op : Op Value} :
      awaitsPolicy task.stage = true → op.leaves ctx.connectionId = true →
      Requests ctx hub task (.policy op) op task
  | outbound {frame : ByteString} :
      task.stage = .selecting → nextFrame hub ctx.connectionId = some frame →
      Requests ctx hub task .outbound (.drain ctx.connectionId)
        { task with stage := .forwarding frame }
  | subscribe {text : String} {topic : Topic} :
      task.stage = .calling text (.subscribe topic) →
      Requests ctx hub task .call (.subscribe ctx.connectionId topic)
        { task with
          stage := .responding (.text text)
            (subscribeResponse topic (hub.subscribeConnection ctx.connectionId topic)) }
  | unsubscribe {text : String} {topic : Topic} :
      task.stage = .calling text (.unsubscribe topic) →
      Requests ctx hub task .call (.unsubscribe ctx.connectionId topic)
        { task with stage := .responding (.text text) (.unsubscribed topic) }
  | publish {text : String} {topic : Topic} {payload : Value} :
      task.stage = .calling text (.publish topic payload) →
      Requests ctx hub task .call (.publish topic (.ok payload))
        { task with stage := .publishing text topic payload }
  | unregister {stage : Stage Value} :
      afterUnregister task.stage = some stage →
      Requests ctx hub task .unregister (.unregister ctx.connectionId) { task with stage := stage }
  | finish :
      task.stage = .finishing →
      Requests ctx hub task .finish (.dropReceiver ctx.connectionId)
        { task with stage := .returned }

theorem request_requests {ctx : WsContext} {hub : WsHub Value} {task task' : SessionTask Value}
    {event : SessionEvent Value} {op : Op Value}
    (requested : task.request ctx hub event = some (op, task')) :
    Requests ctx hub task event op task' := by
  cases event with
  | register now instant =>
    simp only [request] at requested
    split at requested
    · rename_i here
      cases requested
      exact .register here
    · cases requested
  | policy op =>
    simp only [request] at requested
    split at requested
    · rename_i free
      cases requested
      exact .policy free.1 free.2
    · cases requested
  | outbound =>
    simp only [request] at requested
    split at requested
    · rename_i here
      obtain ⟨frame, queued, same⟩ := Option.map_eq_some_iff.mp requested
      cases same
      exact .outbound here queued
    · cases requested
  | call =>
    simp only [request] at requested
    split at requested
    · rename_i here
      cases requested
      exact .subscribe here
    · rename_i here
      cases requested
      exact .unsubscribe here
    · rename_i here
      cases requested
      exact .publish here
    · cases requested
  | unregister =>
    obtain ⟨stage, after, same⟩ := Option.map_eq_some_iff.mp requested
    cases same
    exact .unregister after
  | finish =>
    simp only [request] at requested
    split at requested
    · rename_i here
      cases requested
      exact .finish here
    · cases requested
  | onConnect | write | inbound | tick | authorize | published | onDisconnect | close =>
    cases requested

/-- The events without one. -/
inductive Nexts (config : SessionConfig) (ctx : WsContext)
    (encode : ServerMessage Value → Except WsError ByteString)
    (parse : String → Except String (ClientMessage Value)) (hub : WsHub Value)
    (task : SessionTask Value) : SessionEvent Value → SessionTask Value → Prop where
  | accepted :
      task.stage = .connecting →
      Nexts config ctx encode parse hub task (.onConnect (.ok ())) { task with stage := .welcoming }
  | rejected {reason : String} :
      task.stage = .connecting →
      Nexts config ctx encode parse hub task (.onConnect (.error reason))
        { task with stage := .rejected reason }
  | write {ok : Bool} {stage : Stage Value} {out : List (Sent Value)} :
      written config ctx encode ok task.stage = some (stage, out) →
      Nexts config ctx encode parse hub task (.write ok)
        { task with stage := stage, sent := task.sent ++ out }
  | evicted :
      task.stage = .selecting → nextFrame hub ctx.connectionId = none →
      ctx.connectionId ∉ hub.connections →
      Nexts config ctx encode parse hub task .outbound
        { task with stage := .leaving (some closedByServer) }
  | ended {now : Nat} :
      task.stage = .selecting →
      Nexts config ctx encode parse hub task (.inbound none now)
        { task with stage := .leaving none }
  | protocolError {e : String} {now : Nat} :
      task.stage = .selecting →
      Nexts config ctx encode parse hub task (.inbound (some (.error e)) now)
        { task with stage := .leaving (some ⟨.protocol, none⟩) }
  | message {message : AggregatedMessage} {now : Nat} :
      task.stage = .selecting →
      Nexts config ctx encode parse hub task (.inbound (some (.ok message)) now)
        { task with stage := received parse message, lastSeen := now }
  | tick {now : Nat} :
      task.stage = .selecting →
      Nexts config ctx encode parse hub task (.tick now)
        { task with
          stage := if config.clientTimeout < now - task.lastSeen then
            .leaving (some heartbeatTimeout) else .pinging }
  | authorized {text : String} {message : ClientMessage Value} :
      task.stage = .authorizing text message →
      Nexts config ctx encode parse hub task (.authorize (.ok ()))
        { task with stage := .calling text message }
  | forbidden {text : String} {message : ClientMessage Value} {reason : String} :
      task.stage = .authorizing text message →
      Nexts config ctx encode parse hub task (.authorize (.error reason))
        { task with stage := .responding (.text text) (.error ErrorCode.forbidden reason) }
  | published {text : String} {topic : Topic} {payload : Value} :
      task.stage = .publishing text topic payload →
      Nexts config ctx encode parse hub task (.published (.ok ())) { task with stage := .selecting }
  | unpublished {text : String} {topic : Topic} {payload : Value} {e : WsError} :
      task.stage = .publishing text topic payload →
      WsHub.eventFrame encode topic payload = .error e →
      Nexts config ctx encode parse hub task (.published (.error e))
        { task with stage := .responding (.text text) (.error ErrorCode.internal e.text) }
  | onDisconnect {reason : Option CloseReason} :
      task.stage = .disconnecting reason →
      Nexts config ctx encode parse hub task .onDisconnect { task with stage := .closing reason }
  | close {reason : Option CloseReason} :
      task.stage = .closing reason →
      Nexts config ctx encode parse hub task .close { task with stage := .finishing }

theorem next_nexts {config : SessionConfig} {ctx : WsContext}
    {encode : ServerMessage Value → Except WsError ByteString}
    {parse : String → Except String (ClientMessage Value)} {hub : WsHub Value}
    {task task' : SessionTask Value} {event : SessionEvent Value}
    (moved : task.next config ctx encode parse hub event = some task') :
    Nexts config ctx encode parse hub task event task' := by
  cases event with
  | onConnect verdict =>
    simp only [next] at moved
    split at moved
    · rename_i here
      rcases verdict with reason | ⟨⟩
      · cases moved
        exact .rejected here
      · cases moved
        exact .accepted here
    · cases moved
  | write ok =>
    obtain ⟨⟨stage, out⟩, done, rfl⟩ := Option.map_eq_some_iff.mp moved
    exact .write done
  | outbound =>
    simp only [next] at moved
    split at moved
    · rename_i here
      split at moved
      · rename_i closed
        cases moved
        exact .evicted here closed.1 closed.2
      · cases moved
    · cases moved
  | inbound item now =>
    simp only [next] at moved
    split at moved
    · rename_i here
      rcases item with _ | e | message
      · cases moved
        exact .ended here
      · cases moved
        exact .protocolError here
      · cases moved
        exact .message here
    · cases moved
  | tick now =>
    simp only [next] at moved
    split at moved
    · rename_i here
      cases moved
      exact .tick here
    · cases moved
  | authorize verdict =>
    simp only [next] at moved
    split at moved
    · rename_i here
      rcases verdict with reason | ⟨⟩
      · cases moved
        exact .forbidden here
      · cases moved
        exact .authorized here
    · cases moved
  | published result =>
    simp only [next] at moved
    split at moved
    · rename_i here
      rcases result with e | ⟨⟩
      · dsimp only at moved
        split at moved
        · rename_i unencodable
          cases moved
          exact .unpublished here unencodable
        · cases moved
      · cases moved
        exact .published here
    · cases moved
  | onDisconnect =>
    simp only [next] at moved
    split at moved
    · rename_i here
      cases moved
      exact .onDisconnect here
    · cases moved
  | close =>
    simp only [next] at moved
    split at moved
    · rename_i here
      cases moved
      exact .close here
    · cases moved
  | register | policy | call | unregister | finish => cases moved

end SessionTask

namespace HubTasks
variable {Value : Type} (encode : ServerMessage Value → Except WsError ByteString)

/-- Start an operation and make its first call. -/
def perform (s : HubTasks Value) (name : TaskName) (op : Op Value) (ids : List ConnectionId)
    (topics : List Topic) : Option (HubTasks Value) :=
  (s.step encode (.start name op)).bind (fun t => t.step encode (.run name ids topics))

variable {encode} in
/-- The first call of an operation has been made, and the task awaits the rest. -/
theorem perform_cases {s t : HubTasks Value} {name : TaskName} {op : Op Value}
    {ids : List ConnectionId} {topics : List Topic}
    (performed : s.perform encode name op ids topics = some t) :
    ∃ c rest h more pending, op.calls = c :: rest ∧ op.allowedFor name ∧
      exec encode ids topics s.hub c = some (h, more) ∧
      t = ⟨h, pending, owned s.owner c, s.log ++ logged s.hub c⟩ ∧
      ∀ m, pending.lookup m =
        if m = name then (if more ++ rest = [] then none else some (more ++ rest))
        else s.pending.lookup m := by
  obtain ⟨started, start, ran⟩ := Option.bind_eq_some_iff.mp performed
  obtain ⟨_, allowed, rfl⟩ := start_cases start
  obtain ⟨c, rest, h, more, found, done, rfl⟩ := run_cases ran
  have calls : op.calls = c :: rest := by
    rw [lookup_setCalls, if_pos rfl] at found
    split_ifs at found
    exact Option.some.inj found
  refine ⟨c, rest, h, more, _, calls, allowed, done, rfl, fun m => ?_⟩
  simp only [lookup_setCalls]
  split_ifs <;> rfl

/-- What is awaited after the first call of an operation. -/
theorem awaits_performed {s t : HubTasks Value} {name : TaskName} {rest more : List (Call Value)}
    (waiting : ∀ m, t.pending.lookup m =
      if m = name then (if more ++ rest = [] then none else some (more ++ rest))
      else s.pending.lookup m)
    {d : Call Value} (awaited : t.Awaits d) : d ∈ more ∨ d ∈ rest ∨ s.Awaits d := by
  obtain ⟨m, calls, lookup, hd⟩ := awaited
  rw [waiting] at lookup
  split_ifs at lookup with same empty
  · rw [← Option.some.inj lookup] at hd
    exact (List.mem_append.mp hd).imp_right Or.inl
  · exact Or.inr (Or.inr ⟨m, calls, lookup, hd⟩)

end HubTasks

namespace SessionRun
variable {Value : Type}

section Step
variable (encode : ServerMessage Value → Except WsError ByteString)
  (parse : String → Except String (ClientMessage Value)) (config : SessionConfig)
  (ctx : WsContext)

def step (s : SessionRun Value) : SessionRunLabel Value → Option (SessionRun Value)
  | .hub (.start name op) =>
    if name ≠ .session ctx.connectionId ∧ op.leaves ctx.connectionId then
      (s.tasks.step encode (.start name op)).map (fun tasks => { s with tasks := tasks })
    else none
  | .hub (.run name ids topics) =>
    (s.tasks.step encode (.run name ids topics)).map (fun tasks => { s with tasks := tasks })
  | .own event ids topics =>
    if .session ctx.connectionId ∈ s.tasks.pending then none
    else match s.task.request ctx s.tasks.hub event with
      | some (op, task) =>
        (s.tasks.perform encode (.session ctx.connectionId) op ids topics).map
          (fun tasks => ⟨tasks, task⟩)
      | none =>
        (s.task.next config ctx encode parse s.tasks.hub event).map
          (fun task => ⟨s.tasks, task⟩)

def machine (nodeId : Uuid) (hubConfig : WebSocketConfig)
    (clusterTx : Option (Mpsc (ClusterFrame Value))) :
    Machine (SessionRun Value) (SessionRunLabel Value) where
  init := ⟨(HubTasks.machine encode nodeId hubConfig clusterTx).init, ⟨.handshake, 0, []⟩⟩
  step := step encode parse config ctx

end Step

/-- What one step does. Another task may hold the operations of the session, but
the session itself goes on only between them. -/
inductive Moves (encode : ServerMessage Value → Except WsError ByteString)
    (parse : String → Except String (ClientMessage Value)) (config : SessionConfig)
    (ctx : WsContext) (s : SessionRun Value) :
    SessionRunLabel Value → SessionRun Value → Prop where
  | started {name : TaskName} {op : Op Value} {tasks : HubTasks Value} :
      name ≠ .session ctx.connectionId → op.leaves ctx.connectionId = true →
      s.tasks.step encode (.start name op) = some tasks →
      Moves encode parse config ctx s (.hub (.start name op)) ⟨tasks, s.task⟩
  | ran {name : TaskName} {ids : List ConnectionId} {topics : List Topic}
      {tasks : HubTasks Value} :
      s.tasks.step encode (.run name ids topics) = some tasks →
      Moves encode parse config ctx s (.hub (.run name ids topics)) ⟨tasks, s.task⟩
  | requested {event : SessionEvent Value} {ids : List ConnectionId} {topics : List Topic}
      {op : Op Value} {task : SessionTask Value} {tasks : HubTasks Value} :
      .session ctx.connectionId ∉ s.tasks.pending →
      s.task.Requests ctx s.tasks.hub event op task →
      s.tasks.perform encode (.session ctx.connectionId) op ids topics = some tasks →
      Moves encode parse config ctx s (.own event ids topics) ⟨tasks, task⟩
  | moved {event : SessionEvent Value} {ids : List ConnectionId} {topics : List Topic}
      {task : SessionTask Value} :
      .session ctx.connectionId ∉ s.tasks.pending →
      s.task.Nexts config ctx encode parse s.tasks.hub event task →
      Moves encode parse config ctx s (.own event ids topics) ⟨s.tasks, task⟩

theorem step_moves {encode : ServerMessage Value → Except WsError ByteString}
    {parse : String → Except String (ClientMessage Value)} {config : SessionConfig}
    {ctx : WsContext} {s t : SessionRun Value} {l : SessionRunLabel Value}
    (stepped : step encode parse config ctx s l = some t) :
    Moves encode parse config ctx s l t := by
  cases l with
  | hub l =>
    cases l with
    | start name op =>
      simp only [step] at stepped
      split at stepped
      · rename_i other
        obtain ⟨tasks, started, rfl⟩ := Option.map_eq_some_iff.mp stepped
        exact .started other.1 other.2 started
      · cases stepped
    | run name ids topics =>
      obtain ⟨tasks, ran, rfl⟩ := Option.map_eq_some_iff.mp stepped
      exact .ran ran
  | own event ids topics =>
    simp only [step] at stepped
    split at stepped
    · cases stepped
    · rename_i idle
      split at stepped
      · rename_i op task requested
        obtain ⟨tasks, performed, rfl⟩ := Option.map_eq_some_iff.mp stepped
        exact .requested idle (SessionTask.request_requests requested) performed
      · obtain ⟨task, moved, rfl⟩ := Option.map_eq_some_iff.mp stepped
        exact .moved idle (SessionTask.next_nexts moved)

end SessionRun
end ApiBoilerplate
