import ApiBoilerplate.Ws.Policy

/-!
# Sessions over interleaved hub operations

One session task per connection. It registers, lets the policy prepare the
connection, and then handles client frames and outbound frames one at a time
until it ends; the operations it still has to make wait in its own queue. The
server's publishing calls run as tasks of their own, beside the sessions.
-/

namespace ApiBoilerplate

open Foundation
open WsHub (Op)

inductive Phase where
  | registering
  | running
  | closed
  deriving DecidableEq, Repr

structure Session (Value : Type) where
  ctx : WsContext
  phase : Phase
  todo : List (Op Value)

structure Sessions (Value : Type) where
  tasks : HubTasks Value
  sessions : FinMap ConnectionId (Session Value)

inductive SessionLabel (Value : Type) where
  /-- A handshake: the connection is registered and its session started. -/
  | connect (id : ConnectionId) (userId : Option Uuid) (email : Option String) (now : DateTime)
  | onConnect (id : ConnectionId)
  /-- A text frame from the client. -/
  | text (id : ConnectionId) (text : String)
  /-- The session takes the next outbound frame. -/
  | outbound (id : ConnectionId)
  | close (id : ConnectionId)
  /-- The session starts the operation it has to make next. -/
  | next (id : ConnectionId)
  /-- A handler or a job calls the hub. -/
  | server (n : Nat) (op : Op Value)
  | run (name : TaskName) (ids : List ConnectionId) (topics : List Topic)

/-- The operations called from outside the sessions. -/
def WsHub.Op.fromServer {Value : Type} : Op Value → Bool
  | .publish _ _ => true
  | .publishToUser _ _ _ => true
  | .broadcast _ _ => true
  | .sendTo _ _ _ => true
  | .dispatchClusterFrame _ => true
  | .unregister _ => true
  | .relay => true
  | _ => false

namespace Sessions
variable {Value : Type}

/-- The session is between two events of its loop. -/
def Idle (s : Sessions Value) (id : ConnectionId) (session : Session Value) : Prop :=
  session.todo = [] ∧ TaskName.session id ∉ s.tasks.pending

instance (s : Sessions Value) (id : ConnectionId) (session : Session Value) :
    Decidable (s.Idle id session) :=
  match todo : session.todo with
  | [] =>
    if pending : TaskName.session id ∉ s.tasks.pending then .isTrue ⟨todo, pending⟩
    else .isFalse (fun idle => pending idle.2)
  | _ :: _ => .isFalse (fun idle => by
      rw [Idle, todo] at idle
      cases idle.1)

/-- What a session does when its loop ends. -/
def teardown (id : ConnectionId) : List (Op Value) := [.unregister id, .dropReceiver id]

section Step
variable (encode : ServerMessage Value → Except WsError ByteString)
  (parse : String → Except String (ClientMessage Value)) (policy : WsPolicy Value)

def step (s : Sessions Value) : SessionLabel Value → Option (Sessions Value)
  | .connect id userId email now =>
    if id ∈ s.sessions then none
    else some { s with
      sessions := s.sessions.insert id
        ⟨⟨id, userId, email⟩, .registering, [.register id userId now]⟩ }
  | .onConnect id =>
    match s.sessions.lookup id with
    | none => none
    | some session =>
      if s.Idle id session ∧ session.phase = .registering ∧ id ∈ s.tasks.owner then
        match policy.onConnect session.ctx with
        | (ops, .ok ()) =>
          some { s with sessions := s.sessions.insert id ⟨session.ctx, .running, ops⟩ }
        | (ops, .error _) =>
          some { s with
            sessions := s.sessions.insert id ⟨session.ctx, .closed, ops ++ teardown id⟩ }
      else none
  | .text id text =>
    match s.sessions.lookup id with
    | none => none
    | some session =>
      if s.Idle id session ∧ session.phase = .running then
        some { s with
          sessions := s.sessions.insert id
            ⟨session.ctx, .running, textOps parse policy session.ctx text⟩ }
      else none
  | .outbound id =>
    match s.sessions.lookup id with
    | none => none
    | some session =>
      if s.Idle id session ∧ session.phase = .running then
        some { s with sessions := s.sessions.insert id ⟨session.ctx, .running, [.drain id]⟩ }
      else none
  | .close id =>
    match s.sessions.lookup id with
    | none => none
    | some session =>
      if s.Idle id session ∧ session.phase = .running then
        some { s with sessions := s.sessions.insert id ⟨session.ctx, .closed, teardown id⟩ }
      else none
  | .next id =>
    match s.sessions.lookup id with
    | none => none
    | some session =>
      match session.todo with
      | [] => none
      | op :: rest =>
        (s.tasks.step encode (.start (.session id) op)).map (fun tasks =>
          { tasks := tasks
            sessions := s.sessions.insert id { session with todo := rest } })
  | .server n op =>
    if op.fromServer then
      (s.tasks.step encode (.start (.other n) op)).map (fun tasks => { s with tasks := tasks })
    else none
  | .run name ids topics =>
    (s.tasks.step encode (.run name ids topics)).map (fun tasks => { s with tasks := tasks })

def machine (nodeId : Uuid) (config : WebSocketConfig)
    (clusterTx : Option (Mpsc (ClusterFrame Value))) :
    Machine (Sessions Value) (SessionLabel Value) where
  init := ⟨(HubTasks.machine encode nodeId config clusterTx).init, ∅⟩
  step := step encode parse policy

/-- What a step does, and what it found. -/
inductive Move (s : Sessions Value) : SessionLabel Value → Sessions Value → Prop where
  | connect {id : ConnectionId} {userId : Option Uuid} {email : Option String} {now : DateTime} :
      id ∉ s.sessions → Move s (.connect id userId email now) { s with
        sessions := s.sessions.insert id
          ⟨⟨id, userId, email⟩, .registering, [.register id userId now]⟩ }
  | accepted {id : ConnectionId} {session : Session Value} {ops : List (Op Value)} :
      s.sessions.lookup id = some session →
      s.Idle id session ∧ session.phase = .registering ∧ id ∈ s.tasks.owner →
      policy.onConnect session.ctx = (ops, .ok ()) →
      Move s (.onConnect id)
        { s with sessions := s.sessions.insert id ⟨session.ctx, .running, ops⟩ }
  | rejected {id : ConnectionId} {session : Session Value} {ops : List (Op Value)}
      {reason : String} : s.sessions.lookup id = some session →
      s.Idle id session ∧ session.phase = .registering ∧ id ∈ s.tasks.owner →
      policy.onConnect session.ctx = (ops, .error reason) →
      Move s (.onConnect id) { s with
        sessions := s.sessions.insert id ⟨session.ctx, .closed, ops ++ teardown id⟩ }
  | text {id : ConnectionId} {session : Session Value} {text : String} :
      s.sessions.lookup id = some session → s.Idle id session ∧ session.phase = .running →
      Move s (.text id text) { s with
        sessions := s.sessions.insert id
          ⟨session.ctx, .running, textOps parse policy session.ctx text⟩ }
  | outbound {id : ConnectionId} {session : Session Value} :
      s.sessions.lookup id = some session → s.Idle id session ∧ session.phase = .running →
      Move s (.outbound id)
        { s with sessions := s.sessions.insert id ⟨session.ctx, .running, [.drain id]⟩ }
  | close {id : ConnectionId} {session : Session Value} :
      s.sessions.lookup id = some session → s.Idle id session ∧ session.phase = .running →
      Move s (.close id)
        { s with sessions := s.sessions.insert id ⟨session.ctx, .closed, teardown id⟩ }
  | next {id : ConnectionId} {session : Session Value} {op : Op Value} {rest : List (Op Value)}
      {tasks : HubTasks Value} : s.sessions.lookup id = some session →
      session.todo = op :: rest → s.tasks.step encode (.start (.session id) op) = some tasks →
      Move s (.next id)
        { tasks := tasks, sessions := s.sessions.insert id { session with todo := rest } }
  | server {n : Nat} {op : Op Value} {tasks : HubTasks Value} : op.fromServer = true →
      s.tasks.step encode (.start (.other n) op) = some tasks →
      Move s (.server n op) { s with tasks := tasks }
  | run {name : TaskName} {ids : List ConnectionId} {topics : List Topic}
      {tasks : HubTasks Value} : s.tasks.step encode (.run name ids topics) = some tasks →
      Move s (.run name ids topics) { s with tasks := tasks }

variable {encode parse policy} in
theorem step_move {s t : Sessions Value} {l : SessionLabel Value}
    (stepped : step encode parse policy s l = some t) : Move encode parse policy s l t := by
  cases l with
  | connect id userId email now =>
    simp only [step] at stepped
    split at stepped
    · cases stepped
    · rename_i fresh
      cases stepped
      exact .connect fresh
  | onConnect id =>
    simp only [step] at stepped
    split at stepped
    · cases stepped
    · rename_i session found
      split at stepped
      · rename_i ready
        split at stepped
        · rename_i ops verdict
          cases stepped
          exact .accepted found ready verdict
        · rename_i ops reason verdict
          cases stepped
          exact .rejected found ready verdict
      · cases stepped
  | text id text =>
    simp only [step] at stepped
    split at stepped
    · cases stepped
    · rename_i session found
      split at stepped
      · rename_i ready
        cases stepped
        exact .text found ready
      · cases stepped
  | outbound id =>
    simp only [step] at stepped
    split at stepped
    · cases stepped
    · rename_i session found
      split at stepped
      · rename_i ready
        cases stepped
        exact .outbound found ready
      · cases stepped
  | close id =>
    simp only [step] at stepped
    split at stepped
    · cases stepped
    · rename_i session found
      split at stepped
      · rename_i ready
        cases stepped
        exact .close found ready
      · cases stepped
  | next id =>
    simp only [step] at stepped
    split at stepped
    · cases stepped
    · rename_i session found
      split at stepped
      · cases stepped
      · rename_i op rest todo
        obtain ⟨tasks, started, rfl⟩ := Option.map_eq_some_iff.mp stepped
        exact .next found todo started
  | server n op =>
    simp only [step] at stepped
    split at stepped
    · rename_i server
      obtain ⟨tasks, started, rfl⟩ := Option.map_eq_some_iff.mp stepped
      exact .server server started
    · cases stepped
  | run name ids topics =>
    obtain ⟨tasks, ran, rfl⟩ := Option.map_eq_some_iff.mp stepped
    exact .run ran

end Step

end Sessions
end ApiBoilerplate
