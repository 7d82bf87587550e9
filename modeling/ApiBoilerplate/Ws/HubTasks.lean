import ApiBoilerplate.Ws.HubIndex

/-!
# Interleaved hub operations

Any number of tasks run hub operations at once. Each call on one of the shared
maps, channels or counters is an atomic step; between two calls of one
operation every other task may move. A task holds the calls its operation has
still to make, and a call may put further ones in front. One session task per
connection makes that connection's subscribe and unsubscribe calls.
-/

namespace ApiBoilerplate

open Foundation
open WsHub (Op)

inductive Call (Value : Type) where
  | connectionsLen (id : ConnectionId) (userId : Option Uuid) (now : DateTime)
  | connectionsInsert (id : ConnectionId) (userId : Option Uuid) (now : DateTime)
  | usersInsert (userId : Uuid) (id : ConnectionId)
  | subscribeConnection (id : ConnectionId) (topic : Topic)
  | topicsInsert (topic : Topic) (id : ConnectionId)
  | unsubscribeConnection (id : ConnectionId) (topic : Topic)
  | topicsRemove (topic : Topic) (id : ConnectionId)
  | topicsRemoveIf (topic : Topic)
  | connectionsRemove (id : ConnectionId)
  | usersRemove (userId : Uuid) (id : ConnectionId)
  | usersRemoveIf (userId : Uuid)
  | forwardToCluster (scope : ClusterScope) (topic : Topic) (payload : Value)
  /-- Read the ids an address resolves to and encode the frame. -/
  | readAudience (addr : Address) (topic : Topic) (payload : Value)
  /-- The first loop of `deliver`, with the ids still to serve. -/
  | deliver (addr : Address) (frame : ByteString) (ids : List ConnectionId)
      (delivered : Nat) (slow : List ConnectionId)
  | countSlow
  | countSent (delivered : Nat)
  | drain (id : ConnectionId)
  | dropReceiver (id : ConnectionId)
  | relay

/-- Who runs an operation. -/
inductive TaskName where
  | session (id : ConnectionId)
  | other (n : Nat)
  deriving DecidableEq, Repr

/-- The calls an operation starts with. -/
def WsHub.Op.calls {Value : Type} : Op Value → List (Call Value)
  | .register id userId now => [.connectionsLen id userId now]
  | .unregister id => [.connectionsRemove id]
  | .subscribe id topic => [.subscribeConnection id topic]
  | .unsubscribe id topic => [.unsubscribeConnection id topic]
  | .publish topic (.ok value) =>
    [.forwardToCluster .topic topic value, .readAudience (.topic topic) topic value]
  | .publish _ (.error _) => []
  | .publishToUser userId topic (.ok value) =>
    [.forwardToCluster (.user userId) topic value, .readAudience (.user userId) topic value]
  | .publishToUser _ _ (.error _) => []
  | .broadcast topic (.ok value) =>
    [.forwardToCluster .all topic value, .readAudience .all topic value]
  | .broadcast _ (.error _) => []
  | .sendTo id topic (.ok value) => [.readAudience (.only id) topic value]
  | .sendTo _ _ (.error _) => []
  | .dispatchClusterFrame frame => [.readAudience frame.address frame.topic frame.payload]
  | .drain id => [.drain id]
  | .dropReceiver id => [.dropReceiver id]
  | .relay => [.relay]

/-- Subscriptions of a connection are made by its session task. -/
def WsHub.Op.allowedFor {Value : Type} (name : TaskName) : Op Value → Prop
  | .subscribe id _ => name = .session id
  | .unsubscribe id _ => name = .session id
  | _ => True

instance {Value : Type} (name : TaskName) (op : Op Value) : Decidable (op.allowedFor name) := by
  cases op <;> first | exact inferInstanceAs (Decidable (_ = _)) | exact .isTrue trivial

structure HubTasks (Value : Type) where
  hub : WsHub Value
  pending : FinMap TaskName (List (Call Value))
  /-- The user each connection was registered with, kept after it is gone. -/
  owner : FinMap ConnectionId (Option Uuid)
  /-- Frames accepted by a queue so far, with the address they were posted to. -/
  log : List (Address × ConnectionId × ByteString)

inductive TaskLabel (Value : Type) where
  | start (name : TaskName) (op : Op Value)
  /-- Make the next call of a task. The lists are the order in which a hash set
  read by that call is traversed. -/
  | run (name : TaskName) (ids : List ConnectionId) (topics : List Topic)

namespace HubTasks
variable {Value : Type}

/-- `order` lists each element of `s` once. -/
def Enumerates {α : Type} [DecidableEq α] (order : List α) (s : Finset α) : Prop :=
  order.Nodup ∧ order.toFinset = s

instance {α : Type} [DecidableEq α] (order : List α) (s : Finset α) :
    Decidable (Enumerates order s) := inferInstanceAs (Decidable (_ ∧ _))

/-- The calls left of `unregister` once the entry has been taken out. -/
def detachCalls (conn : Connection) (id : ConnectionId) (topics : List Topic) :
    List (Call Value) :=
  topics.flatMap (fun t => [.topicsRemove t id, .topicsRemoveIf t]) ++
    match conn.userId with
    | some u => [.usersRemove u id, .usersRemoveIf u]
    | none => []

/-- The calls left of `deliver` once every id has been served. -/
def evictCalls (slow : List ConnectionId) (delivered : Nat) : List (Call Value) :=
  slow.flatMap (fun id => [.countSlow, .connectionsRemove id]) ++ [.countSent delivered]

section Exec
variable (encode : ServerMessage Value → Except WsError ByteString)

/-- One call: the hub after it, and the calls it puts in front. A new id never
repeats one a channel was opened for. -/
def exec (ids : List ConnectionId) (topics : List Topic) (h : WsHub Value) :
    Call Value → Option (WsHub Value × List (Call Value))
  | .connectionsLen id userId now =>
    if h.atCapacity then some (h, []) else some (h, [.connectionsInsert id userId now])
  | .connectionsInsert id userId now =>
    if id ∈ h.channels then none
    else some (h.connectionsInsert id userId now,
      match userId with
      | some u => [.usersInsert u id]
      | none => [])
  | .usersInsert userId id => some (h.usersInsert userId id, [])
  | .subscribeConnection id topic =>
    match h.subscribeConnection id topic with
    | .error _ => some (h, [])
    | .ok held => some (held, [.topicsInsert topic id])
  | .topicsInsert topic id => some (h.topicsInsert topic id, [])
  | .unsubscribeConnection id topic =>
    some (h.unsubscribeConnection id topic, [.topicsRemove topic id, .topicsRemoveIf topic])
  | .topicsRemove topic id => some (h.topicsRemove topic id, [])
  | .topicsRemoveIf topic => some (h.topicsRemoveIf topic, [])
  | .connectionsRemove id =>
    match h.connections.lookup id with
    | none => some (h, [])
    | some conn =>
      if Enumerates topics conn.topics then
        some (h.connectionsRemove id, detachCalls conn id topics)
      else none
  | .usersRemove userId id => some (h.usersRemove userId id, [])
  | .usersRemoveIf userId => some (h.usersRemoveIf userId, [])
  | .forwardToCluster scope topic payload => some (h.forwardToCluster scope topic payload, [])
  | .readAudience addr topic payload =>
    if Enumerates ids (h.audience addr) then
      match WsHub.eventFrame encode topic payload with
      | .error _ => some (h, [])
      | .ok frame => some (h, [.deliver addr frame ids 0 []])
    else none
  | .deliver addr frame (id :: rest) delivered slow =>
    match WsHub.attempt h.connections h.channels frame id with
    | some (.ok tx) =>
      some ({ h with channels := h.channels.insert id tx },
        [.deliver addr frame rest (delivered + 1) slow])
    | some (.error .full) => some (h, [.deliver addr frame rest delivered (slow ++ [id])])
    | some (.error .closed) => some (h, [.deliver addr frame rest delivered slow])
    | none => some (h, [.deliver addr frame rest delivered slow])
  | .deliver _ _ [] delivered slow => some (h, evictCalls slow delivered)
  | .countSlow => some (h.countSlow, [])
  | .countSent n => some ({ h with messagesSent := h.messagesSent + UInt64.ofNat n }, [])
  | .drain id => (h.step encode (.drain id)).map (fun g => (g, []))
  | .dropReceiver id => (h.step encode (.dropReceiver id)).map (fun g => (g, []))
  | .relay => (h.step encode .relay).map (fun g => (g, []))

/-- The entry a call adds to the log. -/
def logged (h : WsHub Value) : Call Value → List (Address × ConnectionId × ByteString)
  | .deliver addr frame (id :: _) _ _ =>
    match WsHub.attempt h.connections h.channels frame id with
    | some (.ok _) => [(addr, id, frame)]
    | _ => []
  | _ => []

/-- The user a call registers a connection for. -/
def owned (owner : FinMap ConnectionId (Option Uuid)) :
    Call Value → FinMap ConnectionId (Option Uuid)
  | .connectionsInsert id userId _ => owner.insert id userId
  | _ => owner

/-- A task with no calls left is no longer in progress. -/
def setCalls (pending : FinMap TaskName (List (Call Value))) (name : TaskName)
    (calls : List (Call Value)) : FinMap TaskName (List (Call Value)) :=
  match calls with
  | [] => pending.erase name
  | c :: rest => pending.insert name (c :: rest)

def step (s : HubTasks Value) : TaskLabel Value → Option (HubTasks Value)
  | .start name op =>
    if name ∉ s.pending ∧ op.allowedFor name then
      some { s with pending := setCalls s.pending name op.calls }
    else none
  | .run name ids topics =>
    match s.pending.lookup name with
    | some (c :: rest) =>
      (exec encode ids topics s.hub c).map (fun r =>
        ⟨r.1, setCalls s.pending name (r.2 ++ rest), owned s.owner c, s.log ++ logged s.hub c⟩)
    | some [] => none
    | none => none

def machine (nodeId : Uuid) (config : WebSocketConfig)
    (clusterTx : Option (Mpsc (ClusterFrame Value))) :
    Machine (HubTasks Value) (TaskLabel Value) where
  init := ⟨.new nodeId config clusterTx, ∅, ∅, []⟩
  step := step encode

end Exec

/-- Some task has still to make the call `c`. -/
def Awaits (s : HubTasks Value) (c : Call Value) : Prop :=
  ∃ name calls, s.pending.lookup name = some calls ∧ c ∈ calls

/-- No operation is in progress. -/
def Quiescent (s : HubTasks Value) : Prop := s.pending.keys = ∅

instance (s : HubTasks Value) : Decidable s.Quiescent := inferInstanceAs (Decidable (_ = _))

/-- Every id filed under a topic or a user is a registered connection. -/
def NoIndexLeak (s : HubTasks Value) : Prop :=
  (∀ t id, id ∈ s.hub.topics.members t → id ∈ s.hub.connections) ∧
    ∀ u id, id ∈ s.hub.users.members u → id ∈ s.hub.connections

/-- `subscribe` and `register` lock the connection and the index separately. A
step is in time unless it files under a topic or a user an id whose connection
has been removed meanwhile and whose removal has already passed that entry. -/
def InTime (s : HubTasks Value) : TaskLabel Value → Prop
  | .start _ _ => True
  | .run name _ _ =>
    match s.pending.lookup name with
    | some (.topicsInsert t id :: _) => id ∈ s.hub.connections ∨ s.Awaits (.topicsRemove t id)
    | some (.usersInsert u id :: _) => id ∈ s.hub.connections ∨ s.Awaits (.usersRemove u id)
    | _ => True

/-- What one call makes of the hub, and the calls it puts in front. -/
inductive Made (encode : ServerMessage Value → Except WsError ByteString) (h : WsHub Value) :
    Call Value → WsHub Value → List (Call Value) → Prop where
  | atCapacity {id : ConnectionId} {userId : Option Uuid} {now : DateTime} :
      h.atCapacity → Made encode h (.connectionsLen id userId now) h []
  | admitted {id : ConnectionId} {userId : Option Uuid} {now : DateTime} :
      ¬ h.atCapacity →
      Made encode h (.connectionsLen id userId now) h [.connectionsInsert id userId now]
  | registered {id : ConnectionId} {now : DateTime} : id ∉ h.channels →
      Made encode h (.connectionsInsert id none now) (h.connectionsInsert id none now) []
  | registeredFor {id : ConnectionId} {u : Uuid} {now : DateTime} : id ∉ h.channels →
      Made encode h (.connectionsInsert id (some u) now) (h.connectionsInsert id (some u) now)
        [.usersInsert u id]
  | usersInsert {u : Uuid} {id : ConnectionId} :
      Made encode h (.usersInsert u id) (h.usersInsert u id) []
  | refused {id : ConnectionId} {topic : Topic} {e : WsError} :
      h.subscribeConnection id topic = .error e →
      Made encode h (.subscribeConnection id topic) h []
  | subscribed {id : ConnectionId} {topic : Topic} {conn : Connection} :
      h.connections.lookup id = some conn →
      Made encode h (.subscribeConnection id topic)
        { h with connections :=
            h.connections.insert id { conn with topics := insert topic conn.topics } }
        [.topicsInsert topic id]
  | topicsInsert {topic : Topic} {id : ConnectionId} :
      Made encode h (.topicsInsert topic id) (h.topicsInsert topic id) []
  | unsubscribedGone {id : ConnectionId} {topic : Topic} : h.connections.lookup id = none →
      Made encode h (.unsubscribeConnection id topic) h
        [.topicsRemove topic id, .topicsRemoveIf topic]
  | unsubscribed {id : ConnectionId} {topic : Topic} {conn : Connection} :
      h.connections.lookup id = some conn →
      Made encode h (.unsubscribeConnection id topic)
        { h with connections :=
            h.connections.insert id { conn with topics := conn.topics.erase topic } }
        [.topicsRemove topic id, .topicsRemoveIf topic]
  | topicsRemove {topic : Topic} {id : ConnectionId} :
      Made encode h (.topicsRemove topic id) (h.topicsRemove topic id) []
  | topicsRemoveIf {topic : Topic} :
      Made encode h (.topicsRemoveIf topic) (h.topicsRemoveIf topic) []
  | removedGone {id : ConnectionId} : h.connections.lookup id = none →
      Made encode h (.connectionsRemove id) h []
  | removed {id : ConnectionId} {conn : Connection} {topics : List Topic} :
      h.connections.lookup id = some conn → Enumerates topics conn.topics →
      Made encode h (.connectionsRemove id) (h.connectionsRemove id) (detachCalls conn id topics)
  | usersRemove {u : Uuid} {id : ConnectionId} :
      Made encode h (.usersRemove u id) (h.usersRemove u id) []
  | usersRemoveIf {u : Uuid} : Made encode h (.usersRemoveIf u) (h.usersRemoveIf u) []
  | forwarded {scope : ClusterScope} {topic : Topic} {payload : Value}
      {relay : Option (Mpsc (ClusterFrame Value))} :
      Made encode h (.forwardToCluster scope topic payload) { h with clusterTx := relay } []
  | unencoded {addr : Address} {topic : Topic} {payload : Value} {e : WsError} :
      WsHub.eventFrame encode topic payload = .error e →
      Made encode h (.readAudience addr topic payload) h []
  | audience {addr : Address} {topic : Topic} {payload : Value} {frame : ByteString}
      {ids : List ConnectionId} : Enumerates ids (h.audience addr) →
      WsHub.eventFrame encode topic payload = .ok frame →
      Made encode h (.readAudience addr topic payload) h [.deliver addr frame ids 0 []]
  | delivered {addr : Address} {frame : ByteString} {id : ConnectionId}
      {rest : List ConnectionId} {n : Nat} {slow : List ConnectionId} {tx : Mpsc ByteString} :
      WsHub.attempt h.connections h.channels frame id = some (.ok tx) →
      Made encode h (.deliver addr frame (id :: rest) n slow)
        { h with channels := h.channels.insert id tx } [.deliver addr frame rest (n + 1) slow]
  | passed {addr : Address} {frame : ByteString} {id : ConnectionId}
      {rest : List ConnectionId} {n : Nat} {slow slow' : List ConnectionId} :
      (∀ tx, WsHub.attempt h.connections h.channels frame id ≠ some (.ok tx)) →
      Made encode h (.deliver addr frame (id :: rest) n slow) h [.deliver addr frame rest n slow']
  | served {addr : Address} {frame : ByteString} {n : Nat} {slow : List ConnectionId} :
      Made encode h (.deliver addr frame [] n slow) h (evictCalls slow n)
  | countSlow : Made encode h .countSlow h.countSlow []
  | countSent {n : Nat} : Made encode h (.countSent n)
      { h with messagesSent := h.messagesSent + UInt64.ofNat n } []
  | drained {id : ConnectionId} {rx rx' : Mpsc ByteString} {frame : ByteString} :
      h.channels.lookup id = some rx → rx.recv = some (frame, rx') →
      Made encode h (.drain id) { h with channels := h.channels.insert id rx' } []
  | dropped {id : ConnectionId} {rx : Mpsc ByteString} : h.channels.lookup id = some rx →
      Made encode h (.dropReceiver id)
        { h with channels := h.channels.insert id rx.dropReceiver } []
  | relayed {relay : Option (Mpsc (ClusterFrame Value))} :
      Made encode h .relay { h with clusterTx := relay } []

theorem exec_made {encode : ServerMessage Value → Except WsError ByteString}
    {ids : List ConnectionId} {topics : List Topic} {h h' : WsHub Value} {c : Call Value}
    {more : List (Call Value)} (done : exec encode ids topics h c = some (h', more)) :
    Made encode h c h' more := by
  cases c with
  | connectionsLen id userId now =>
    simp only [exec] at done
    split at done
    · rename_i full
      cases done
      exact .atCapacity full
    · rename_i room
      cases done
      exact .admitted room
  | connectionsInsert id userId now =>
    simp only [exec] at done
    split at done
    · cases done
    · rename_i fresh
      cases userId with
      | none => cases done; exact .registered fresh
      | some u => cases done; exact .registeredFor fresh
  | subscribeConnection id topic =>
    simp only [exec] at done
    split at done
    · rename_i e refused
      cases done
      exact .refused refused
    · rename_i held accepted
      obtain ⟨conn, lookup, _, rfl⟩ := WsHub.subscribeConnection_ok accepted
      cases done
      exact .subscribed lookup
  | unsubscribeConnection id topic =>
    simp only [exec, WsHub.unsubscribeConnection] at done
    split at done
    · rename_i gone
      cases done
      exact .unsubscribedGone gone
    · rename_i conn lookup
      cases done
      exact .unsubscribed lookup
  | connectionsRemove id =>
    simp only [exec] at done
    split at done
    · rename_i gone
      cases done
      exact .removedGone gone
    · rename_i conn lookup
      split at done
      · rename_i order
        cases done
        exact .removed lookup order
      · cases done
  | forwardToCluster scope topic payload =>
    cases done
    obtain ⟨relay, same⟩ := h.forwardToCluster_eq scope topic payload
    rw [same]
    exact .forwarded
  | readAudience addr topic payload =>
    simp only [exec] at done
    split at done
    · rename_i order
      split at done
      · rename_i e failed
        cases done
        exact .unencoded failed
      · rename_i frame encoded
        cases done
        exact .audience order encoded
    · cases done
  | deliver addr frame ids n slow =>
    cases ids with
    | nil => cases done; exact .served
    | cons id rest =>
      simp only [exec] at done
      split at done
      · rename_i tx sent
        cases done
        exact .delivered sent
      all_goals
        rename_i sent
        cases done
        exact .passed (by simp [sent])
  | drain id =>
    obtain ⟨g, stepped, same⟩ := Option.map_eq_some_iff.mp done
    cases same
    simp only [WsHub.step] at stepped
    split at stepped
    · cases stepped
    · rename_i rx lookup
      split at stepped
      · obtain ⟨pair, taken, rfl⟩ := Option.map_eq_some_iff.mp stepped
        exact .drained lookup taken
      · cases stepped
  | dropReceiver id =>
    obtain ⟨g, stepped, same⟩ := Option.map_eq_some_iff.mp done
    cases same
    obtain ⟨rx, lookup, rfl⟩ := Option.map_eq_some_iff.mp stepped
    exact .dropped lookup
  | relay =>
    obtain ⟨g, stepped, same⟩ := Option.map_eq_some_iff.mp done
    cases same
    simp only [WsHub.step] at stepped
    split at stepped
    · cases stepped
    · obtain ⟨pair, _, rfl⟩ := Option.map_eq_some_iff.mp stepped
      exact .relayed
  | usersInsert u id => cases done; exact .usersInsert
  | topicsInsert topic id => cases done; exact .topicsInsert
  | topicsRemove topic id => cases done; exact .topicsRemove
  | topicsRemoveIf topic => cases done; exact .topicsRemoveIf
  | usersRemove u id => cases done; exact .usersRemove
  | usersRemoveIf u => cases done; exact .usersRemoveIf
  | countSlow => cases done; exact .countSlow
  | countSent n => cases done; exact .countSent

/-- Starting an operation files its calls under the task. -/
theorem start_cases {encode : ServerMessage Value → Except WsError ByteString}
    {s s' : HubTasks Value} {name : TaskName} {op : Op Value}
    (hs : step encode s (.start name op) = some s') :
    name ∉ s.pending ∧ op.allowedFor name ∧
      s' = { s with pending := setCalls s.pending name op.calls } := by
  simp only [step] at hs
  split at hs
  · rename_i ready
    exact ⟨ready.1, ready.2, (Option.some.inj hs).symm⟩
  · cases hs

/-- The step of a task: the call it makes and what becomes of its calls. -/
theorem run_cases {encode : ServerMessage Value → Except WsError ByteString}
    {s s' : HubTasks Value} {name : TaskName} {ids : List ConnectionId} {topics : List Topic}
    (hs : step encode s (.run name ids topics) = some s') :
    ∃ c rest h more, s.pending.lookup name = some (c :: rest) ∧
      exec encode ids topics s.hub c = some (h, more) ∧
      s' = ⟨h, setCalls s.pending name (more ++ rest), owned s.owner c,
        s.log ++ logged s.hub c⟩ := by
  simp only [step] at hs
  cases found : s.pending.lookup name with
  | none => simp [found] at hs
  | some calls =>
    cases calls with
    | nil => simp [found] at hs
    | cons c rest =>
      simp only [found] at hs
      obtain ⟨r, done, same⟩ := Option.map_eq_some_iff.mp hs
      exact ⟨c, rest, r.1, r.2, rfl, done, same.symm⟩

theorem lookup_setCalls (pending : FinMap TaskName (List (Call Value))) (name m : TaskName)
    (calls : List (Call Value)) :
    (setCalls pending name calls).lookup m =
      if m = name then (if calls = [] then none else some calls) else pending.lookup m := by
  cases calls with
  | nil => simp [setCalls, FinMap.lookup_erase_eq]
  | cons c rest => simp [setCalls, FinMap.lookup_insert_eq]

/-- After a step a task awaits what the call put in front, or what was awaited
before. -/
theorem awaits_after {s : HubTasks Value} {name : TaskName} {c : Call Value}
    {rest more : List (Call Value)} (found : s.pending.lookup name = some (c :: rest))
    {m : TaskName} {calls : List (Call Value)}
    (after : (setCalls s.pending name (more ++ rest)).lookup m = some calls) {d : Call Value}
    (hd : d ∈ calls) : d ∈ more ∨ s.Awaits d := by
  rw [lookup_setCalls] at after
  split_ifs at after with same empty
  · rw [← Option.some.inj after] at hd
    rcases List.mem_append.mp hd with hd | hd
    · exact Or.inl hd
    · exact Or.inr ⟨name, c :: rest, found, List.mem_cons_of_mem c hd⟩
  · exact Or.inr ⟨m, calls, after, hd⟩

/-- A call other than the one made is still awaited after the step. -/
theorem awaits_kept {s : HubTasks Value} {name : TaskName} {c : Call Value}
    {rest : List (Call Value)} (found : s.pending.lookup name = some (c :: rest))
    (more : List (Call Value)) {d : Call Value} (hd : s.Awaits d) (other : d ≠ c) :
    ∃ m calls, (setCalls s.pending name (more ++ rest)).lookup m = some calls ∧ d ∈ calls := by
  obtain ⟨m, calls, lookup, hd⟩ := hd
  by_cases same : m = name
  · subst same
    have hrest : d ∈ rest := by
      rw [found] at lookup
      rw [← Option.some.inj lookup] at hd
      exact (List.mem_cons.mp hd).resolve_left other
    refine ⟨m, more ++ rest, ?_, List.mem_append_right more hrest⟩
    rw [lookup_setCalls, if_pos rfl, if_neg]
    intro empty
    rw [(List.append_eq_nil_iff.mp empty).2] at hrest
    cases hrest
  · exact ⟨m, calls, by rw [lookup_setCalls, if_neg same, lookup], hd⟩

theorem awaits_put {s : HubTasks Value} (name : TaskName) {rest more : List (Call Value)}
    {d : Call Value} (hd : d ∈ more) :
    ∃ m calls, (setCalls s.pending name (more ++ rest)).lookup m = some calls ∧ d ∈ calls := by
  refine ⟨name, more ++ rest, ?_, List.mem_append_left rest hd⟩
  rw [lookup_setCalls, if_pos rfl, if_neg]
  intro empty
  rw [(List.append_eq_nil_iff.mp empty).1] at hd
  cases hd

end HubTasks
end ApiBoilerplate
