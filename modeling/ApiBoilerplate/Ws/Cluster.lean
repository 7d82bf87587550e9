import ApiBoilerplate.Ws.HubIndex

/-!
# The Redis bridge between instances

Every instance runs `publish_loop` on its relay queue and `subscribe_loop` on
the shared channel. Redis keeps nothing: a published message goes to the
subscriptions that exist at that moment, the publisher's own included, and what
a subscription has not yet read is lost with its connection. Subscribers may be
behind by any amount and, unless a run says otherwise, read in any order.
-/

namespace ApiBoilerplate

open Foundation

/-- Depth of the queue feeding the Redis relay. -/
def clusterRelayBuffer : Nat := 1024

/-- What `serde_json` makes of cluster frames, and of message payloads. -/
structure ClusterCodec (Value : Type) where
  toJson : ClusterFrame Value → Except String String
  fromJson : String → Except String (ClusterFrame Value)

/-- Operations of the sessions and of the application. Taking frames off the
relay queue and dispatching frames of other instances is left to the bridge. -/
def WsHub.Op.isLocal {Value : Type} : WsHub.Op Value → Bool
  | .relay | .dispatchClusterFrame _ => false
  | _ => true

namespace WsHub
variable {Value : Type}

/-- The frame a publishing call puts on the relay queue. -/
def Op.relayFrame (nodeId : Uuid) : Op Value → Option (ClusterFrame Value)
  | .publish topic (.ok value) => some ⟨nodeId, .topic, topic, value⟩
  | .publishToUser userId topic (.ok value) => some ⟨nodeId, .user userId, topic, value⟩
  | .broadcast topic (.ok value) => some ⟨nodeId, .all, topic, value⟩
  | _ => none

/-- The frames waiting in the relay queue. -/
def queued (h : WsHub Value) : List (ClusterFrame Value) := (h.clusterTx.map Mpsc.queue).getD []

/-- A frame put on the relay queue would be accepted. -/
def relays (h : WsHub Value) : Bool := h.clusterTx.any (fun tx => decide tx.HasRoom)

theorem Op.posting_of_relayFrame {op : Op Value} {nodeId : Uuid} {frame : ClusterFrame Value}
    (framed : op.relayFrame nodeId = some frame) :
    op.posting = some (frame.address, frame.topic, frame.payload) := by
  cases op with
  | publish t payload | publishToUser u t payload | broadcast t payload =>
    cases payload with
    | error e => cases framed
    | ok v =>
      cases framed
      rfl
  | register | unregister | subscribe | unsubscribe | sendTo | dispatchClusterFrame | drain
  | dropReceiver | relay => cases framed

theorem Op.relayFrame_node {op : Op Value} {nodeId : Uuid} {frame : ClusterFrame Value}
    (framed : op.relayFrame nodeId = some frame) : frame.node = nodeId := by
  cases op with
  | publish t payload | publishToUser u t payload | broadcast t payload =>
    cases payload with
    | error e => cases framed
    | ok v =>
      cases framed
      rfl
  | register | unregister | subscribe | unsubscribe | sendTo | dispatchClusterFrame | drain
  | dropReceiver | relay => cases framed

section Relaying
variable {encode : ServerMessage Value → Except WsError ByteString} {h h' : WsHub Value}

theorem post_queued (addr : Address) (topic : Topic) (value : Value) :
    (h.post encode addr topic value).queued = h.queued := by
  rw [queued, post_clusterTx, queued]

/-- A full relay queue stands. -/
theorem forward_queued (scope : ClusterScope) (topic : Topic) (value : Value) :
    (h.forwardToCluster scope topic value).queued =
      h.queued ++ if h.relays then [⟨h.nodeId, scope, topic, value⟩] else [] := by
  cases relay : h.clusterTx with
  | none => simp [forwardToCluster, queued, relays, relay]
  | some tx =>
    by_cases room : tx.HasRoom
    · simp [forwardToCluster, queued, relays, relay, Mpsc.trySend_of_room room, Mpsc.push, room]
    · cases sent : tx.trySend ⟨h.nodeId, scope, topic, value⟩ with
      | ok tx' => exact absurd (Mpsc.trySend_ok sent).1 room
      | error e => simp [forwardToCluster, queued, relays, relay, sent, room]

/-- Only a publishing call puts something on the relay queue: its frame. -/
theorem step_queued {op : Op Value} (own : op.isLocal = true) (hs : step encode h op = some h') :
    h'.queued = h.queued ++ if h.relays then (op.relayFrame h.nodeId).toList else [] := by
  have kept : h'.clusterTx = h.clusterTx → op.relayFrame h.nodeId = none →
      h'.queued = h.queued ++ if h.relays then (op.relayFrame h.nodeId).toList else [] := by
    intro same nothing
    simp [queued, same, nothing]
  cases op with
  | publish topic payload =>
    cases payload with
    | error e =>
      cases hs
      exact kept rfl rfl
    | ok value =>
      cases hs
      rw [publish, publishLocal_post, post_queued]
      exact forward_queued .topic topic value
  | publishToUser userId topic payload =>
    cases payload with
    | error e =>
      cases hs
      exact kept rfl rfl
    | ok value =>
      cases hs
      rw [publishToUser, publishToUserLocal_post, post_queued]
      exact forward_queued (.user userId) topic value
  | broadcast topic payload =>
    cases payload with
    | error e =>
      cases hs
      exact kept rfl rfl
    | ok value =>
      cases hs
      rw [broadcast, broadcastLocal_post, post_queued]
      exact forward_queued .all topic value
  | sendTo id topic payload =>
    cases payload with
    | error e =>
      cases hs
      exact kept rfl rfl
    | ok value =>
      cases hs
      refine kept ?_ rfl
      rw [sendTo_post, post_clusterTx]
  | unregister id =>
    cases hs
    exact kept (unregister_clusterTx h id) rfl
  | register id userId now =>
    simp only [step] at hs
    split at hs
    · cases hs
    · cases hs
      refine kept ?_ rfl
      rw [register]
      split
      · rfl
      · cases userId <;> rfl
  | subscribe id topic =>
    cases hs
    refine kept ?_ rfl
    rcases h.subscribe_cases id topic with same | ⟨conn, _, same⟩ <;> rw [same]
  | unsubscribe id topic =>
    cases hs
    refine kept ?_ rfl
    rcases h.unsubscribe_cases id topic with ⟨_, same⟩ | ⟨conn, _, same⟩ <;> rw [same]
  | drain id =>
    cases step_move hs with
    | post posting => cases posting
    | refused _ => exact kept rfl rfl
    | drain => exact kept rfl rfl
  | dropReceiver id =>
    cases step_move hs with
    | post posting => cases posting
    | refused _ => exact kept rfl rfl
    | dropReceiver => exact kept rfl rfl
  | relay | dispatchClusterFrame => cases own

end Relaying

end WsHub

structure Cluster (ι Value : Type) where
  hubs : ι → WsHub Value
  /-- The frame `publish_loop` has taken and not yet published. -/
  publishing : ι → Option (ClusterFrame Value)
  subscribed : ι → Bool
  /-- Messages on their way to the subscription of an instance. -/
  inbox : ι → List String

inductive ClusterLabel (ι Value : Type) where
  /-- An operation on the hub of one instance. -/
  | hub (node : ι) (op : WsHub.Op Value)
  /-- `publish_loop` receives the next frame of its relay queue. -/
  | recv (node : ι)
  /-- The frame is serialised and published. -/
  | publish (node : ι)
  /-- Redis is unavailable and the frame is dropped. -/
  | unavailable (node : ι)
  | subscribe (node : ι)
  /-- The subscription ends or fails. -/
  | disconnect (node : ι)
  /-- `run_subscriber` handles the message at this position of its inbox. -/
  | onMessage (node : ι) (position : Nat)

namespace Cluster
variable {ι Value : Type} [DecidableEq ι]

def setHub (s : Cluster ι Value) (node : ι) (h : WsHub Value) : Cluster ι Value :=
  { s with hubs := Function.update s.hubs node h }

def setPublishing (s : Cluster ι Value) (node : ι) (held : Option (ClusterFrame Value)) :
    Cluster ι Value :=
  { s with publishing := Function.update s.publishing node held }

/-- One turn of `publish_loop` after `recv`. -/
def publishFrame (codec : ClusterCodec Value) (s : Cluster ι Value) (node : ι)
    (frame : ClusterFrame Value) : Cluster ι Value :=
  let idle := s.setPublishing node none
  match codec.toJson frame with
  | .error _ => idle
  | .ok payload =>
    { idle with
      inbox := fun peer => if s.subscribed peer then s.inbox peer ++ [payload] else s.inbox peer }

/-- One turn of `run_subscriber`. -/
def receiveMessage (codec : ClusterCodec Value)
    (encode : ServerMessage Value → Except WsError ByteString) (h : WsHub Value)
    (raw : String) : WsHub Value :=
  match codec.fromJson raw with
  | .error _ => h
  | .ok frame => if frame.node = h.nodeId then h else (h.dispatchClusterFrame encode frame).2

section Step
variable (codec : ClusterCodec Value) (encode : ServerMessage Value → Except WsError ByteString)

def step (s : Cluster ι Value) : ClusterLabel ι Value → Option (Cluster ι Value)
  | .hub node op =>
    if op.isLocal then (WsHub.step encode (s.hubs node) op).map (fun h => s.setHub node h) else none
  | .recv node =>
    match s.publishing node, (s.hubs node).clusterTx with
    | none, some tx =>
      tx.recv.map (fun taken =>
        (s.setHub node { s.hubs node with clusterTx := some taken.2 }).setPublishing node
          (some taken.1))
    | _, _ => none
  | .publish node => (s.publishing node).map (fun frame => publishFrame codec s node frame)
  | .unavailable node => (s.publishing node).map (fun _ => s.setPublishing node none)
  | .subscribe node =>
    if s.subscribed node then none
    else some { s with subscribed := Function.update s.subscribed node true }
  | .disconnect node =>
    if s.subscribed node then
      some { s with
        subscribed := Function.update s.subscribed node false
        inbox := Function.update s.inbox node [] }
    else none
  | .onMessage node position =>
    (s.inbox node)[position]?.map (fun raw =>
      { s.setHub node (receiveMessage codec encode (s.hubs node) raw) with
        inbox := Function.update s.inbox node ((s.inbox node).eraseIdx position) })

/-- Instances start unsubscribed and without connections. -/
def machine (nodeId : ι → Uuid) (config : ι → WebSocketConfig) :
    Machine (Cluster ι Value) (ClusterLabel ι Value) where
  init :=
    { hubs := fun node =>
        WsHub.new (nodeId node) (config node) (some (Mpsc.channel clusterRelayBuffer))
      publishing := fun _ => none
      subscribed := fun _ => false
      inbox := fun _ => [] }
  step := step codec encode

/-- What a step does, and what it found. -/
inductive Move (s : Cluster ι Value) : ClusterLabel ι Value → Cluster ι Value → Prop where
  | hub {node : ι} {op : WsHub.Op Value} {h : WsHub Value} : op.isLocal = true →
      WsHub.step encode (s.hubs node) op = some h → Move s (.hub node op) (s.setHub node h)
  | recv {node : ι} {tx tx' : Mpsc (ClusterFrame Value)} {frame : ClusterFrame Value} :
      s.publishing node = none → (s.hubs node).clusterTx = some tx →
      tx.recv = some (frame, tx') →
      Move s (.recv node)
        ((s.setHub node { s.hubs node with clusterTx := some tx' }).setPublishing node (some frame))
  | publish {node : ι} {frame : ClusterFrame Value} : s.publishing node = some frame →
      Move s (.publish node) (publishFrame codec s node frame)
  | unavailable {node : ι} {frame : ClusterFrame Value} : s.publishing node = some frame →
      Move s (.unavailable node) (s.setPublishing node none)
  | subscribe {node : ι} : s.subscribed node = false →
      Move s (.subscribe node) { s with subscribed := Function.update s.subscribed node true }
  | disconnect {node : ι} : s.subscribed node = true →
      Move s (.disconnect node) { s with
        subscribed := Function.update s.subscribed node false
        inbox := Function.update s.inbox node [] }
  | onMessage {node : ι} {position : Nat} {raw : String} :
      (s.inbox node)[position]? = some raw →
      Move s (.onMessage node position)
        { s.setHub node (receiveMessage codec encode (s.hubs node) raw) with
          inbox := Function.update s.inbox node ((s.inbox node).eraseIdx position) }

variable {codec encode} in
theorem step_move {s t : Cluster ι Value} {l : ClusterLabel ι Value}
    (hs : step codec encode s l = some t) : Move codec encode s l t := by
  cases l with
  | hub node op =>
    simp only [step] at hs
    split at hs
    · rename_i own
      obtain ⟨h, stepped, rfl⟩ := Option.map_eq_some_iff.mp hs
      exact .hub own stepped
    · cases hs
  | recv node =>
    simp only [step] at hs
    split at hs
    · rename_i idle relay
      obtain ⟨⟨frame, tx'⟩, taken, rfl⟩ := Option.map_eq_some_iff.mp hs
      exact .recv idle relay taken
    · cases hs
  | publish node =>
    obtain ⟨frame, held, rfl⟩ := Option.map_eq_some_iff.mp hs
    exact .publish held
  | unavailable node =>
    obtain ⟨frame, held, rfl⟩ := Option.map_eq_some_iff.mp hs
    exact .unavailable held
  | subscribe node =>
    simp only [step] at hs
    split at hs
    · cases hs
    · rename_i unsubscribed
      cases hs
      exact .subscribe (Bool.eq_false_iff.mpr unsubscribed)
  | disconnect node =>
    simp only [step] at hs
    split at hs
    · rename_i subscribed
      cases hs
      exact .disconnect subscribed
    · cases hs
  | onMessage node position =>
    obtain ⟨raw, found, rfl⟩ := Option.map_eq_some_iff.mp hs
    exact .onMessage found

end Step

section Hubs
variable {codec : ClusterCodec Value} {encode : ServerMessage Value → Except WsError ByteString}

variable (codec encode) in
/-- What a step of the cluster does to each of its hubs. -/
inductive HubMove (h : WsHub Value) : WsHub Value → Prop where
  | stays : HubMove h h
  | op {op : WsHub.Op Value} {h' : WsHub Value} :
      WsHub.step encode h op = some h' → HubMove h h'
  | relayed {r : Option (Mpsc (ClusterFrame Value))} : HubMove h { h with clusterTx := r }
  | received {raw : String} : HubMove h (receiveMessage codec encode h raw)

theorem setHub_move {s : Cluster ι Value} {node : ι} {h : WsHub Value}
    (moved : HubMove codec encode (s.hubs node) h) (i : ι) :
    HubMove codec encode (s.hubs i) ((s.setHub node h).hubs i) := by
  rw [setHub]
  by_cases same : i = node
  · subst same
    simpa using moved
  · simpa [same] using HubMove.stays

variable (codec) in
theorem publishFrame_hubs (s : Cluster ι Value) (node : ι) (frame : ClusterFrame Value) :
    (publishFrame codec s node frame).hubs = s.hubs := by
  rw [publishFrame]
  cases codec.toJson frame <;> rfl

theorem step_hubMove {s t : Cluster ι Value} {l : ClusterLabel ι Value}
    (hs : step codec encode s l = some t) (i : ι) :
    HubMove codec encode (s.hubs i) (t.hubs i) := by
  cases step_move hs with
  | hub _ stepped => exact setHub_move (.op stepped) i
  | recv _ _ _ => exact setHub_move .relayed i
  | publish _ =>
    rw [publishFrame_hubs]
    exact .stays
  | unavailable | subscribe | disconnect => exact .stays
  | onMessage _ => exact setHub_move .received i

variable (codec encode) in
theorem receiveMessage_post (h : WsHub Value) (raw : String) :
    receiveMessage codec encode h raw = h ∨
      ∃ frame, codec.fromJson raw = .ok frame ∧ frame.node ≠ h.nodeId ∧
        receiveMessage codec encode h raw =
          h.post encode frame.address frame.topic frame.payload := by
  rw [receiveMessage]
  cases parsed : codec.fromJson raw with
  | error e => exact Or.inl rfl
  | ok frame =>
    dsimp only
    split
    · exact Or.inl rfl
    · rename_i foreign
      exact Or.inr ⟨frame, rfl, foreign, WsHub.dispatchClusterFrame_post encode h frame⟩

theorem HubMove.settled {h h' : WsHub Value} (moved : HubMove codec encode h h')
    (settled : h.Settled) : h'.Settled := by
  cases moved with
  | stays => exact settled
  | op stepped => exact WsHub.step_settled stepped settled
  | relayed => exact ⟨settled.toIndexConsistent.congr rfl rfl rfl, settled.opened⟩
  | @received raw =>
    rcases receiveMessage_post codec encode h raw with same | ⟨frame, _, _, posted⟩
    · rw [same]
      exact settled
    · rw [posted]
      exact WsHub.post_settled encode settled _ _ _

theorem HubMove.nodeId {h h' : WsHub Value} (moved : HubMove codec encode h h') :
    h'.nodeId = h.nodeId := by
  cases moved with
  | stays => rfl
  | op stepped => exact WsHub.step_nodeId stepped
  | relayed => rfl
  | @received raw =>
    rcases receiveMessage_post codec encode h raw with same | ⟨frame, _, _, posted⟩
    · rw [same]
    · rw [posted, WsHub.post_nodeId]

theorem reachable_hubs {nodeId : ι → Uuid} {config : ι → WebSocketConfig} {s : Cluster ι Value}
    (reach : (machine codec encode nodeId config).Reachable s) (i : ι) :
    (s.hubs i).Settled ∧ (s.hubs i).nodeId = nodeId i := by
  refine Machine.ReachableWhere.invariant
    (I := fun s : Cluster ι Value => (s.hubs i).Settled ∧ (s.hubs i).nodeId = nodeId i)
    ?_ ?_ reach
  · exact ⟨WsHub.new_settled _ _ _, rfl⟩
  · rintro s l t ⟨settled, same⟩ _ hs
    have moved := step_hubMove hs i
    exact ⟨moved.settled settled, moved.nodeId.trans same⟩

end Hubs

/-- No message is in flight. -/
structure Quiet (s : Cluster ι Value) : Prop where
  relayQueues : ∀ node, ∀ tx ∈ (s.hubs node).clusterTx, tx.queue = []
  publishing : ∀ node, s.publishing node = none
  inbox : ∀ node, s.inbox node = []

def newsFrame : ClusterFrame Nat := ⟨1, .topic, "news", 3⟩

/-- The JSON text of `newsFrame`. -/
def newsJson : String :=
  "\x7b\"node\":\"00000000-0000-0000-0000-000000000001\",\"scope\":\x7b\"kind\":\"topic\"\x7d," ++
  "\"topic\":\"news\",\"payload\":3\x7d"

def newsCodec : ClusterCodec Nat where
  toJson frame := if frame = newsFrame then .ok newsJson else .error "another frame"
  fromJson raw := if raw = newsJson then .ok newsFrame else .error "another text"

theorem newsCodec_toJson {frame : ClusterFrame Nat} {payload : String}
    (written : newsCodec.toJson frame = .ok payload) : newsCodec.fromJson payload = .ok frame := by
  simp only [newsCodec] at written ⊢
  split at written
  · rename_i same
    cases written
    rw [if_pos rfl, same]
  · cases written

end Cluster
end ApiBoilerplate
