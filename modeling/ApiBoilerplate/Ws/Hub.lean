import ApiBoilerplate.Foundation.Machine
import ApiBoilerplate.Foundation.Mpsc
import ApiBoilerplate.Foundation.ReverseIndex
import ApiBoilerplate.Ws.Message

/-!
# The in-process hub

The connection table with its two reverse indexes, as `WsHub` keeps them. A
connection's `tx` is the sending half of the channel filed under its id in
`channels`; the receiving half belongs to the session and survives the
connection, so channels are never removed. Calls that lock one map once are
definitions of their own, and an operation is the composition of its calls.
-/

namespace ApiBoilerplate

open Foundation

structure WebSocketConfig where
  maxConnections : Nat
  maxTopicsPerConnection : Nat
  sendBuffer : Nat

structure Connection where
  userId : Option Uuid
  topics : Finset Topic
  connectedAt : DateTime
  deriving DecidableEq

structure WsHub (Value : Type) where
  nodeId : Uuid
  connections : FinMap ConnectionId Connection
  topics : Index Topic ConnectionId
  users : Index Uuid ConnectionId
  clusterTx : Option (Mpsc (ClusterFrame Value))
  config : WebSocketConfig
  messagesSent : UInt64
  slowClientsDropped : UInt64
  channels : FinMap ConnectionId (Mpsc ByteString)

namespace WsHub
variable {Value : Type}

def new (nodeId : Uuid) (config : WebSocketConfig)
    (clusterTx : Option (Mpsc (ClusterFrame Value))) : WsHub Value where
  nodeId := nodeId
  connections := ∅
  topics := ∅
  users := ∅
  clusterTx := clusterTx
  config := config
  messagesSent := 0
  slowClientsDropped := 0
  channels := ∅

def atCapacity (h : WsHub Value) : Prop :=
  0 < h.config.maxConnections ∧ h.config.maxConnections ≤ h.connections.keys.card

instance (h : WsHub Value) : Decidable h.atCapacity := inferInstanceAs (Decidable (_ ∧ _))

/-- `connections.insert` in `register`, with the channel opened just before it. -/
def connectionsInsert (h : WsHub Value) (id : ConnectionId) (userId : Option Uuid)
    (now : DateTime) : WsHub Value :=
  { h with
    channels := h.channels.insert id (Mpsc.channel (max h.config.sendBuffer 1))
    connections := h.connections.insert id ⟨userId, ∅, now⟩ }

def usersInsert (h : WsHub Value) (userId : Uuid) (id : ConnectionId) : WsHub Value :=
  { h with users := h.users.attach userId id }

/-- The block of `subscribe` that holds the connection entry. -/
def subscribeConnection (h : WsHub Value) (id : ConnectionId) (topic : Topic) :
    Except WsError (WsHub Value) :=
  match h.connections.lookup id with
  | none => .error .unknownConnection
  | some conn =>
    let limit := h.config.maxTopicsPerConnection
    if 0 < limit ∧ topic ∉ conn.topics ∧ limit ≤ conn.topics.card then
      .error (.topicLimit limit)
    else
      .ok { h with
        connections := h.connections.insert id { conn with topics := insert topic conn.topics } }

def topicsInsert (h : WsHub Value) (topic : Topic) (id : ConnectionId) : WsHub Value :=
  { h with topics := h.topics.attach topic id }

def unsubscribeConnection (h : WsHub Value) (id : ConnectionId) (topic : Topic) : WsHub Value :=
  match h.connections.lookup id with
  | none => h
  | some conn =>
    { h with
      connections := h.connections.insert id { conn with topics := conn.topics.erase topic } }

def topicsRemove (h : WsHub Value) (topic : Topic) (id : ConnectionId) : WsHub Value :=
  { h with topics := h.topics.remove topic id }

def topicsRemoveIf (h : WsHub Value) (topic : Topic) : WsHub Value :=
  { h with topics := h.topics.prune topic }

def usersRemove (h : WsHub Value) (userId : Uuid) (id : ConnectionId) : WsHub Value :=
  { h with users := h.users.remove userId id }

def usersRemoveIf (h : WsHub Value) (userId : Uuid) : WsHub Value :=
  { h with users := h.users.prune userId }

def connectionsRemove (h : WsHub Value) (id : ConnectionId) : WsHub Value :=
  { h with connections := h.connections.erase id }

def register (h : WsHub Value) (id : ConnectionId) (userId : Option Uuid) (now : DateTime) :
    Except WsError ConnectionId × WsHub Value :=
  if h.atCapacity then (.error (.connectionLimit h.config.maxConnections), h)
  else
    let inserted := h.connectionsInsert id userId now
    match userId with
    | some u => (.ok id, inserted.usersInsert u id)
    | none => (.ok id, inserted)

def detachFromTopic (h : WsHub Value) (topic : Topic) (id : ConnectionId) : WsHub Value :=
  (h.topicsRemove topic id).topicsRemoveIf topic

/-- The topics of the removed entry are detached one by one; detaches commute,
so the order in which its set is traversed does not matter. -/
def unregister (h : WsHub Value) (id : ConnectionId) : WsHub Value :=
  match h.connections.lookup id with
  | none => h
  | some conn =>
    { h.connectionsRemove id with
      topics := h.topics.detachAll conn.topics id
      users := match conn.userId with
        | some u => h.users.detach u id
        | none => h.users }

def disconnect (h : WsHub Value) (id : ConnectionId) : WsHub Value := h.unregister id

def subscribe (h : WsHub Value) (id : ConnectionId) (topic : Topic) :
    Except WsError Unit × WsHub Value :=
  match h.subscribeConnection id topic with
  | .error e => (.error e, h)
  | .ok held => (.ok (), held.topicsInsert topic id)

def unsubscribe (h : WsHub Value) (id : ConnectionId) (topic : Topic) : WsHub Value :=
  (h.unsubscribeConnection id topic).detachFromTopic topic id

/-- What the first half of a `subscribe` found when it went through. -/
theorem subscribeConnection_ok {h held : WsHub Value} {id : ConnectionId} {topic : Topic}
    (accepted : h.subscribeConnection id topic = .ok held) :
    ∃ conn, h.connections.lookup id = some conn ∧
      (0 < h.config.maxTopicsPerConnection → topic ∈ conn.topics ∨
        conn.topics.card < h.config.maxTopicsPerConnection) ∧
      held = { h with connections :=
        h.connections.insert id { conn with topics := insert topic conn.topics } } := by
  rw [subscribeConnection] at accepted
  split at accepted
  · cases accepted
  · rename_i conn lookup
    dsimp only at accepted
    split at accepted
    · cases accepted
    · rename_i allowed
      refine ⟨conn, lookup, fun limited => ?_, (Except.ok.inj accepted).symm⟩
      by_contra refused
      obtain ⟨fresh, full⟩ := not_or.mp refused
      exact allowed ⟨limited, fresh, Nat.not_lt.mp full⟩

/-- A subscription that goes through is entered on both sides; a refused one
changes nothing. -/
theorem subscribe_cases (h : WsHub Value) (id : ConnectionId) (topic : Topic) :
    (h.subscribe id topic).2 = h ∨
      ∃ conn, h.connections.lookup id = some conn ∧ (h.subscribe id topic).2 = { h with
        connections := h.connections.insert id { conn with topics := insert topic conn.topics }
        topics := h.topics.attach topic id } := by
  rw [subscribe]
  cases outcome : h.subscribeConnection id topic with
  | error e => exact Or.inl rfl
  | ok held =>
    obtain ⟨conn, lookup, _, rfl⟩ := subscribeConnection_ok outcome
    exact Or.inr ⟨conn, lookup, rfl⟩

/-- The topic forgets the connection in any case. -/
theorem unsubscribe_cases (h : WsHub Value) (id : ConnectionId) (topic : Topic) :
    (h.connections.lookup id = none ∧
        h.unsubscribe id topic = { h with topics := h.topics.detach topic id }) ∨
      ∃ conn, h.connections.lookup id = some conn ∧ h.unsubscribe id topic = { h with
        connections := h.connections.insert id { conn with topics := conn.topics.erase topic }
        topics := h.topics.detach topic id } := by
  rw [unsubscribe, unsubscribeConnection]
  cases lookup : h.connections.lookup id with
  | none => exact Or.inl ⟨rfl, rfl⟩
  | some conn => exact Or.inr ⟨conn, rfl, rfl⟩

/-- Locals of the first loop of `deliver`. -/
structure Delivery where
  channels : FinMap ConnectionId (Mpsc ByteString)
  delivered : Nat
  slow : Multiset ConnectionId

/-- `get` the connection and `try_send` to it; `none` when it is not registered. -/
def attempt (connections : FinMap ConnectionId Connection)
    (channels : FinMap ConnectionId (Mpsc ByteString)) (frame : ByteString)
    (id : ConnectionId) : Option (Except TrySendError (Mpsc ByteString)) :=
  if id ∈ connections then (channels.lookup id).map (fun tx => tx.trySend frame) else none

theorem attempt_ok {connections : FinMap ConnectionId Connection}
    {channels : FinMap ConnectionId (Mpsc ByteString)} {frame : ByteString} {id : ConnectionId}
    {tx : Mpsc ByteString} (sent : attempt connections channels frame id = some (.ok tx)) :
    ∃ rx, channels.lookup id = some rx ∧ rx.trySend frame = .ok tx := by
  unfold attempt at sent
  split at sent
  · exact Option.map_eq_some_iff.mp sent
  · cases sent

/-- One round of the first loop of `deliver`. -/
def offer (connections : FinMap ConnectionId Connection) (frame : ByteString) (d : Delivery)
    (id : ConnectionId) : Delivery :=
  match attempt connections d.channels frame id with
  | some (.ok tx) =>
    { d with channels := d.channels.insert id tx, delivered := d.delivered + 1 }
  | some (.error .full) => { d with slow := id ::ₘ d.slow }
  | some (.error .closed) => d
  | none => d

theorem attempt_insert_ne (connections : FinMap ConnectionId Connection)
    (channels : FinMap ConnectionId (Mpsc ByteString)) (frame : ByteString)
    {a b : ConnectionId} (other : b ≠ a) (tx : Mpsc ByteString) :
    attempt connections (channels.insert a tx) frame b =
      attempt connections channels frame b := by
  simp [attempt, other]

theorem offer_comm (connections : FinMap ConnectionId Connection) (frame : ByteString)
    (d : Delivery) (a b : ConnectionId) :
    offer connections frame (offer connections frame d a) b =
      offer connections frame (offer connections frame d b) a := by
  by_cases same : a = b
  · rw [same]
  have other : b ≠ a := fun h => same h.symm
  cases ha : attempt connections d.channels frame a with
  | none =>
    cases hb : attempt connections d.channels frame b with
    | none => simp [offer, ha, hb]
    | some rb =>
      cases rb with
      | ok tb => simp [offer, ha, hb, attempt_insert_ne _ _ _ same]
      | error e => cases e <;> simp [offer, ha, hb]
  | some ra =>
    cases hb : attempt connections d.channels frame b with
    | none =>
      cases ra with
      | ok ta => simp [offer, ha, hb, attempt_insert_ne _ _ _ other]
      | error e => cases e <;> simp [offer, ha, hb]
    | some rb =>
      cases ra with
      | ok ta =>
        cases rb with
        | ok tb =>
          simp [offer, ha, hb, attempt_insert_ne _ _ _ other, attempt_insert_ne _ _ _ same,
            Finmap.insert_insert_of_ne _ same]
        | error e => cases e <;> simp [offer, ha, hb, attempt_insert_ne _ _ _ other]
      | error e =>
        cases rb with
        | ok tb => cases e <;> simp [offer, ha, hb, attempt_insert_ne _ _ _ same]
        | error e' => cases e <;> cases e' <;> simp [offer, ha, hb, Multiset.cons_swap a b]

instance (connections : FinMap ConnectionId Connection) (frame : ByteString) :
    RightCommutative (offer connections frame) where
  right_comm := offer_comm connections frame

def countSlow (h : WsHub Value) : WsHub Value :=
  { h with slowClientsDropped := h.slowClientsDropped + 1 }

/-- One round of the second loop. -/
def evict (h : WsHub Value) (id : ConnectionId) : WsHub Value := h.countSlow.disconnect id

theorem lookup_unregister (h : WsHub Value) (id k : ConnectionId) :
    (h.unregister id).connections.lookup k =
      if k = id then none else h.connections.lookup k := by
  unfold unregister connectionsRemove
  cases hid : h.connections.lookup id with
  | none =>
    by_cases hk : k = id
    · subst hk
      simp [hid]
    · simp [hk]
  | some conn => simp [FinMap.lookup_erase_eq]

theorem unregister_comm (h : WsHub Value) (a b : ConnectionId) :
    (h.unregister a).unregister b = (h.unregister b).unregister a := by
  by_cases same : a = b
  · rw [same]
  have other : ¬ b = a := fun h => same h.symm
  have lookupB : (h.unregister a).connections.lookup b = h.connections.lookup b := by
    rw [lookup_unregister, if_neg other]
  have lookupA : (h.unregister b).connections.lookup a = h.connections.lookup a := by
    rw [lookup_unregister, if_neg same]
  rw [unregister.eq_def (h.unregister a), unregister.eq_def (h.unregister b), lookupA, lookupB]
  cases ha : h.connections.lookup a with
  | none => cases hb : h.connections.lookup b <;> simp [unregister, ha, hb]
  | some ca =>
    cases hb : h.connections.lookup b with
    | none => simp [unregister, ha, hb]
    | some cb =>
      simp only [unregister, ha, hb, connectionsRemove, mk.injEq, true_and, and_true]
      refine ⟨Finmap.erase_erase, Index.detachAll_comm .., ?_⟩
      cases ca.userId <;> cases cb.userId <;> first | rfl | exact Index.detach_comm ..

theorem unregister_countSlow (h : WsHub Value) (id : ConnectionId) :
    h.countSlow.unregister id = (h.unregister id).countSlow := by
  unfold unregister connectionsRemove countSlow
  cases h.connections.lookup id <;> rfl

theorem evict_eq (h : WsHub Value) (id : ConnectionId) :
    h.evict id = (h.unregister id).countSlow := h.unregister_countSlow id

instance : RightCommutative (evict : WsHub Value → ConnectionId → WsHub Value) where
  right_comm h a b := by
    simp only [evict_eq, unregister_countSlow, unregister_comm h a b]

/-- The first loop of `deliver`. `ids` are pairwise distinct at every call: a
copied set, the keys of a map, or a single id. -/
def offerAll (h : WsHub Value) (ids : Finset ConnectionId) (frame : ByteString) : Delivery :=
  ids.val.foldl (offer h.connections frame) ⟨h.channels, 0, 0⟩

def deliver (h : WsHub Value) (ids : Finset ConnectionId) (frame : ByteString) :
    Nat × WsHub Value :=
  let d := h.offerAll ids frame
  let evicted := d.slow.foldl evict { h with channels := d.channels }
  (d.delivered,
    { evicted with messagesSent := evicted.messagesSent + UInt64.ofNat d.delivered })

section Publishing
variable (encode : ServerMessage Value → Except WsError ByteString)

def eventFrame (topic : Topic) (payload : Value) : Except WsError ByteString :=
  encode (.event topic payload)

def publishLocal (h : WsHub Value) (topic : Topic) (payload : Value) :
    Except WsError Nat × WsHub Value :=
  match h.topics.lookup topic with
  | none => (.ok 0, h)
  | some subscribers =>
    match eventFrame encode topic payload with
    | .error e => (.error e, h)
    | .ok frame => (.ok (h.deliver subscribers frame).1, (h.deliver subscribers frame).2)

def publishToUserLocal (h : WsHub Value) (userId : Uuid) (topic : Topic) (payload : Value) :
    Except WsError Nat × WsHub Value :=
  match h.users.lookup userId with
  | none => (.ok 0, h)
  | some conns =>
    match eventFrame encode topic payload with
    | .error e => (.error e, h)
    | .ok frame => (.ok (h.deliver conns frame).1, (h.deliver conns frame).2)

def broadcastLocal (h : WsHub Value) (topic : Topic) (payload : Value) :
    Except WsError Nat × WsHub Value :=
  match eventFrame encode topic payload with
  | .error e => (.error e, h)
  | .ok frame =>
    (.ok (h.deliver h.connections.keys frame).1, (h.deliver h.connections.keys frame).2)

/-- A full relay queue only loses the copy for the other instances. -/
def forwardToCluster (h : WsHub Value) (scope : ClusterScope) (topic : Topic)
    (payload : Value) : WsHub Value :=
  match h.clusterTx with
  | none => h
  | some tx =>
    match tx.trySend ⟨h.nodeId, scope, topic, payload⟩ with
    | .ok tx' => { h with clusterTx := some tx' }
    | .error _ => h

/-- `payload` is what `serde_json::to_value` made of the published value. -/
def publish (h : WsHub Value) (topic : Topic) (payload : Except WsError Value) :
    Except WsError Nat × WsHub Value :=
  match payload with
  | .error e => (.error e, h)
  | .ok value => (h.forwardToCluster .topic topic value).publishLocal encode topic value

def publishToUser (h : WsHub Value) (userId : Uuid) (topic : Topic)
    (payload : Except WsError Value) : Except WsError Nat × WsHub Value :=
  match payload with
  | .error e => (.error e, h)
  | .ok value =>
    (h.forwardToCluster (.user userId) topic value).publishToUserLocal encode userId topic value

def broadcast (h : WsHub Value) (topic : Topic) (payload : Except WsError Value) :
    Except WsError Nat × WsHub Value :=
  match payload with
  | .error e => (.error e, h)
  | .ok value => (h.forwardToCluster .all topic value).broadcastLocal encode topic value

def sendTo (h : WsHub Value) (id : ConnectionId) (topic : Topic)
    (payload : Except WsError Value) : Except WsError Bool × WsHub Value :=
  match payload with
  | .error e => (.error e, h)
  | .ok value =>
    match eventFrame encode topic value with
    | .error e => (.error e, h)
    | .ok frame => (.ok ((h.deliver {id} frame).1 == 1), (h.deliver {id} frame).2)

def dispatchClusterFrame (h : WsHub Value) (frame : ClusterFrame Value) :
    Except WsError Nat × WsHub Value :=
  match frame.scope with
  | .topic => h.publishLocal encode frame.topic frame.payload
  | .user userId => h.publishToUserLocal encode userId frame.topic frame.payload
  | .all => h.broadcastLocal encode frame.topic frame.payload

end Publishing

inductive Op (Value : Type) where
  | register (id : ConnectionId) (userId : Option Uuid) (now : DateTime)
  | unregister (id : ConnectionId)
  | subscribe (id : ConnectionId) (topic : Topic)
  | unsubscribe (id : ConnectionId) (topic : Topic)
  | publish (topic : Topic) (payload : Except WsError Value)
  | publishToUser (userId : Uuid) (topic : Topic) (payload : Except WsError Value)
  | broadcast (topic : Topic) (payload : Except WsError Value)
  | sendTo (id : ConnectionId) (topic : Topic) (payload : Except WsError Value)
  | dispatchClusterFrame (frame : ClusterFrame Value)
  /-- The session takes the next frame off its queue. -/
  | drain (id : ConnectionId)
  /-- The session ends and drops its receiver. -/
  | dropReceiver (id : ConnectionId)
  /-- The relay task takes the next frame off the cluster queue. -/
  | relay

/-- One whole operation. Ids are fresh: `register` never sees one a channel was
ever opened for. -/
def step (encode : ServerMessage Value → Except WsError ByteString) (h : WsHub Value) :
    Op Value → Option (WsHub Value)
  | .register id userId now =>
    if id ∈ h.channels then none else some (h.register id userId now).2
  | .unregister id => some (h.unregister id)
  | .subscribe id topic => some (h.subscribe id topic).2
  | .unsubscribe id topic => some (h.unsubscribe id topic)
  | .publish topic payload => some (h.publish encode topic payload).2
  | .publishToUser userId topic payload => some (h.publishToUser encode userId topic payload).2
  | .broadcast topic payload => some (h.broadcast encode topic payload).2
  | .sendTo id topic payload => some (h.sendTo encode id topic payload).2
  | .dispatchClusterFrame frame => some (h.dispatchClusterFrame encode frame).2
  | .drain id =>
    match h.channels.lookup id with
    | none => none
    | some rx =>
      if rx.rxAlive then
        rx.recv.map (fun taken => { h with channels := h.channels.insert id taken.2 })
      else none
  | .dropReceiver id =>
    (h.channels.lookup id).map (fun rx =>
      { h with channels := h.channels.insert id rx.dropReceiver })
  | .relay =>
    match h.clusterTx with
    | none => none
    | some tx => tx.recv.map (fun taken => { h with clusterTx := some taken.2 })

/-- The hub driven by whole operations, from `WsHub::new`. -/
def machine (encode : ServerMessage Value → Except WsError ByteString) (nodeId : Uuid)
    (config : WebSocketConfig) (clusterTx : Option (Mpsc (ClusterFrame Value))) :
    Machine (WsHub Value) (Op Value) where
  init := new nodeId config clusterTx
  step := step encode

end WsHub
end ApiBoilerplate
