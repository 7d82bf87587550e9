import ApiBoilerplate.Foundation.Broker
import ApiBoilerplate.Ws.Delivery

/-!
# The hub is a broker

Without its two indexes the hub is a table of connections and their queues, and every
publication goes to the connections the address covers by their own entries. The hub
answers each call as this broker does, and each session reads the same frames: that
an audience is looked up in an index never shows.
-/

namespace ApiBoilerplate

open Foundation

/-- What the caller of an operation is told. -/
inductive HubAnswer where
  | registered (result : Except WsError ConnectionId)
  | subscribed (result : Except WsError Unit)
  | published (result : Except WsError Nat)
  | sent (result : Except WsError Bool)
  /-- The frame that the session takes off its queue. -/
  | drained (frame : ByteString)
  | done

abbrev HubBroker := Broker ConnectionId Connection ByteString

namespace HubBroker
variable {Value : Type} (encode : ServerMessage Value → Except WsError ByteString)
  (config : WebSocketConfig) (b : HubBroker)

noncomputable def register (id : ConnectionId) (userId : Option Uuid) (now : DateTime) :
    Except WsError ConnectionId × HubBroker :=
  if 0 < config.maxConnections ∧ config.maxConnections ≤ b.size then
    (.error (.connectionLimit config.maxConnections), b)
  else (.ok id, b.join id ⟨userId, ∅, now⟩ (max config.sendBuffer 1))

def subscribe (id : ConnectionId) (topic : Topic) : Except WsError Unit × HubBroker :=
  match b.members id with
  | none => (.error .unknownConnection, b)
  | some conn =>
    if 0 < config.maxTopicsPerConnection ∧ topic ∉ conn.topics ∧
        config.maxTopicsPerConnection ≤ conn.topics.card then
      (.error (.topicLimit config.maxTopicsPerConnection), b)
    else (.ok (), b.revise id { conn with topics := insert topic conn.topics })

def unsubscribe (id : ConnectionId) (topic : Topic) : HubBroker :=
  match b.members id with
  | none => b
  | some conn => b.revise id { conn with topics := conn.topics.erase topic }

noncomputable def send (addr : Address) (topic : Topic) (value : Value) :
    Except WsError Nat × HubBroker :=
  match WsHub.eventFrame encode topic value with
  | .error e => (.error e, b)
  | .ok frame => (.ok (b.selected addr.covers ∩ b.ready).ncard, b.post addr.covers frame)

open Classical in
/-- With nobody to reach, it does not matter that a value cannot be encoded. -/
noncomputable def sendToSome (addr : Address) (topic : Topic) (value : Value) :
    Except WsError Nat × HubBroker :=
  if b.selected addr.covers = ∅ then (.ok 0, b) else send encode b addr topic value

/-- A payload that was serialised is sent. -/
def sendSerialised (payload : Except WsError Value)
    (sending : Value → Except WsError Nat × HubBroker) : Except WsError Nat × HubBroker :=
  match payload with
  | .error e => (.error e, b)
  | .ok value => sending value

noncomputable def dispatch (frame : ClusterFrame Value) : Except WsError Nat × HubBroker :=
  match frame.scope with
  | .topic => sendToSome encode b (.topic frame.topic) frame.topic frame.payload
  | .user userId => sendToSome encode b (.user userId) frame.topic frame.payload
  | .all => send encode b .all frame.topic frame.payload

def answering {α : Type} (f : α → HubAnswer) (r : α × HubBroker) : HubAnswer × HubBroker :=
  (f r.1, r.2)

/-- What an operation answers and leaves behind; the relay is none of the broker's business. -/
noncomputable def serve : WsHub.Op Value → Option (HubAnswer × HubBroker)
  | .register id userId now =>
    if (b.inboxes id).isSome then none
    else some (answering .registered (register config b id userId now))
  | .unregister id => some (.done, b.leave id)
  | .subscribe id topic => some (answering .subscribed (subscribe config b id topic))
  | .unsubscribe id topic => some (.done, unsubscribe b id topic)
  | .publish topic payload =>
    some (answering .published
      (sendSerialised b payload (sendToSome encode b (.topic topic) topic)))
  | .publishToUser userId topic payload =>
    some (answering .published
      (sendSerialised b payload (sendToSome encode b (.user userId) topic)))
  | .broadcast topic payload =>
    some (answering .published (sendSerialised b payload (send encode b .all topic)))
  | .sendTo id topic payload =>
    some (answering (fun result => .sent (result.map (· == 1)))
      (sendSerialised b payload (send encode b (.only id) topic)))
  | .dispatchClusterFrame frame => some (answering .published (dispatch encode b frame))
  | .drain id =>
    (b.inboxes id).bind fun rx =>
      if rx.rxAlive then rx.recv.map fun taken => (.drained taken.1, b.hold id taken.2)
      else none
  | .dropReceiver id => (b.inboxes id).map fun rx => (.done, b.hold id rx.dropReceiver)
  | .relay => some (.done, b)

noncomputable def machine : Machine HubBroker (WsHub.Op Value) where
  init := Broker.empty
  step b op := (serve encode config b op).map Prod.snd

noncomputable def answers (op : WsHub.Op Value) : List HubAnswer :=
  ((serve encode config b op).map Prod.fst).toList

end HubBroker

namespace WsHub
variable {Value : Type}

section Answers
variable (encode : ServerMessage Value → Except WsError ByteString) (h : WsHub Value)

def answer : Op Value → HubAnswer
  | .register id userId now => .registered (h.register id userId now).1
  | .subscribe id topic => .subscribed (h.subscribe id topic).1
  | .publish topic payload => .published (h.publish encode topic payload).1
  | .publishToUser userId topic payload =>
    .published (h.publishToUser encode userId topic payload).1
  | .broadcast topic payload => .published (h.broadcast encode topic payload).1
  | .sendTo id topic payload => .sent (h.sendTo encode id topic payload).1
  | .dispatchClusterFrame frame => .published (h.dispatchClusterFrame encode frame).1
  | .drain id =>
    match (h.channels.lookup id).bind Mpsc.recv with
    | some taken => .drained taken.1
    | none => .done
  | .unregister _ | .unsubscribe _ _ | .dropReceiver _ | .relay => .done

/-- The hub without its indexes. -/
def broker : HubBroker := ⟨fun id => h.connections.lookup id, fun id => h.channels.lookup id⟩

/-- A result, and the broker that is left behind. -/
def seen {α : Type} (r : α × WsHub Value) : α × HubBroker := (r.1, r.2.broker)

end Answers

section Members
variable {h : WsHub Value}

theorem broker_size : h.broker.size = h.connections.keys.card := by
  have members : {id | (h.broker.members id).isSome} = (h.connections.keys : Set ConnectionId) := by
    ext id
    rw [Finset.mem_coe, Finmap.mem_keys, ← Finmap.lookup_isSome]
    rfl
  rw [Broker.size, members, Set.ncard_coe_finset]

theorem broker_register {id : ConnectionId} (userId : Option Uuid) (now : DateTime) :
    seen (h.register id userId now) =
      HubBroker.register h.config h.broker id userId now := by
  rw [register, HubBroker.register, broker_size]
  change seen (if h.atCapacity then _ else _) = if h.atCapacity then _ else _
  split
  · rfl
  · have joined : (h.connectionsInsert id userId now).broker =
        h.broker.join id ⟨userId, ∅, now⟩ (max h.config.sendBuffer 1) := by
      refine Broker.ext ?_ ?_
      · funext k
        simp [broker, connectionsInsert, Broker.join, Function.update_apply,
          FinMap.lookup_insert_eq]
      · funext k
        simp [broker, connectionsInsert, Broker.join, Function.update_apply,
          FinMap.lookup_insert_eq]
    cases userId with
    | none => exact congrArg (Prod.mk _) joined
    | some u => exact congrArg (Prod.mk _) joined

theorem broker_unregister (id : ConnectionId) : (h.unregister id).broker = h.broker.leave id := by
  refine Broker.ext ?_ ?_
  · funext k
    change (h.unregister id).connections.lookup k = _
    rw [lookup_unregister]
    simp [broker, Broker.leave, Function.update_apply]
  · funext k
    change (h.unregister id).channels.lookup k = _
    rw [unregister_channels]
    rfl

/-- Whatever the indexes say, replacing a connection's entry revises its member. -/
theorem broker_revise (id : ConnectionId) (conn : Connection)
    (topics : Index Topic ConnectionId) :
    broker { h with connections := h.connections.insert id conn, topics := topics } =
      h.broker.revise id conn := by
  refine Broker.ext ?_ rfl
  funext k
  simp [broker, Broker.revise, Function.update_apply, FinMap.lookup_insert_eq]

theorem broker_members (id : ConnectionId) : h.broker.members id = h.connections.lookup id := rfl

theorem broker_inboxes (id : ConnectionId) : h.broker.inboxes id = h.channels.lookup id := rfl

theorem broker_subscribe (id : ConnectionId) (topic : Topic) :
    seen (h.subscribe id topic) =
      HubBroker.subscribe h.config h.broker id topic := by
  rw [subscribe, HubBroker.subscribe, subscribeConnection, broker_members]
  cases lookup : h.connections.lookup id with
  | none => rfl
  | some conn =>
    by_cases full : 0 < h.config.maxTopicsPerConnection ∧ topic ∉ conn.topics ∧
        h.config.maxTopicsPerConnection ≤ conn.topics.card
    · simp only [if_pos full]
      rfl
    · simp only [if_neg full]
      exact congrArg (Prod.mk _) (broker_revise id _ _)

theorem broker_unsubscribe (id : ConnectionId) (topic : Topic) :
    (h.unsubscribe id topic).broker = HubBroker.unsubscribe h.broker id topic := by
  rw [HubBroker.unsubscribe, broker_members]
  rcases h.unsubscribe_cases id topic with ⟨lookup, same⟩ | ⟨conn, lookup, same⟩
  · rw [same, lookup]
    rfl
  · rw [same, lookup]
    exact broker_revise id _ _

/-- A session used its queue. -/
theorem broker_hold (id : ConnectionId) (rx : Mpsc ByteString) :
    broker { h with channels := h.channels.insert id rx } = h.broker.hold id rx := by
  refine Broker.ext rfl ?_
  funext k
  simp [broker, Broker.hold, Function.update_apply, FinMap.lookup_insert_eq]

end Members

section Publications
variable {encode : ServerMessage Value → Except WsError ByteString} {h : WsHub Value}

theorem IndexConsistent.audience_selected (hc : h.IndexConsistent) (addr : Address)
    (id : ConnectionId) :
    id ∈ h.audience addr ∧ id ∈ h.connections ↔ id ∈ h.broker.selected addr.covers :=
  hc.mem_audience_iff addr id

theorem broker_deliver (hc : h.IndexConsistent) (addr : Address) (frame : ByteString) :
    (h.deliver (h.audience addr) frame).2.broker = h.broker.post addr.covers frame := by
  refine Broker.ext ?_ ?_
  · funext id
    ext conn
    have stalled : id ∈ h.audience addr ∧ h.Stalled id ↔
        id ∈ h.broker.selected addr.covers ∧ id ∈ h.broker.behind := by
      rw [Stalled, ← and_assoc, hc.audience_selected]
      rfl
    rw [Broker.post_members_iff, ← stalled]
    exact deliver_evicts_iff h (h.audience addr) frame id conn
  · funext id
    have channel := h.deliver_lookup_channels (h.audience addr) frame id
    by_cases chosen : id ∈ h.broker.selected addr.covers
    · rw [if_pos ((hc.audience_selected addr id).mpr chosen)] at channel
      exact channel.trans (Broker.post_inbox_selected chosen).symm
    · rw [if_neg fun listed => chosen ((hc.audience_selected addr id).mp listed)] at channel
      exact channel.trans (Broker.post_inbox_other chosen).symm

theorem delivered_broker (hc : h.IndexConsistent) (addr : Address) (frame : ByteString) :
    (h.deliver (h.audience addr) frame).1 =
      (h.broker.selected addr.covers ∩ h.broker.ready).ncard := by
  have receivers : (h.receivers addr : Set ConnectionId) =
      h.broker.selected addr.covers ∩ h.broker.ready := by
    ext id
    rw [Finset.mem_coe, mem_receivers, mem_addressees]
    rfl
  rw [(deliver_delivers hc addr frame).counted, ← receivers, Set.ncard_coe_finset]

theorem broker_send (hc : h.IndexConsistent) (addr : Address) (topic : Topic) (value : Value) :
    seen (h.deliverFound (some (h.audience addr)) (eventFrame encode topic value)) =
      HubBroker.send encode h.broker addr topic value := by
  rw [HubBroker.send]
  cases eventFrame encode topic value with
  | error e => rfl
  | ok frame =>
    exact congrArg₂ Prod.mk (congrArg Except.ok (delivered_broker hc addr frame))
      (broker_deliver hc addr frame)

/-- An index has an entry exactly for the addresses that somebody hears. -/
theorem broker_sendToSome (hc : h.IndexConsistent) {addr : Address} (topic : Topic)
    (value : Value) (found : Option (Finset ConnectionId))
    (listed : h.audience addr = found.getD ∅)
    (somebody : ∀ ids, found = some ids → ids ≠ ∅)
    (registered : ∀ id ∈ h.audience addr, id ∈ h.connections) :
    seen (h.deliverFound found (eventFrame encode topic value)) =
      HubBroker.sendToSome encode h.broker addr topic value := by
  rw [HubBroker.sendToSome]
  cases found with
  | none =>
    have nobody : h.broker.selected addr.covers = ∅ := by
      refine Set.eq_empty_iff_forall_notMem.mpr fun id chosen => ?_
      have inside := ((hc.audience_selected addr id).mpr chosen).1
      rw [listed] at inside
      exact absurd inside (Finset.notMem_empty id)
    rw [if_pos nobody]
    rfl
  | some ids =>
    have reached : h.broker.selected addr.covers ≠ ∅ := by
      obtain ⟨id, inside⟩ := Finset.nonempty_iff_ne_empty.mpr (somebody ids rfl)
      have addressed : id ∈ h.audience addr := listed.symm ▸ inside
      have chosen := (hc.audience_selected addr id).mp ⟨addressed, registered id addressed⟩
      exact fun nobody => (Set.eq_empty_iff_forall_notMem.mp nobody) id chosen
    obtain rfl : h.audience addr = ids := listed
    rw [if_neg reached]
    exact broker_send hc addr topic value

theorem broker_publishLocal (hc : h.IndexConsistent) (topic : Topic) (value : Value) :
    seen (h.publishLocal encode topic value) =
      HubBroker.sendToSome encode h.broker (.topic topic) topic value := by
  refine broker_sendToSome hc topic value (h.topics.lookup topic) rfl (hc.topics_noEmpty topic) ?_
  intro id listed
  obtain ⟨conn, lookup, _⟩ := (hc.topics_iff topic id).mp listed
  exact Finmap.mem_of_lookup_eq_some lookup

theorem broker_publishToUserLocal (hc : h.IndexConsistent) (userId : Uuid) (topic : Topic)
    (value : Value) :
    seen (h.publishToUserLocal encode userId topic value) =
      HubBroker.sendToSome encode h.broker (.user userId) topic value := by
  refine broker_sendToSome hc topic value (h.users.lookup userId) rfl (hc.users_noEmpty userId) ?_
  intro id listed
  obtain ⟨conn, lookup, _⟩ := (hc.users_iff userId id).mp listed
  exact Finmap.mem_of_lookup_eq_some lookup

theorem broker_broadcastLocal (hc : h.IndexConsistent) (topic : Topic) (value : Value) :
    seen (h.broadcastLocal encode topic value) =
      HubBroker.send encode h.broker .all topic value :=
  broker_send hc .all topic value

theorem broker_dispatch (hc : h.IndexConsistent) (frame : ClusterFrame Value) :
    seen (h.dispatchClusterFrame encode frame) =
      HubBroker.dispatch encode h.broker frame := by
  rw [dispatchClusterFrame, HubBroker.dispatch]
  cases frame.scope with
  | topic => exact broker_publishLocal hc frame.topic frame.payload
  | user userId => exact broker_publishToUserLocal hc userId frame.topic frame.payload
  | all => exact broker_broadcastLocal hc frame.topic frame.payload

/-- The relay queue is no part of the broker. -/
theorem broker_forwarded {scope : ClusterScope} {topic : Topic} {value : Value}
    (send : WsHub Value → Except WsError Nat × WsHub Value)
    (sending : HubBroker → Except WsError Nat × HubBroker) (hc : h.IndexConsistent)
    (sends : ∀ g : WsHub Value, g.IndexConsistent →
      seen (send g) = sending g.broker) :
    seen (send (h.forwardToCluster scope topic value)) =
      sending h.broker := by
  obtain ⟨relay, same⟩ := h.forwardToCluster_eq scope topic value
  rw [same]
  exact sends { h with clusterTx := relay } (hc.congr rfl rfl rfl)

end Publications

section Operations
variable {encode : ServerMessage Value → Except WsError ByteString} {h h' : WsHub Value}

theorem sendTo_broker (hc : h.IndexConsistent) (id : ConnectionId) (topic : Topic)
    (value : Value) :
    seen (h.sendTo encode id topic (.ok value)) =
      (HubBroker.send encode h.broker (.only id) topic value).map
        (fun result => result.map (· == 1)) fun b => b := by
  rw [← broker_send hc (.only id) topic value, sendTo]
  cases eventFrame encode topic value with
  | error e => rfl
  | ok frame => rfl

/-- The broker does what the hub does, and answers the same. -/
theorem step_serve {op : Op Value} (settled : h.Settled) (moved : step encode h op = some h') :
    HubBroker.serve encode h.config h.broker op = some (h.answer encode op, h'.broker) := by
  have hc := settled.toIndexConsistent
  cases op with
  | register id userId now =>
    simp only [step] at moved
    split at moved
    · cases moved
    · rename_i fresh
      obtain rfl := Option.some.inj moved
      have free : ¬ (h.broker.inboxes id).isSome :=
        fun opened => fresh (Finmap.lookup_isSome.mp opened)
      simp only [HubBroker.serve, if_neg free, ← broker_register]
      rfl
  | unregister id =>
    obtain rfl := Option.some.inj moved
    simp only [HubBroker.serve, broker_unregister]
    rfl
  | subscribe id topic =>
    obtain rfl := Option.some.inj moved
    simp only [HubBroker.serve, ← broker_subscribe]
    rfl
  | unsubscribe id topic =>
    obtain rfl := Option.some.inj moved
    simp only [HubBroker.serve, broker_unsubscribe]
    rfl
  | publish topic payload =>
    obtain rfl := Option.some.inj moved
    cases payload with
    | error e => rfl
    | ok value =>
      have sends : seen (h.publish encode topic (.ok value)) =
          HubBroker.sendToSome encode h.broker (.topic topic) topic value :=
        broker_forwarded (fun g => g.publishLocal encode topic value)
          (fun b => HubBroker.sendToSome encode b (.topic topic) topic value) hc
          fun g hg => broker_publishLocal hg topic value
      simp only [HubBroker.serve, HubBroker.sendSerialised, ← sends]
      rfl
  | publishToUser userId topic payload =>
    obtain rfl := Option.some.inj moved
    cases payload with
    | error e => rfl
    | ok value =>
      have sends : seen (h.publishToUser encode userId topic (.ok value)) =
          HubBroker.sendToSome encode h.broker (.user userId) topic value :=
        broker_forwarded (fun g => g.publishToUserLocal encode userId topic value)
          (fun b => HubBroker.sendToSome encode b (.user userId) topic value) hc
          fun g hg => broker_publishToUserLocal hg userId topic value
      simp only [HubBroker.serve, HubBroker.sendSerialised, ← sends]
      rfl
  | broadcast topic payload =>
    obtain rfl := Option.some.inj moved
    cases payload with
    | error e => rfl
    | ok value =>
      have sends : seen (h.broadcast encode topic (.ok value)) =
          HubBroker.send encode h.broker .all topic value :=
        broker_forwarded (fun g => g.broadcastLocal encode topic value)
          (fun b => HubBroker.send encode b .all topic value) hc
          fun g hg => broker_broadcastLocal hg topic value
      simp only [HubBroker.serve, HubBroker.sendSerialised, ← sends]
      rfl
  | sendTo id topic payload =>
    obtain rfl := Option.some.inj moved
    cases payload with
    | error e => rfl
    | ok value =>
      have sends : seen (h.sendTo encode id topic (.ok value)) =
          (HubBroker.send encode h.broker (.only id) topic value).map
            (fun result => result.map (· == 1)) fun b => b := sendTo_broker hc id topic value
      have told := congrArg Prod.fst sends
      have left := congrArg Prod.snd sends
      refine congrArg some (Prod.ext ?_ left.symm)
      exact congrArg HubAnswer.sent told.symm
  | dispatchClusterFrame frame =>
    obtain rfl := Option.some.inj moved
    simp only [HubBroker.serve, ← broker_dispatch hc]
    rfl
  | drain id =>
    simp only [step] at moved
    cases lookup : h.channels.lookup id with
    | none => simp [lookup] at moved
    | some rx =>
      simp only [lookup] at moved
      obtain ⟨alive, received⟩ := Option.ite_none_right_eq_some.mp moved
      obtain ⟨taken, taken_eq, rfl⟩ := Option.map_eq_some_iff.mp received
      simp [HubBroker.serve, answer, broker_hold, broker_inboxes, lookup, alive, taken_eq]
  | dropReceiver id =>
    obtain ⟨rx, lookup, rfl⟩ := Option.map_eq_some_iff.mp moved
    simp only [HubBroker.serve, broker_hold, broker_inboxes, lookup]
    rfl
  | relay =>
    obtain ⟨relay, same⟩ : ∃ relay, h' = { h with clusterTx := relay } := by
      simp only [step] at moved
      cases tx : h.clusterTx with
      | none => simp [tx] at moved
      | some queue =>
        rw [tx] at moved
        obtain ⟨taken, _, rfl⟩ := Option.map_eq_some_iff.mp moved
        exact ⟨_, rfl⟩
    rw [same]
    rfl

theorem step_config {op : Op Value} (moved : step encode h op = some h') :
    h'.config = h.config := by
  refine step_induction (I := fun g => g.config = h.config) ?register ?unregister ?subscribe
    ?unsubscribe ?post (fun _ _ same => same) (fun _ _ _ _ _ _ same => same) moved rfl
  case register =>
    intro g id userId now _ same
    rw [register]
    split
    · exact same
    · cases userId <;> exact same
  case unregister => exact fun g id same => (unregister_config g id).trans same
  case subscribe =>
    intro g id topic same
    rcases g.subscribe_cases id topic with kept | ⟨conn, _, kept⟩ <;> rw [kept] <;> exact same
  case unsubscribe =>
    intro g id topic same
    rcases g.unsubscribe_cases id topic with ⟨_, kept⟩ | ⟨conn, _, kept⟩ <;> rw [kept] <;>
      exact same
  case post =>
    intro g addr topic value same
    rw [post]
    cases eventFrame encode topic value with
    | error e => exact same
    | ok frame => exact (deliver_config g _ frame).trans same

end Operations

/-- Every run of the hub is a run of the broker, in which the callers get the same answers
and the sessions read the same frames. -/
theorem hub_refines_broker {encode : ServerMessage Value → Except WsError ByteString}
    {nodeId : Uuid} {config : WebSocketConfig} {clusterTx : Option (Mpsc (ClusterFrame Value))}
    {ops : List (Op Value)} {h : WsHub Value}
    (run : (machine encode nodeId config clusterTx).Run (fun _ _ => True) ops h) :
    (HubBroker.machine encode config).Run (fun _ _ => True) ops h.broker ∧
      (machine encode nodeId config clusterTx).notes (fun h op => [h.answer encode op])
          (new nodeId config clusterTx) ops =
        (HubBroker.machine encode config).notes (HubBroker.answers encode config)
          Broker.empty ops := by
  have start : (new nodeId config clusterTx).Settled ∧
      (new nodeId config clusterTx).config = config ∧
      (new nodeId config clusterTx).broker = Broker.empty :=
    ⟨new_settled nodeId config clusterTx, rfl, rfl⟩
  have next : ∀ h b op h', (h.Settled ∧ h.config = config ∧ h.broker = b) →
      (machine encode nodeId config clusterTx).step h op = some h' →
      ∃ b', (HubBroker.machine encode config).step b op = some b' ∧
        (h'.Settled ∧ h'.config = config ∧ h'.broker = b') ∧
        [h.answer encode op] = HubBroker.answers encode config b op := by
    rintro h _ op h' ⟨settled, configured, rfl⟩ moved
    have served : HubBroker.serve encode config h.broker op =
        some (h.answer encode op, h'.broker) := configured ▸ step_serve settled moved
    refine ⟨h'.broker, congrArg (Option.map Prod.snd) served, ?_, ?_⟩
    · exact ⟨step_settled moved settled, (step_config moved).trans configured, rfl⟩
    · exact (congrArg (fun r => (Option.map Prod.fst r).toList) served).symm
  obtain ⟨b, followed, ⟨_, _, rfl⟩, same⟩ := run.simulated
    (R := fun h b => h.Settled ∧ h.config = config ∧ h.broker = b) start next
  exact ⟨followed, same⟩

/-- Of two subscribers one reads, the other is put out; the broker agrees. -/
theorem hub_refines_broker_slowClient : ∃ h : WsHub Nat,
    (HubBroker.machine plainFrame ⟨0, 0, 1⟩).Run (fun _ _ => True) slowClientRun h.broker ∧
      h.broker.members 1 = none ∧ (h.broker.members 2).isSome := by
  obtain ⟨h, run, split⟩ := Machine.exists_run (M := machine plainFrame 9 ⟨0, 0, 1⟩ none)
    (p := fun h => decide (h.broker.members 1 = none ∧ (h.broker.members 2).isSome = true))
    slowClientRun (by decide)
  obtain ⟨gone, kept⟩ := of_decide_eq_true split
  exact ⟨h, (hub_refines_broker run).1, gone, kept⟩

end WsHub
end ApiBoilerplate
