import ApiBoilerplate.Ws.Hub

/-!
# What one delivery changes

Every publishing operation posts one frame to an address. The frame is offered
once to each registered connection of the audience; the connections whose queue
was full are evicted afterwards. These lemmas state the outcome per connection,
so that later proofs never reopen the two loops of `deliver`.
-/

namespace ApiBoilerplate

open Foundation

inductive Address where
  | topic (topic : Topic)
  | user (userId : Uuid)
  | all
  | only (id : ConnectionId)
  deriving DecidableEq, Repr

/-- The address a scope stands for, on the publishing and on the receiving side. -/
def ClusterFrame.address {Value : Type} (frame : ClusterFrame Value) : Address :=
  match frame.scope with
  | .topic => .topic frame.topic
  | .user userId => .user userId
  | .all => .all

/-- Whether an address covers a connection, by what the connection itself says. -/
def Address.covers (addr : Address) (id : ConnectionId) (conn : Connection) : Bool :=
  match addr with
  | .topic t => t ∈ conn.topics
  | .user u => conn.userId = some u
  | .all => true
  | .only k => k = id

namespace WsHub
variable {Value : Type}

/-- The ids one address resolves to, read from the index the source reads. -/
def audience (h : WsHub Value) : Address → Finset ConnectionId
  | .topic t => h.topics.members t
  | .user u => h.users.members u
  | .all => h.connections.keys
  | .only id => {id}

/-- `id` is registered and `addr` covers it. -/
def hears (h : WsHub Value) (addr : Address) (id : ConnectionId) : Bool :=
  (h.connections.lookup id).any (addr.covers id)

theorem mem_of_hears {h : WsHub Value} {addr : Address} {id : ConnectionId}
    (heard : h.hears addr id = true) : id ∈ h.connections := by
  cases lookup : h.connections.lookup id with
  | none => simp [hears, lookup] at heard
  | some conn => exact Finmap.mem_of_lookup_eq_some lookup

/-- A registered connection that does not keep up with its queue. -/
def Stalled (h : WsHub Value) (id : ConnectionId) : Prop :=
  id ∈ h.connections ∧ ∃ tx, h.channels.lookup id = some tx ∧ tx.IsFull

theorem offer_lookup_self (connections : FinMap ConnectionId Connection) (frame : ByteString)
    (d : Delivery) (id : ConnectionId) :
    (offer connections frame d id).channels.lookup id =
      if id ∈ connections then (d.channels.lookup id).map (fun tx => tx.offered frame)
      else d.channels.lookup id := by
  by_cases hid : id ∈ connections
  · cases lookup : d.channels.lookup id with
    | none => simp [offer, attempt, hid, lookup]
    | some tx =>
      cases sent : tx.trySend frame with
      | ok tx' => simp [offer, attempt, Mpsc.offered, hid, lookup, sent]
      | error e => cases e <;> simp [offer, attempt, Mpsc.offered, hid, lookup, sent]
  · simp [offer, attempt, hid]

theorem offer_lookup_ne (connections : FinMap ConnectionId Connection) (frame : ByteString)
    (d : Delivery) {id k : ConnectionId} (hk : k ≠ id) :
    (offer connections frame d id).channels.lookup k = d.channels.lookup k := by
  rw [offer]
  split
  · exact Finmap.lookup_insert_of_ne _ hk
  · rfl
  · rfl
  · rfl

theorem mem_offer_slow (connections : FinMap ConnectionId Connection) (frame : ByteString)
    (d : Delivery) (id k : ConnectionId) :
    k ∈ (offer connections frame d id).slow ↔
      k ∈ d.slow ∨
        (k = id ∧ id ∈ connections ∧ ∃ tx, d.channels.lookup id = some tx ∧ tx.IsFull) := by
  by_cases hid : id ∈ connections
  · cases lookup : d.channels.lookup id with
    | none => simp [offer, attempt, hid, lookup]
    | some tx =>
      have full := tx.trySend_full_iff frame
      cases sent : tx.trySend frame with
      | ok tx' => simp [offer, attempt, hid, lookup, sent, ← full]
      | error e =>
        cases e with
        | full => simp [offer, attempt, hid, lookup, sent, full.mp sent, or_comm]
        | closed => simp [offer, attempt, hid, lookup, sent, ← full]
  · simp [offer, attempt, hid]

theorem foldl_offer_lookup (connections : FinMap ConnectionId Connection) (frame : ByteString)
    (ids : Multiset ConnectionId) (distinct : ids.Nodup) (d : Delivery) (k : ConnectionId) :
    (ids.foldl (offer connections frame) d).channels.lookup k =
      if k ∈ ids ∧ k ∈ connections then (d.channels.lookup k).map (fun tx => tx.offered frame)
      else d.channels.lookup k := by
  induction ids using Multiset.induction generalizing d with
  | empty => simp
  | cons id ids ih =>
    obtain ⟨fresh, distinct⟩ := Multiset.nodup_cons.mp distinct
    rw [Multiset.foldl_cons, ih distinct]
    by_cases hk : k = id
    · subst hk
      simp [fresh, offer_lookup_self]
    · simp [hk, offer_lookup_ne]

theorem mem_foldl_offer_slow (connections : FinMap ConnectionId Connection)
    (frame : ByteString) (ids : Multiset ConnectionId) (distinct : ids.Nodup) (d : Delivery)
    (k : ConnectionId) :
    k ∈ (ids.foldl (offer connections frame) d).slow ↔
      k ∈ d.slow ∨
        (k ∈ ids ∧ k ∈ connections ∧ ∃ tx, d.channels.lookup k = some tx ∧ tx.IsFull) := by
  induction ids using Multiset.induction generalizing d with
  | empty => simp
  | cons id ids ih =>
    obtain ⟨fresh, distinct⟩ := Multiset.nodup_cons.mp distinct
    rw [Multiset.foldl_cons, ih distinct, mem_offer_slow]
    by_cases hk : k = id
    · subst hk
      simp [fresh]
    · simp [hk, offer_lookup_ne]

@[simp] theorem unregister_channels (h : WsHub Value) (id : ConnectionId) :
    (h.unregister id).channels = h.channels := by
  unfold unregister connectionsRemove
  cases h.connections.lookup id <;> rfl

@[simp] theorem unregister_config (h : WsHub Value) (id : ConnectionId) :
    (h.unregister id).config = h.config := by
  unfold unregister connectionsRemove
  cases h.connections.lookup id <;> rfl

@[simp] theorem unregister_nodeId (h : WsHub Value) (id : ConnectionId) :
    (h.unregister id).nodeId = h.nodeId := by
  unfold unregister connectionsRemove
  cases h.connections.lookup id <;> rfl

@[simp] theorem unregister_clusterTx (h : WsHub Value) (id : ConnectionId) :
    (h.unregister id).clusterTx = h.clusterTx := by
  unfold unregister connectionsRemove
  cases h.connections.lookup id <;> rfl

/-- A property kept by `unregister` and blind to the counters survives evictions. -/
theorem foldl_evict_induction {I : WsHub Value → Prop}
    (unregister : ∀ h id, I h → I (h.unregister id)) (count : ∀ h, I h → I h.countSlow)
    (slow : Multiset ConnectionId) (h : WsHub Value) (holds : I h) :
    I (slow.foldl evict h) := by
  induction slow using Multiset.induction generalizing h with
  | empty => exact holds
  | cons id slow ih =>
    rw [Multiset.foldl_cons, evict_eq]
    exact ih _ (count _ (unregister h id holds))

theorem foldl_evict_lookup (slow : Multiset ConnectionId) (h : WsHub Value)
    (k : ConnectionId) :
    (slow.foldl evict h).connections.lookup k =
      if k ∈ slow then none else h.connections.lookup k := by
  induction slow using Multiset.induction generalizing h with
  | empty => simp
  | cons id slow ih =>
    rw [Multiset.foldl_cons, ih, evict_eq]
    change (if k ∈ slow then none else (h.unregister id).connections.lookup k) = _
    rw [lookup_unregister]
    by_cases hk : k = id
    · simp [hk]
    · simp [hk]

theorem offerAll_lookup (h : WsHub Value) (ids : Finset ConnectionId) (frame : ByteString)
    (k : ConnectionId) :
    (h.offerAll ids frame).channels.lookup k =
      if k ∈ ids ∧ k ∈ h.connections then
        (h.channels.lookup k).map (fun tx => tx.offered frame)
      else h.channels.lookup k :=
  foldl_offer_lookup h.connections frame ids.val ids.nodup ⟨h.channels, 0, 0⟩ k

theorem mem_offerAll_slow (h : WsHub Value) (ids : Finset ConnectionId) (frame : ByteString)
    (k : ConnectionId) : k ∈ (h.offerAll ids frame).slow ↔ k ∈ ids ∧ h.Stalled k := by
  rw [offerAll, mem_foldl_offer_slow _ _ _ ids.nodup]
  simp [Stalled]

theorem deliver_lookup_channels (h : WsHub Value) (ids : Finset ConnectionId)
    (frame : ByteString) (k : ConnectionId) :
    (h.deliver ids frame).2.channels.lookup k =
      if k ∈ ids ∧ k ∈ h.connections then
        (h.channels.lookup k).map (fun tx => tx.offered frame)
      else h.channels.lookup k := by
  rw [← offerAll_lookup]
  exact foldl_evict_induction
    (I := fun g => g.channels.lookup k = (h.offerAll ids frame).channels.lookup k)
    (fun g id hg => by rwa [unregister_channels]) (fun _ hg => hg) _
    { h with channels := (h.offerAll ids frame).channels } rfl

theorem deliver_keys {h : WsHub Value} {ids : Finset ConnectionId} {frame : ByteString} :
    (h.deliver ids frame).2.channels.keys = h.channels.keys := by
  ext id
  rw [Finmap.mem_keys, Finmap.mem_keys, ← Finmap.lookup_isSome, ← Finmap.lookup_isSome,
    deliver_lookup_channels]
  split <;> simp

/-- A delivery removes exactly the stalled connections of its audience. -/
theorem deliver_evicts_iff (h : WsHub Value) (ids : Finset ConnectionId) (frame : ByteString)
    (k : ConnectionId) (conn : Connection) :
    (h.deliver ids frame).2.connections.lookup k = some conn ↔
      h.connections.lookup k = some conn ∧ ¬ (k ∈ ids ∧ h.Stalled k) := by
  change ((h.offerAll ids frame).slow.foldl evict
    { h with channels := (h.offerAll ids frame).channels }).connections.lookup k = _ ↔ _
  rw [foldl_evict_lookup, ← mem_offerAll_slow h ids frame k]
  split_ifs with slow
  · simp [slow]
  · simp [slow]

theorem deliver_induction {I : WsHub Value → Prop}
    (unregister : ∀ h id, I h → I (h.unregister id)) (count : ∀ h, I h → I h.countSlow)
    (sent : ∀ h n, I h → I { h with messagesSent := n })
    (h : WsHub Value) (ids : Finset ConnectionId) (frame : ByteString)
    (start : I { h with channels := (h.offerAll ids frame).channels }) :
    I (h.deliver ids frame).2 :=
  sent _ _ (foldl_evict_induction unregister count _ _ start)

@[simp] theorem deliver_config (h : WsHub Value) (ids : Finset ConnectionId)
    (frame : ByteString) : (h.deliver ids frame).2.config = h.config :=
  deliver_induction (I := fun g => g.config = h.config)
    (fun g id hg => by rwa [unregister_config]) (fun _ hg => hg) (fun _ _ hg => hg) h ids frame rfl

@[simp] theorem deliver_nodeId (h : WsHub Value) (ids : Finset ConnectionId)
    (frame : ByteString) : (h.deliver ids frame).2.nodeId = h.nodeId :=
  deliver_induction (I := fun g => g.nodeId = h.nodeId)
    (fun g id hg => by rwa [unregister_nodeId]) (fun _ hg => hg) (fun _ _ hg => hg) h ids frame rfl

@[simp] theorem deliver_clusterTx (h : WsHub Value) (ids : Finset ConnectionId)
    (frame : ByteString) : (h.deliver ids frame).2.clusterTx = h.clusterTx :=
  deliver_induction (I := fun g => g.clusterTx = h.clusterTx)
    (fun g id hg => by rwa [unregister_clusterTx]) (fun _ hg => hg) (fun _ _ hg => hg)
    h ids frame rfl

@[simp] theorem deliver_empty (h : WsHub Value) (frame : ByteString) :
    (h.deliver ∅ frame).2 = h := by
  simp [deliver, offerAll]

section Post
variable (encode : ServerMessage Value → Except WsError ByteString)

/-- The common shape of the publishing operations. -/
def post (h : WsHub Value) (addr : Address) (topic : Topic) (payload : Value) : WsHub Value :=
  match eventFrame encode topic payload with
  | .ok frame => (h.deliver (h.audience addr) frame).2
  | .error _ => h

@[simp] theorem post_nodeId (h : WsHub Value) (addr : Address) (topic : Topic)
    (value : Value) : (h.post encode addr topic value).nodeId = h.nodeId := by
  rw [post]
  cases eventFrame encode topic value <;> simp

@[simp] theorem post_clusterTx (h : WsHub Value) (addr : Address) (topic : Topic)
    (value : Value) : (h.post encode addr topic value).clusterTx = h.clusterTx := by
  rw [post]
  cases eventFrame encode topic value <;> simp

theorem publishLocal_post (h : WsHub Value) (topic : Topic) (payload : Value) :
    (h.publishLocal encode topic payload).2 = h.post encode (.topic topic) topic payload := by
  rw [publishLocal, post]
  cases lookup : h.topics.lookup topic with
  | none => cases eventFrame encode topic payload <;> simp [audience, Index.members, lookup]
  | some subscribers =>
    cases eventFrame encode topic payload <;> simp [audience, Index.members, lookup]

theorem publishToUserLocal_post (h : WsHub Value) (userId : Uuid) (topic : Topic)
    (payload : Value) :
    (h.publishToUserLocal encode userId topic payload).2 =
      h.post encode (.user userId) topic payload := by
  rw [publishToUserLocal, post]
  cases lookup : h.users.lookup userId with
  | none => cases eventFrame encode topic payload <;> simp [audience, Index.members, lookup]
  | some conns =>
    cases eventFrame encode topic payload <;> simp [audience, Index.members, lookup]

theorem broadcastLocal_post (h : WsHub Value) (topic : Topic) (payload : Value) :
    (h.broadcastLocal encode topic payload).2 = h.post encode .all topic payload := by
  rw [broadcastLocal, post]
  cases eventFrame encode topic payload <;> rfl

theorem sendTo_post (h : WsHub Value) (id : ConnectionId) (topic : Topic) (value : Value) :
    (h.sendTo encode id topic (.ok value)).2 = h.post encode (.only id) topic value := by
  simp only [sendTo, post]
  cases eventFrame encode topic value <;> rfl

end Post

theorem dispatchClusterFrame_post (encode : ServerMessage Value → Except WsError ByteString)
    (h : WsHub Value) (frame : ClusterFrame Value) :
    (h.dispatchClusterFrame encode frame).2 =
      h.post encode frame.address frame.topic frame.payload := by
  rw [dispatchClusterFrame, ClusterFrame.address]
  cases frame.scope with
  | topic => exact publishLocal_post ..
  | user userId => exact publishToUserLocal_post ..
  | all => exact broadcastLocal_post ..

/-- Relaying touches the relay queue only. -/
theorem forwardToCluster_eq (h : WsHub Value) (scope : ClusterScope) (topic : Topic)
    (payload : Value) :
    ∃ relay, h.forwardToCluster scope topic payload = { h with clusterTx := relay } := by
  rw [forwardToCluster]
  split
  · exact ⟨h.clusterTx, rfl⟩
  · split
    · exact ⟨_, rfl⟩
    · exact ⟨h.clusterTx, rfl⟩

/-- What the receiving session can do to its channel. -/
inductive ReceiverMove (rx : Mpsc ByteString) : Mpsc ByteString → Prop where
  | recv {frame : ByteString} {rx' : Mpsc ByteString} :
      rx.rxAlive = true → rx.recv = some (frame, rx') → ReceiverMove rx rx'
  | drop : ReceiverMove rx rx.dropReceiver

/-- The post an operation makes, if it makes one: the address, and the event. -/
def Op.posting : Op Value → Option (Address × Topic × Value)
  | .publish topic (.ok value) => some (.topic topic, topic, value)
  | .publishToUser userId topic (.ok value) => some (.user userId, topic, value)
  | .broadcast topic (.ok value) => some (.all, topic, value)
  | .sendTo id topic (.ok value) => some (.only id, topic, value)
  | .dispatchClusterFrame frame => some (frame.address, frame.topic, frame.payload)
  | _ => none

/-- What one whole operation does. Publishing is posting, after a change of the
relay queue. -/
inductive Move (encode : ServerMessage Value → Except WsError ByteString) (h : WsHub Value) :
    Op Value → WsHub Value → Prop where
  | register {id : ConnectionId} {userId : Option Uuid} {now : DateTime} :
      id ∉ h.channels → Move encode h (.register id userId now) (h.register id userId now).2
  | unregister {id : ConnectionId} : Move encode h (.unregister id) (h.unregister id)
  | subscribe {id : ConnectionId} {topic : Topic} :
      Move encode h (.subscribe id topic) (h.subscribe id topic).2
  | unsubscribe {id : ConnectionId} {topic : Topic} :
      Move encode h (.unsubscribe id topic) (h.unsubscribe id topic)
  | post {op : Op Value} {addr : Address} {topic : Topic} {value : Value}
      {r : Option (Mpsc (ClusterFrame Value))} : op.posting = some (addr, topic, value) →
      Move encode h op ({ h with clusterTx := r }.post encode addr topic value)
  | refused {op : Op Value} : op.posting = none → Move encode h op h
  | relay {r : Option (Mpsc (ClusterFrame Value))} : Move encode h .relay { h with clusterTx := r }
  | drain {id : ConnectionId} {rx rx' : Mpsc ByteString} {frame : ByteString} :
      h.channels.lookup id = some rx → rx.rxAlive = true → rx.recv = some (frame, rx') →
      Move encode h (.drain id) { h with channels := h.channels.insert id rx' }
  | dropReceiver {id : ConnectionId} {rx : Mpsc ByteString} :
      h.channels.lookup id = some rx →
      Move encode h (.dropReceiver id) { h with channels := h.channels.insert id rx.dropReceiver }

theorem forward_post {encode : ServerMessage Value → Except WsError ByteString} {h : WsHub Value}
    {op : Op Value} {scope : ClusterScope} {addr : Address} {topic : Topic} {value : Value}
    (posting : op.posting = some (addr, topic, value)) :
    Move encode h op ((h.forwardToCluster scope topic value).post encode addr topic value) := by
  obtain ⟨r, same⟩ := h.forwardToCluster_eq scope topic value
  rw [same]
  exact .post posting

theorem step_move {encode : ServerMessage Value → Except WsError ByteString} {h h' : WsHub Value}
    {op : Op Value} (hs : step encode h op = some h') : Move encode h op h' := by
  cases op with
  | register id userId now =>
    simp only [step] at hs
    split at hs
    · cases hs
    · rename_i fresh
      cases hs
      exact .register fresh
  | unregister id => cases hs; exact .unregister
  | subscribe id topic => cases hs; exact .subscribe
  | unsubscribe id topic => cases hs; exact .unsubscribe
  | publish topic payload =>
    cases hs
    cases payload with
    | error e => exact .refused rfl
    | ok value =>
      rw [publish, publishLocal_post]
      exact forward_post rfl
  | publishToUser userId topic payload =>
    cases hs
    cases payload with
    | error e => exact .refused rfl
    | ok value =>
      rw [publishToUser, publishToUserLocal_post]
      exact forward_post rfl
  | broadcast topic payload =>
    cases hs
    cases payload with
    | error e => exact .refused rfl
    | ok value =>
      rw [broadcast, broadcastLocal_post]
      exact forward_post rfl
  | sendTo id topic payload =>
    cases hs
    cases payload with
    | error e => exact .refused rfl
    | ok value =>
      rw [sendTo_post]
      exact .post (r := h.clusterTx) rfl
  | dispatchClusterFrame frame =>
    cases hs
    rw [dispatchClusterFrame_post]
    exact .post (r := h.clusterTx) rfl
  | drain id =>
    simp only [step] at hs
    cases lookup : h.channels.lookup id with
    | none => simp [lookup] at hs
    | some rx =>
      cases taken : rx.recv with
      | none => simp [lookup, taken] at hs
      | some pair =>
        obtain ⟨alive, same⟩ : rx.rxAlive = true ∧
            { h with channels := h.channels.insert id pair.2 } = h' := by
          simpa [lookup, taken] using hs
        exact same ▸ .drain lookup alive taken
  | dropReceiver id =>
    simp only [step] at hs
    cases lookup : h.channels.lookup id with
    | none => simp [lookup] at hs
    | some rx =>
      have same : { h with channels := h.channels.insert id rx.dropReceiver } = h' := by
        simpa [lookup] using hs
      exact same ▸ .dropReceiver lookup
  | relay =>
    simp only [step] at hs
    cases tx : h.clusterTx with
    | none => simp [tx] at hs
    | some queue =>
      cases taken : queue.recv with
      | none => simp [tx, taken] at hs
      | some pair =>
        have same : { h with clusterTx := some pair.2 } = h' := by simpa [tx, taken] using hs
        exact same ▸ .relay

/-- An operation that posts an event does no more to the registry than post it. -/
theorem step_post {encode : ServerMessage Value → Except WsError ByteString} {h h' : WsHub Value}
    {op : Op Value} {addr : Address} {topic : Topic} {value : Value}
    (hs : step encode h op = some h') (posting : op.posting = some (addr, topic, value)) :
    ∃ r, h' = { h with clusterTx := r }.post encode addr topic value := by
  cases step_move hs with
  | @post op addr' topic' value' r posted =>
    rw [posted] at posting
    cases posting
    exact ⟨r, rfl⟩
  | refused none =>
    rw [none] at posting
    cases posting
  | register | unregister | subscribe | unsubscribe | drain | dropReceiver | relay =>
    cases posting

/-- The rule for invariants of whole operations that do not see the relay queue. -/
theorem step_induction {encode : ServerMessage Value → Except WsError ByteString}
    {I : WsHub Value → Prop}
    (register : ∀ h id userId now, id ∉ h.channels → I h → I (h.register id userId now).2)
    (unregister : ∀ h id, I h → I (h.unregister id))
    (subscribe : ∀ h id topic, I h → I (h.subscribe id topic).2)
    (unsubscribe : ∀ h id topic, I h → I (h.unsubscribe id topic))
    (post : ∀ h addr topic payload, I h → I (h.post encode addr topic payload))
    (relay : ∀ h r, I h → I { h with clusterTx := r })
    (receiver : ∀ h id rx rx', h.channels.lookup id = some rx → ReceiverMove rx rx' → I h →
      I { h with channels := h.channels.insert id rx' })
    {h h' : WsHub Value} {op : Op Value} (hs : step encode h op = some h') (holds : I h) :
    I h' := by
  cases step_move hs with
  | register fresh => exact register h _ _ _ fresh holds
  | unregister => exact unregister h _ holds
  | subscribe => exact subscribe h _ _ holds
  | unsubscribe => exact unsubscribe h _ _ holds
  | post _ => exact post _ _ _ _ (relay h _ holds)
  | refused _ => exact holds
  | relay => exact relay h _ holds
  | drain lookup alive taken => exact receiver h _ _ _ lookup (.recv alive taken) holds
  | dropReceiver lookup => exact receiver h _ _ _ lookup .drop holds

theorem step_nodeId {encode : ServerMessage Value → Except WsError ByteString}
    {h h' : WsHub Value} {op : Op Value} (hs : step encode h op = some h') :
    h'.nodeId = h.nodeId := by
  refine step_induction (I := fun g => g.nodeId = h.nodeId) ?register ?unregister ?subscribe
    ?unsubscribe ?post (fun _ _ same => same) (fun _ _ _ _ _ _ same => same) hs rfl
  case register =>
    intro g id userId now _ same
    rw [register]
    split
    · exact same
    · cases userId <;> exact same
  case unregister => exact fun g id same => (unregister_nodeId g id).trans same
  case subscribe =>
    intro g id topic same
    rcases g.subscribe_cases id topic with kept | ⟨conn, _, kept⟩ <;> rw [kept] <;> exact same
  case unsubscribe =>
    intro g id topic same
    rcases g.unsubscribe_cases id topic with ⟨_, kept⟩ | ⟨conn, _, kept⟩ <;> rw [kept] <;>
      exact same
  case post =>
    exact fun g addr topic value same => (post_nodeId encode g addr topic value).trans same

end WsHub
end ApiBoilerplate
