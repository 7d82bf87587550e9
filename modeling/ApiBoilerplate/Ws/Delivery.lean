import ApiBoilerplate.Ws.HubIndex

/-!
# Delivery is exact

The ids are read off an index once, each is offered the frame once, and the
evictions come last. With the indexes consistent, whoever is addressed and has
room gets the frame, whoever is addressed and does not keep up is gone, and
nothing else has changed. The three counters say how many there were.
-/

namespace ApiBoilerplate

open Foundation

namespace WsHub
variable {Value : Type}

section Offers
variable {connections : FinMap ConnectionId Connection} {frame : ByteString}

/-- The channel under the id has the property. -/
def atChannel (p : Mpsc ByteString → Bool) (connections : FinMap ConnectionId Connection)
    (channels : FinMap ConnectionId (Mpsc ByteString)) (id : ConnectionId) : Bool :=
  decide (id ∈ connections) && (channels.lookup id).any p

theorem atChannel_iff {p : Mpsc ByteString → Bool}
    {channels : FinMap ConnectionId (Mpsc ByteString)} {id : ConnectionId} :
    atChannel p connections channels id = true ↔
      id ∈ connections ∧ ∃ tx, channels.lookup id = some tx ∧ p tx = true := by
  rw [atChannel, Bool.and_eq_true, decide_eq_true_eq, Option.any_eq_true]

/-- The frame is accepted by a connection with room. -/
def takes := atChannel (fun tx => decide tx.HasRoom)

/-- The frame is refused because the queue is full. -/
def stalls := atChannel (fun tx => decide tx.IsFull)

theorem offer_delivered (d : Delivery) (id : ConnectionId) :
    (offer connections frame d id).delivered =
      d.delivered + if takes connections d.channels id then 1 else 0 := by
  by_cases hid : id ∈ connections
  · cases lookup : d.channels.lookup id with
    | none => simp [offer, attempt, takes, atChannel, hid, lookup]
    | some tx =>
      by_cases room : tx.HasRoom
      · simp [offer, attempt, takes, atChannel, hid, lookup, Mpsc.trySend_of_room room, room]
      · cases sent : tx.trySend frame with
        | ok tx' => exact absurd (Mpsc.trySend_ok sent).1 room
        | error e => cases e <;> simp [offer, attempt, takes, atChannel, hid, lookup, sent, room]
  · simp [offer, attempt, takes, atChannel, hid]

theorem offer_slow_card (d : Delivery) (id : ConnectionId) :
    (offer connections frame d id).slow.card =
      d.slow.card + if stalls connections d.channels id then 1 else 0 := by
  by_cases hid : id ∈ connections
  · cases lookup : d.channels.lookup id with
    | none => simp [offer, attempt, stalls, atChannel, hid, lookup]
    | some tx =>
      have full := tx.trySend_full_iff frame
      cases sent : tx.trySend frame with
      | ok tx' => simp [offer, attempt, stalls, atChannel, hid, lookup, sent, ← full]
      | error e =>
        cases e with
        | full => simp [offer, attempt, stalls, atChannel, hid, lookup, sent, ← full]
        | closed => simp [offer, attempt, stalls, atChannel, hid, lookup, sent, ← full]
  · simp [offer, attempt, stalls, atChannel, hid]

/-- A count that each round raises by one for the connections with a property
ends up as the number of these connections. -/
theorem foldl_offer_count (count : Delivery → Nat) {p : Mpsc ByteString → Bool}
    (round : ∀ d id, count (offer connections frame d id) =
      count d + if atChannel p connections d.channels id then 1 else 0)
    (ids : Multiset ConnectionId) (distinct : ids.Nodup) (d : Delivery) :
    count (ids.foldl (offer connections frame) d) =
      count d + ids.countP (fun id => atChannel p connections d.channels id = true) := by
  induction ids using Multiset.induction generalizing d with
  | empty => simp
  | cons id ids ih =>
    obtain ⟨fresh, distinct⟩ := Multiset.nodup_cons.mp distinct
    have same : ids.countP (fun k => atChannel p connections
          (offer connections frame d id).channels k = true) =
        ids.countP (fun k => atChannel p connections d.channels k = true) := by
      refine Multiset.countP_congr rfl fun k listed => ?_
      have other : k ≠ id := fun same => fresh (same ▸ listed)
      simp only [atChannel, offer_lookup_ne connections frame d other]
    rw [Multiset.foldl_cons, ih distinct, round, same, Multiset.countP_cons]
    omega

end Offers

theorem unregister_counters (h : WsHub Value) (id : ConnectionId) :
    (h.unregister id).messagesSent = h.messagesSent ∧
      (h.unregister id).slowClientsDropped = h.slowClientsDropped := by
  unfold unregister connectionsRemove
  cases h.connections.lookup id <;> exact ⟨rfl, rfl⟩

theorem foldl_evict_counters (slow : Multiset ConnectionId) (h : WsHub Value) :
    (slow.foldl evict h).messagesSent = h.messagesSent ∧
      (slow.foldl evict h).slowClientsDropped =
        h.slowClientsDropped + UInt64.ofNat slow.card := by
  induction slow using Multiset.induction generalizing h with
  | empty => exact ⟨rfl, by simp⟩
  | cons id slow ih =>
    obtain ⟨sent, dropped⟩ := ih (h.evict id)
    obtain ⟨sent', dropped'⟩ := h.unregister_counters id
    rw [Multiset.foldl_cons]
    constructor
    · rw [sent, evict_eq]
      exact sent'
    · have one : (h.evict id).slowClientsDropped = h.slowClientsDropped + 1 := by
        rw [evict_eq]
        change (h.unregister id).slowClientsDropped + 1 = _
        rw [dropped']
      rw [dropped, one, Multiset.card_cons, UInt64.ofNat_add, UInt64.add_assoc,
        UInt64.add_comm 1]
      rfl

/-- The connections an address stands for. -/
def addressees (h : WsHub Value) (addr : Address) : Finset ConnectionId :=
  h.connections.keys.filter (fun id => h.hears addr id = true)

/-- The connections addressed that can take a frame. -/
def receivers (h : WsHub Value) (addr : Address) : Finset ConnectionId :=
  (h.addressees addr).filter (fun id => takes h.connections h.channels id = true)

/-- The connections addressed that do not keep up. -/
def laggards (h : WsHub Value) (addr : Address) : Finset ConnectionId :=
  (h.addressees addr).filter (fun id => stalls h.connections h.channels id = true)

theorem mem_addressees {h : WsHub Value} {addr : Address} {id : ConnectionId} :
    id ∈ h.addressees addr ↔ h.hears addr id = true := by
  rw [addressees, Finset.mem_filter, Finmap.mem_keys]
  exact ⟨fun listed => listed.2, fun heard => ⟨mem_of_hears heard, heard⟩⟩

theorem mem_receivers {h : WsHub Value} {addr : Address} {id : ConnectionId} :
    id ∈ h.receivers addr ↔
      id ∈ h.addressees addr ∧ ∃ tx, h.channels.lookup id = some tx ∧ tx.HasRoom := by
  rw [receivers, Finset.mem_filter, takes, atChannel_iff, mem_addressees]
  constructor
  · rintro ⟨heard, _, tx, lookup, room⟩
    exact ⟨heard, tx, lookup, of_decide_eq_true room⟩
  · rintro ⟨heard, tx, lookup, room⟩
    exact ⟨heard, mem_of_hears heard, tx, lookup, decide_eq_true room⟩

theorem mem_laggards {h : WsHub Value} {addr : Address} {id : ConnectionId} :
    id ∈ h.laggards addr ↔ id ∈ h.addressees addr ∧ h.Stalled id := by
  rw [laggards, Finset.mem_filter, stalls, atChannel_iff]
  refine and_congr_right fun _ => and_congr_right fun _ => exists_congr fun tx => ?_
  rw [decide_eq_true_eq]

/-- What a call that sends the frame to an address makes of the hub, when it
counts `n` receivers. -/
structure Delivers (h : WsHub Value) (addr : Address) (frame : ByteString) (n : Nat)
    (h' : WsHub Value) : Prop where
  received : ∀ id ∈ h.addressees addr, ∀ tx, h.channels.lookup id = some tx →
    ∀ room : tx.HasRoom, h'.channels.lookup id = some (tx.push frame room.2)
  untouched : ∀ id tx, h.channels.lookup id = some tx →
    ¬ (id ∈ h.addressees addr ∧ tx.HasRoom) → h'.channels.lookup id = some tx
  evicted : ∀ id ∈ h.addressees addr, h.Stalled id → id ∉ h'.connections ∧ ¬ h'.Mentions id
  kept : ∀ id, ¬ (id ∈ h.addressees addr ∧ h.Stalled id) →
    h'.connections.lookup id = h.connections.lookup id ∧
    (∀ t, id ∈ h'.topics.members t ↔ id ∈ h.topics.members t) ∧
    ∀ u, id ∈ h'.users.members u ↔ id ∈ h.users.members u
  counted : n = (h.receivers addr).card
  messagesSent : h'.messagesSent = h.messagesSent + UInt64.ofNat (h.receivers addr).card
  slowClientsDropped : h'.slowClientsDropped =
    h.slowClientsDropped + UInt64.ofNat (h.laggards addr).card

section Deliver
variable {h : WsHub Value}

theorem IndexConsistent.mem_addressees (hc : h.IndexConsistent) {addr : Address}
    {id : ConnectionId} : id ∈ h.addressees addr ↔ id ∈ h.audience addr ∧ id ∈ h.connections :=
  WsHub.mem_addressees.trans (hc.mem_audience_iff addr id).symm

/-- A property of registered connections is counted over the index or the table alike. -/
theorem IndexConsistent.countP_audience (hc : h.IndexConsistent) (addr : Address)
    (p : Mpsc ByteString → Bool) :
    (h.audience addr).val.countP (fun id => atChannel p h.connections h.channels id = true) =
      ((h.addressees addr).filter
        (fun id => atChannel p h.connections h.channels id = true)).card := by
  rw [Multiset.countP_eq_card_filter]
  change ((h.audience addr).filter _).card = _
  congr 1
  ext id
  rw [Finset.mem_filter, Finset.mem_filter, hc.mem_addressees]
  simp only [atChannel, Bool.and_eq_true, decide_eq_true_eq]
  tauto

theorem deliver_delivers (hc : h.IndexConsistent) (addr : Address) (frame : ByteString) :
    h.Delivers addr frame (h.deliver (h.audience addr) frame).1
      (h.deliver (h.audience addr) frame).2 := by
  have delivered : (h.offerAll (h.audience addr) frame).delivered = (h.receivers addr).card := by
    have counted := foldl_offer_count Delivery.delivered (@offer_delivered h.connections frame)
      _ (h.audience addr).nodup ⟨h.channels, 0, 0⟩
    rw [hc.countP_audience, Nat.zero_add] at counted
    exact counted
  have dropped : (h.offerAll (h.audience addr) frame).slow.card = (h.laggards addr).card := by
    have counted := foldl_offer_count (fun d => d.slow.card)
      (@offer_slow_card h.connections frame) _ (h.audience addr).nodup ⟨h.channels, 0, 0⟩
    dsimp only at counted
    rw [hc.countP_audience, Multiset.card_zero, Nat.zero_add] at counted
    exact counted
  obtain ⟨sent, evictions⟩ := foldl_evict_counters (h.offerAll (h.audience addr) frame).slow
    { h with channels := (h.offerAll (h.audience addr) frame).channels }
  have after := deliver_consistent hc (h.audience addr) frame
  constructor
  · intro id listed tx lookup room
    rw [deliver_lookup_channels, if_pos (hc.mem_addressees.mp listed), lookup]
    exact congrArg some (Mpsc.offered_of_room room frame)
  · intro id tx lookup outside
    rw [deliver_lookup_channels]
    split
    · rename_i listed
      have noRoom : ¬ tx.HasRoom := fun room => outside ⟨hc.mem_addressees.mpr listed, room⟩
      rw [lookup]
      exact congrArg some (Mpsc.offered_of_not_room noRoom frame)
    · exact lookup
  · intro id listed stalled
    have gone : (h.deliver (h.audience addr) frame).2.connections.lookup id = none := by
      rw [Option.eq_none_iff_forall_ne_some]
      intro conn kept
      exact ((deliver_evicts_iff h _ frame id conn).mp kept).2
        ⟨(hc.mem_addressees.mp listed).1, stalled⟩
    exact ⟨Finmap.lookup_eq_none.mp gone, after.not_mentions gone⟩
  · intro id stays
    have entry : (h.deliver (h.audience addr) frame).2.connections.lookup id =
        h.connections.lookup id := by
      ext conn
      rw [deliver_evicts_iff]
      refine and_iff_left_of_imp fun _ listed => stays ⟨?_, listed.2⟩
      exact hc.mem_addressees.mpr ⟨listed.1, listed.2.1⟩
    refine ⟨entry, fun t => ?_, fun u => ?_⟩
    · rw [after.topics_iff, hc.topics_iff, entry]
    · rw [after.users_iff, hc.users_iff, entry]
  · exact delivered
  · rw [← delivered]
    exact congrArg (· + UInt64.ofNat (h.offerAll (h.audience addr) frame).delivered) sent
  · rw [← dropped]
    exact evictions

/-- Relaying the frame first makes no difference here. -/
theorem Delivers.of_relay {relay : Option (Mpsc (ClusterFrame Value))} {addr : Address}
    {frame : ByteString} {n : Nat} {h' : WsHub Value}
    (delivers : { h with clusterTx := relay }.Delivers addr frame n h') :
    h.Delivers addr frame n h' :=
  ⟨delivers.received, delivers.untouched, delivers.evicted, delivers.kept, delivers.counted,
    delivers.messagesSent, delivers.slowClientsDropped⟩

end Deliver

/-- How a call that is to send to an address ends. What cannot be encoded reaches
nobody, and is not even noticed with nobody to reach. -/
def Outcome (h : WsHub Value) (addr : Address) (encoded : Except WsError ByteString)
    (result : Except WsError Nat) (h' : WsHub Value) : Prop :=
  match encoded with
  | .ok frame => ∃ n, result = .ok n ∧ h.Delivers addr frame n h'
  | .error e => (result = .error e ∨ result = .ok 0 ∧ h.addressees addr = ∅) ∧
      ∃ relay, h' = { h with clusterTx := relay }

section Calls
variable {encode : ServerMessage Value → Except WsError ByteString} {h : WsHub Value}

theorem Outcome.of_relay {relay : Option (Mpsc (ClusterFrame Value))} {addr : Address}
    {encoded : Except WsError ByteString} {result : Except WsError Nat} {h' : WsHub Value}
    (outcome : { h with clusterTx := relay }.Outcome addr encoded result h') :
    h.Outcome addr encoded result h' := by
  cases encoded with
  | ok frame =>
    obtain ⟨n, counted, delivers⟩ := outcome
    exact ⟨n, counted, delivers.of_relay⟩
  | error e => exact outcome

/-- The indexes have nobody under an address that they do not know. -/
theorem nobody_addressed (hc : h.IndexConsistent) {addr : Address}
    (unknown : h.audience addr = ∅) : h.addressees addr = ∅ := by
  ext id
  rw [hc.mem_addressees, unknown]
  simp

theorem deliver_nobody (frame : ByteString) : h.deliver ∅ frame = (0, h) := by
  simp [deliver, offerAll]

/-- The calls that look their audience up in an index. -/
def deliverFound (h : WsHub Value) (found : Option (Finset ConnectionId))
    (encoded : Except WsError ByteString) : Except WsError Nat × WsHub Value :=
  match found with
  | none => (.ok 0, h)
  | some ids =>
    match encoded with
    | .error e => (.error e, h)
    | .ok frame => (.ok (h.deliver ids frame).1, (h.deliver ids frame).2)

theorem deliverFound_outcome (hc : h.IndexConsistent) {addr : Address}
    (found : Option (Finset ConnectionId)) (listed : h.audience addr = found.getD ∅)
    (encoded : Except WsError ByteString) :
    h.Outcome addr encoded (h.deliverFound found encoded).1 (h.deliverFound found encoded).2 := by
  have delivers := deliver_delivers hc addr
  rw [listed] at delivers
  cases found with
  | none =>
    cases encoded with
    | error e => exact ⟨Or.inr ⟨rfl, nobody_addressed hc listed⟩, h.clusterTx, rfl⟩
    | ok frame =>
      have nobody := delivers frame
      rw [Option.getD_none, deliver_nobody] at nobody
      exact ⟨0, rfl, nobody⟩
  | some ids =>
    cases encoded with
    | error e => exact ⟨Or.inl rfl, h.clusterTx, rfl⟩
    | ok frame => exact ⟨_, rfl, delivers frame⟩

theorem publishLocal_outcome (hc : h.IndexConsistent) (topic : Topic) (value : Value) :
    h.Outcome (.topic topic) (eventFrame encode topic value)
      (h.publishLocal encode topic value).1 (h.publishLocal encode topic value).2 :=
  deliverFound_outcome hc (h.topics.lookup topic) rfl (eventFrame encode topic value)

theorem publishToUserLocal_outcome (hc : h.IndexConsistent) (userId : Uuid) (topic : Topic)
    (value : Value) :
    h.Outcome (.user userId) (eventFrame encode topic value)
      (h.publishToUserLocal encode userId topic value).1
      (h.publishToUserLocal encode userId topic value).2 :=
  deliverFound_outcome hc (h.users.lookup userId) rfl (eventFrame encode topic value)

theorem broadcastLocal_outcome (hc : h.IndexConsistent) (topic : Topic) (value : Value) :
    h.Outcome .all (eventFrame encode topic value) (h.broadcastLocal encode topic value).1
      (h.broadcastLocal encode topic value).2 := by
  rw [broadcastLocal]
  cases eventFrame encode topic value with
  | error e => exact ⟨Or.inl rfl, h.clusterTx, rfl⟩
  | ok frame => exact ⟨_, rfl, deliver_delivers hc .all frame⟩

/-- A call that relays the event first ends as its local half does. -/
theorem forwarded_outcome {scope : ClusterScope} {addr : Address} {topic : Topic} {value : Value}
    {send : WsHub Value → Except WsError Nat × WsHub Value}
    (ends : ∀ g : WsHub Value, g.IndexConsistent →
      g.Outcome addr (eventFrame encode topic value) (send g).1 (send g).2)
    (hc : h.IndexConsistent) :
    h.Outcome addr (eventFrame encode topic value)
      (send (h.forwardToCluster scope topic value)).1
      (send (h.forwardToCluster scope topic value)).2 := by
  obtain ⟨relay, same⟩ := h.forwardToCluster_eq scope topic value
  rw [same]
  have relayed := ends { h with clusterTx := relay } (hc.congr rfl rfl rfl)
  exact relayed.of_relay

theorem sendTo_outcome (hc : h.IndexConsistent) (id : ConnectionId) (topic : Topic)
    (value : Value) :
    h.Outcome (.only id) (eventFrame encode topic value)
      ((h.sendTo encode id topic (.ok value)).1.map Bool.toNat)
      (h.sendTo encode id topic (.ok value)).2 := by
  rw [sendTo]
  cases eventFrame encode topic value with
  | error e => exact ⟨Or.inl rfl, h.clusterTx, rfl⟩
  | ok frame =>
    have delivers := deliver_delivers hc (.only id) frame
    have atMost : (h.deliver {id} frame).1 ≤ 1 := by
      have counted := delivers.counted
      have within : h.receivers (.only id) ⊆ {id} := by
        intro k listed
        exact (hc.mem_addressees.mp (mem_receivers.mp listed).1).1
      have card := Finset.card_le_card within
      rw [Finset.card_singleton, ← counted] at card
      exact card
    have asBool : ((h.deliver {id} frame).1 == 1).toNat = (h.deliver {id} frame).1 := by
      interval_cases (h.deliver {id} frame).1 <;> rfl
    refine ⟨_, rfl, ?_⟩
    rw [asBool]
    exact delivers

end Calls

/-- Every publishing call reaches exactly the connections addressed that can take
the frame, removes exactly those that do not keep up, and changes nothing else. -/
theorem delivery_exact {encode : ServerMessage Value → Except WsError ByteString}
    {h : WsHub Value} (hc : h.IndexConsistent) (topic : Topic) (payload : Except WsError Value) :
    h.Outcome (.topic topic) (payload.bind (eventFrame encode topic))
      (h.publish encode topic payload).1 (h.publish encode topic payload).2 ∧
    (∀ userId, h.Outcome (.user userId) (payload.bind (eventFrame encode topic))
      (h.publishToUser encode userId topic payload).1
      (h.publishToUser encode userId topic payload).2) ∧
    h.Outcome .all (payload.bind (eventFrame encode topic)) (h.broadcast encode topic payload).1
      (h.broadcast encode topic payload).2 ∧
    ∀ id, h.Outcome (.only id) (payload.bind (eventFrame encode topic))
      ((h.sendTo encode id topic payload).1.map Bool.toNat)
      (h.sendTo encode id topic payload).2 := by
  cases payload with
  | error e =>
    have refused : ∀ addr, h.Outcome addr (.error e) (.error e) h :=
      fun addr => ⟨Or.inl rfl, h.clusterTx, rfl⟩
    exact ⟨refused _, fun _ => refused _, refused _, fun _ => refused _⟩
  | ok value =>
    exact ⟨forwarded_outcome (fun _ hg => publishLocal_outcome hg topic value) hc,
      fun userId =>
        forwarded_outcome (fun _ hg => publishToUserLocal_outcome hg userId topic value) hc,
      forwarded_outcome (fun _ hg => broadcastLocal_outcome hg topic value) hc,
      fun id => sendTo_outcome hc id topic value⟩

/-- One subscriber has drained its queue and the other has not. -/
theorem delivery_exact_slowClient :
    ∃ h : WsHub Nat, h.receivers (.topic "firehose") = {2} ∧
      h.laggards (.topic "firehose") = {1} ∧
      (h.publish plainFrame "firehose" (.ok 2)).1 = .ok 1 ∧
      ¬ (h.publish plainFrame "firehose" (.ok 2)).2.Mentions 1 := by
  obtain ⟨h, reach, split⟩ := Machine.reachable_of_replay
    (M := machine plainFrame 9 ⟨0, 0, 1⟩ none)
    (p := fun h => decide (h.receivers (.topic "firehose") = {2} ∧
      h.laggards (.topic "firehose") = {1}))
    (slowClientRun.take 6) (by decide)
  obtain ⟨one, slow⟩ := of_decide_eq_true split
  obtain ⟨⟨n, counted, delivers⟩, _⟩ :=
    @delivery_exact Nat plainFrame h (reachable_settled reach).toIndexConsistent "firehose" (.ok 2)
  have late : (1 : ConnectionId) ∈ h.laggards (.topic "firehose") := by
    rw [slow]
    exact Finset.mem_singleton_self 1
  obtain ⟨listed, stalled⟩ := mem_laggards.mp late
  refine ⟨h, one, slow, ?_, ?_⟩
  · rw [counted, delivers.counted, one]
    rfl
  · exact (delivers.evicted 1 listed stalled).2

end WsHub
end ApiBoilerplate
