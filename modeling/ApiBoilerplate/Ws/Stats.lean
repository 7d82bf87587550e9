import ApiBoilerplate.Foundation.Tally
import ApiBoilerplate.Ws.Delivery
import ApiBoilerplate.Ws.Enqueued
import Mathlib.Data.Set.Card

/-!
# The figures of the hub

`stats` walks the connection table once and reads the counters. Between whole
operations its figures are those of the two indexes, and of what has happened
to the connections since the hub was built.
-/

namespace ApiBoilerplate

open Foundation

structure HubStats where
  nodeId : Uuid
  connections : Nat
  authenticatedConnections : Nat
  topics : Nat
  subscriptions : Nat
  messagesSent : UInt64
  slowClientsDropped : UInt64
  clusterEnabled : Bool

namespace WsHub
variable {Value : Type}

def subscriberCount (h : WsHub Value) (topic : Topic) : Nat :=
  ((h.topics.lookup topic).map Finset.card).getD 0

def isUserOnline (h : WsHub Value) (userId : Uuid) : Bool :=
  ((h.users.lookup userId).map (fun ids => decide (ids ≠ ∅))).getD false

/-- Locals of the loop of `stats`. -/
structure Counted where
  authenticated : Nat
  subscriptions : Nat

/-- One round of the loop. -/
def countEntry (connections : FinMap ConnectionId Connection) (counted : Counted)
    (id : ConnectionId) : Counted :=
  match connections.lookup id with
  | none => counted
  | some entry =>
    ⟨if entry.userId.isSome then counted.authenticated + 1 else counted.authenticated,
      counted.subscriptions + entry.topics.card⟩

/-- The user of an entry counts once. -/
def signedIn (conn : Connection) : Nat := if conn.userId.isSome then 1 else 0

def held (conn : Connection) : Nat := conn.topics.card

theorem countEntry_eq (connections : FinMap ConnectionId Connection) (counted : Counted)
    (id : ConnectionId) : countEntry connections counted id =
      ⟨counted.authenticated + FinMap.figure signedIn connections id,
        counted.subscriptions + FinMap.figure held connections id⟩ := by
  rw [countEntry, FinMap.figure, FinMap.figure]
  cases connections.lookup id with
  | none => rfl
  | some entry =>
    cases user : entry.userId with
    | none => simp [signedIn, held, user]
    | some u => simp [signedIn, held, user]

instance (connections : FinMap ConnectionId Connection) :
    RightCommutative (countEntry connections) where
  right_comm counted a b := by
    simp only [countEntry_eq, Counted.mk.injEq]
    constructor
    · omega
    · omega

def countEntries (h : WsHub Value) : Counted :=
  h.connections.keys.val.foldl (countEntry h.connections) ⟨0, 0⟩

def stats (h : WsHub Value) : HubStats where
  nodeId := h.nodeId
  connections := h.connections.keys.card
  authenticatedConnections := h.countEntries.authenticated
  topics := h.topics.keys.card
  subscriptions := h.countEntries.subscriptions
  messagesSent := h.messagesSent
  slowClientsDropped := h.slowClientsDropped
  clusterEnabled := h.clusterTx.isSome

theorem foldl_countEntry (connections : FinMap ConnectionId Connection)
    (ids : Multiset ConnectionId) (counted : Counted) :
    ids.foldl (countEntry connections) counted =
      ⟨counted.authenticated + (ids.map (FinMap.figure signedIn connections)).sum,
        counted.subscriptions + (ids.map (FinMap.figure held connections)).sum⟩ := by
  induction ids using Multiset.induction generalizing counted with
  | empty => rfl
  | cons id ids ih =>
    rw [Multiset.foldl_cons, ih, countEntry_eq, Multiset.map_cons, Multiset.map_cons,
      Multiset.sum_cons, Multiset.sum_cons, Nat.add_assoc, Nat.add_assoc]

theorem countEntries_eq (h : WsHub Value) : h.countEntries =
    ⟨FinMap.total signedIn h.connections, FinMap.total held h.connections⟩ := by
  rw [countEntries, foldl_countEntry, Nat.zero_add, Nat.zero_add]
  rfl

theorem subscriberCount_eq (h : WsHub Value) (topic : Topic) :
    h.subscriberCount topic = (h.topics.members topic).card := by
  rw [subscriberCount, Index.members]
  cases h.topics.lookup topic <;> rfl

theorem isUserOnline_iff (h : WsHub Value) (userId : Uuid) :
    h.isUserOnline userId = true ↔ 0 < (h.users.members userId).card := by
  rw [isUserOnline, Index.members, Finset.card_pos, Finset.nonempty_iff_ne_empty]
  cases h.users.lookup userId with
  | none => simp
  | some ids => simp

section Consistent
variable {h : WsHub Value}

/-- A pair is counted with its topic or with its connection. -/
theorem IndexConsistent.total_held (hc : h.IndexConsistent) :
    FinMap.total held h.connections = ∑ t ∈ h.topics.keys, (h.topics.members t).card := by
  have covered : ∀ t id, id ∈ h.topics.members t → id ∈ h.connections.keys := by
    intro t id filed
    obtain ⟨conn, lookup, _⟩ := (hc.topics_iff t id).mp filed
    exact FinMap.mem_keys_of_lookup lookup
  rw [Index.sum_card_members covered, FinMap.total]
  refine Finset.sum_congr rfl fun id listed => ?_
  obtain ⟨conn, lookup⟩ := Finmap.mem_iff.mp (Finmap.mem_keys.mp listed)
  rw [FinMap.figure_of_lookup lookup, held]
  congr 1
  ext t
  rw [Finset.mem_filter, hc.topics_iff]
  constructor
  · intro subscribed
    have filed := (hc.topics_iff t id).mpr ⟨conn, lookup, subscribed⟩
    exact ⟨Index.mem_keys_of_member filed, conn, lookup, subscribed⟩
  · rintro ⟨_, conn', lookup', subscribed⟩
    rw [lookup] at lookup'
    exact Option.some.inj lookup' ▸ subscribed

theorem IndexConsistent.total_signedIn (hc : h.IndexConsistent) :
    FinMap.total signedIn h.connections = ∑ u ∈ h.users.keys, (h.users.members u).card := by
  have covered : ∀ u id, id ∈ h.users.members u → id ∈ h.connections.keys := by
    intro u id filed
    obtain ⟨conn, lookup, _⟩ := (hc.users_iff u id).mp filed
    exact FinMap.mem_keys_of_lookup lookup
  rw [Index.sum_card_members covered, FinMap.total]
  refine Finset.sum_congr rfl fun id listed => ?_
  obtain ⟨conn, lookup⟩ := Finmap.mem_iff.mp (Finmap.mem_keys.mp listed)
  have owner : ∀ u, id ∈ h.users.members u ↔ conn.userId = some u := by
    intro u
    rw [hc.users_iff, lookup]
    simp
  rw [FinMap.figure_of_lookup lookup, signedIn]
  simp only [owner]
  cases user : conn.userId with
  | none => simp
  | some u =>
    have only : h.users.keys.filter (fun w => some u = some w) = {u} := by
      ext w
      rw [Finset.mem_filter, Finset.mem_singleton]
      constructor
      · exact fun listed => (Option.some.inj listed.2).symm
      · rintro rfl
        exact ⟨Index.mem_keys_of_member ((owner w).mpr user), rfl⟩
    rw [only]
    rfl

end Consistent

/-- What has happened to connections so far. -/
structure Turnover where
  registered : Nat
  unregistered : Nat
  evicted : Nat
  deriving DecidableEq

section Runs
variable (encode : ServerMessage Value → Except WsError ByteString)

/-- The connections that an operation takes out of the table. -/
def takenOut (h : WsHub Value) (op : Op Value) : Finset ConnectionId :=
  match h.step encode op with
  | some after => h.connections.keys \ after.connections.keys
  | none => ∅

/-- Whatever takes a connection out, except a call of `unregister`, evicts it. -/
def recordTurnover (h : WsHub Value) (op : Op Value) (turnover : Turnover) : Turnover :=
  match op with
  | .register id userId now =>
    match (h.register id userId now).1 with
    | .ok _ => { turnover with registered := turnover.registered + 1 }
    | .error _ => turnover
  | .unregister id =>
    { turnover with
      unregistered := turnover.unregistered + (h.takenOut encode (.unregister id)).card }
  | op => { turnover with evicted := turnover.evicted + (h.takenOut encode op).card }

/-- The hub with a record of its connections kept beside it. -/
def counted (nodeId : Uuid) (config : WebSocketConfig)
    (clusterTx : Option (Mpsc (ClusterFrame Value))) :
    Machine (WsHub Value × Turnover) (Op Value) :=
  (machine encode nodeId config clusterTx).recording ⟨0, 0, 0⟩ (recordTurnover encode)

end Runs

/-- The frames ever accepted by a queue are counted queue by queue. -/
theorem card_accepted (h : WsHub Value) :
    h.accepted.card = FinMap.total (fun rx => rx.sent.length) h.channels := by
  rw [accepted, Multiset.card_sum, FinMap.total]
  refine Finset.sum_congr rfl fun id _ => ?_
  rw [Multiset.card_map, Multiset.coe_card, sentTo, FinMap.figure]
  cases h.channels.lookup id <;> rfl

/-- The counters agree with what has happened. -/
structure Accounted (h : WsHub Value) (turnover : Turnover) : Prop where
  connections : h.connections.keys.card + (turnover.unregistered + turnover.evicted) =
    turnover.registered
  messagesSent : h.messagesSent = UInt64.ofNat h.accepted.card
  slowClientsDropped : h.slowClientsDropped = UInt64.ofNat turnover.evicted

section Step
variable {encode : ServerMessage Value → Except WsError ByteString} {h h' : WsHub Value}
  {op : Op Value} {turnover : Turnover}

/-- The frames a delivery adds are those of its receivers. -/
theorem Delivers.accepted {addr : Address} {frame : ByteString} {n : Nat}
    (delivers : h.Delivers addr frame n h') (keys : h'.channels.keys = h.channels.keys) :
    h'.accepted.card = h.accepted.card + (h.receivers addr).card := by
  have within : h.receivers addr ⊆ h.channels.keys := by
    intro id listed
    obtain ⟨_, tx, lookup, _⟩ := mem_receivers.mp listed
    exact FinMap.mem_keys_of_lookup lookup
  rw [card_accepted, card_accepted]
  refine FinMap.total_raised keys within fun id listed => ?_
  obtain ⟨tx, lookup⟩ := Finmap.mem_iff.mp (Finmap.mem_keys.mp listed)
  rw [FinMap.figure_of_lookup lookup]
  by_cases receives : id ∈ h.receivers addr
  · obtain ⟨addressed, tx', lookup', room⟩ := mem_receivers.mp receives
    obtain rfl := Option.some.inj (lookup.symm.trans lookup')
    rw [FinMap.figure_of_lookup (delivers.received id addressed tx lookup room), if_pos receives]
    simp
  · have kept := delivers.untouched id tx lookup fun both =>
      receives (mem_receivers.mpr ⟨both.1, tx, lookup, both.2⟩)
    rw [FinMap.figure_of_lookup kept, if_neg receives, Nat.add_zero]

/-- The connections a delivery takes out are those that do not keep up. -/
theorem Delivers.takenOut {addr : Address} {frame : ByteString} {n : Nat}
    (delivers : h.Delivers addr frame n h') :
    h'.connections.keys = h.connections.keys \ h.laggards addr ∧
      h.laggards addr ⊆ h.connections.keys := by
  have within : h.laggards addr ⊆ h.connections.keys := by
    intro id listed
    exact (Finset.mem_filter.mp (mem_laggards.mp listed).1).1
  refine ⟨?_, within⟩
  ext id
  rw [Finset.mem_sdiff, Finmap.mem_keys, Finmap.mem_keys]
  by_cases late : id ∈ h.laggards addr
  · obtain ⟨addressed, stalled⟩ := mem_laggards.mp late
    exact iff_of_false (delivers.evicted id addressed stalled).1 fun both => both.2 late
  · have kept := (delivers.kept id fun both => late (mem_laggards.mpr both)).1
    rw [← Finmap.lookup_isSome, kept, Finmap.lookup_isSome]
    exact ⟨fun present => ⟨present, late⟩, fun both => both.1⟩

theorem takenOut_of_step (hs : h.step encode op = some h') :
    h.takenOut encode op = h.connections.keys \ h'.connections.keys := by
  rw [takenOut, hs]

/-- An operation that only evicts: the connections in `late`, after `n` frames. -/
theorem Accounted.evicts (accounted : Accounted h turnover) (hs : h.step encode op = some h')
    (evicting : recordTurnover encode h op turnover =
      { turnover with evicted := turnover.evicted + (h.takenOut encode op).card })
    (late : Finset ConnectionId) (n : Nat)
    (keys : h'.connections.keys = h.connections.keys \ late ∧ late ⊆ h.connections.keys)
    (accepts : h'.accepted.card = h.accepted.card + n)
    (messagesSent : h'.messagesSent = h.messagesSent + UInt64.ofNat n)
    (slow : h'.slowClientsDropped = h.slowClientsDropped + UInt64.ofNat late.card) :
    Accounted h' (recordTurnover encode h op turnover) := by
  obtain ⟨left, within⟩ := keys
  have taken : h.takenOut encode op = late := by
    rw [takenOut_of_step hs, left, sdiff_sdiff_right_self]
    exact Finset.inter_eq_right.mpr within
  rw [evicting, taken]
  have balance := accounted.connections
  have fewer := Finset.card_sdiff_add_card_eq_card within
  constructor
  · dsimp only
    rw [left]
    omega
  · rw [messagesSent, accepts, accounted.messagesSent, UInt64.ofNat_add]
  · dsimp only
    rw [slow, accounted.slowClientsDropped, UInt64.ofNat_add]

/-- An operation that neither sends nor evicts. -/
theorem Accounted.quiet (accounted : Accounted h turnover) (hs : h.step encode op = some h')
    (evicting : recordTurnover encode h op turnover =
      { turnover with evicted := turnover.evicted + (h.takenOut encode op).card })
    (keys : h'.connections.keys = h.connections.keys) (accepts : h'.accepted = h.accepted)
    (messagesSent : h'.messagesSent = h.messagesSent)
    (slow : h'.slowClientsDropped = h.slowClientsDropped) :
    Accounted h' (recordTurnover encode h op turnover) := by
  refine accounted.evicts hs evicting ∅ 0 ⟨?_, Finset.empty_subset _⟩ ?_ ?_ ?_
  · rw [keys, Finset.sdiff_empty]
  · rw [accepts, Nat.add_zero]
  · rw [messagesSent]
    simp
  · rw [slow]
    simp

theorem recordTurnover_posting {addr : Address} {topic : Topic} {value : Value}
    (posting : op.posting = some (addr, topic, value)) :
    recordTurnover encode h op turnover =
      { turnover with evicted := turnover.evicted + (h.takenOut encode op).card } := by
  cases op with
  | register | unregister => cases posting
  | _ => rfl

theorem post_accounted (settled : h.Settled) (accounted : Accounted h turnover) {addr : Address}
    {topic : Topic} {value : Value} {relay : Option (Mpsc (ClusterFrame Value))}
    (posting : op.posting = some (addr, topic, value))
    (hs : h.step encode op = some ({ h with clusterTx := relay }.post encode addr topic value)) :
    Accounted ({ h with clusterTx := relay }.post encode addr topic value)
      (recordTurnover encode h op turnover) := by
  have evicting : recordTurnover encode h op turnover = _ := recordTurnover_posting posting
  rw [post] at hs ⊢
  cases encoded : eventFrame encode topic value with
  | error e =>
    rw [encoded] at hs
    exact accounted.quiet hs evicting rfl rfl rfl rfl
  | ok frame =>
    rw [encoded] at hs
    have same : ({ h with clusterTx := relay } : WsHub Value).IndexConsistent :=
      settled.toIndexConsistent.congr rfl rfl rfl
    have delivers := (deliver_delivers same addr frame).of_relay
    exact accounted.evicts hs evicting _ _ delivers.takenOut (delivers.accepted deliver_keys)
      delivers.messagesSent delivers.slowClientsDropped

theorem register_accounted (settled : h.Settled) (accounted : Accounted h turnover)
    {id : ConnectionId} (fresh : id ∉ h.channels) (userId : Option Uuid) (now : DateTime) :
    Accounted (h.register id userId now).2
      (recordTurnover encode h (.register id userId now) turnover) := by
  obtain ⟨balance, sent, dropped⟩ := accounted
  have grown := FinMap.card_insert_fresh (settled.of_fresh fresh) (⟨userId, ∅, now⟩ : Connection)
  have silent : FinMap.total (fun rx => rx.sent.length)
      (h.channels.insert id (Mpsc.channel (max h.config.sendBuffer 1))) = h.accepted.card := by
    rw [FinMap.total_insert_fresh (Finmap.lookup_eq_none.mpr fresh), card_accepted]
    rfl
  rw [recordTurnover, register]
  split
  · exact ⟨balance, sent, dropped⟩
  · have larger : (h.connections.insert id ⟨userId, ∅, now⟩).keys.card +
        (turnover.unregistered + turnover.evicted) = turnover.registered + 1 := by omega
    cases userId with
    | none => exact ⟨larger, by rw [card_accepted]; exact silent ▸ sent, dropped⟩
    | some u => exact ⟨larger, by rw [card_accepted]; exact silent ▸ sent, dropped⟩

theorem unregister_accounted (accounted : Accounted h turnover) (id : ConnectionId) :
    Accounted (h.unregister id) (recordTurnover encode h (.unregister id) turnover) := by
  obtain ⟨balance, sent, dropped⟩ := accounted
  have taken : h.takenOut encode (.unregister id) =
      h.connections.keys \ (h.unregister id).connections.keys := rfl
  have fewer : (h.unregister id).connections.keys ⊆ h.connections.keys := by
    intro k listed
    rw [Finmap.mem_keys, ← Finmap.lookup_isSome, lookup_unregister] at listed
    rw [Finmap.mem_keys, ← Finmap.lookup_isSome]
    split at listed
    · cases listed
    · exact listed
  have split := Finset.card_sdiff_add_card_eq_card fewer
  obtain ⟨sent', dropped'⟩ := h.unregister_counters id
  rw [recordTurnover, taken]
  constructor
  · dsimp only
    omega
  · rw [sent', sent, card_accepted, card_accepted, unregister_channels]
  · rw [dropped', dropped]

/-- Subscribing changes neither who is registered nor what was sent. -/
theorem subscribe_quiet (h : WsHub Value) (id : ConnectionId) (topic : Topic) :
    (h.subscribe id topic).2.connections.keys = h.connections.keys ∧
      (h.subscribe id topic).2.accepted = h.accepted ∧
      (h.subscribe id topic).2.messagesSent = h.messagesSent ∧
      (h.subscribe id topic).2.slowClientsDropped = h.slowClientsDropped := by
  rcases h.subscribe_cases id topic with same | ⟨conn, lookup, same⟩
  · rw [same]
    exact ⟨rfl, rfl, rfl, rfl⟩
  · rw [same]
    refine ⟨?_, rfl, rfl, rfl⟩
    rw [FinMap.keys_insert, Finset.insert_eq_of_mem (FinMap.mem_keys_of_lookup lookup)]

theorem unsubscribe_quiet (h : WsHub Value) (id : ConnectionId) (topic : Topic) :
    (h.unsubscribe id topic).connections.keys = h.connections.keys ∧
      (h.unsubscribe id topic).accepted = h.accepted ∧
      (h.unsubscribe id topic).messagesSent = h.messagesSent ∧
      (h.unsubscribe id topic).slowClientsDropped = h.slowClientsDropped := by
  rcases h.unsubscribe_cases id topic with ⟨_, same⟩ | ⟨conn, lookup, same⟩
  · rw [same]
    exact ⟨rfl, rfl, rfl, rfl⟩
  · rw [same]
    refine ⟨?_, rfl, rfl, rfl⟩
    rw [FinMap.keys_insert, Finset.insert_eq_of_mem (FinMap.mem_keys_of_lookup lookup)]

theorem step_accounted (settled : h.Settled) (accounted : Accounted h turnover)
    (hs : h.step encode op = some h') :
    Accounted h' (recordTurnover encode h op turnover) := by
  cases step_move hs with
  | register fresh => exact register_accounted settled accounted fresh _ _
  | unregister => exact unregister_accounted accounted _
  | @subscribe id topic =>
    obtain ⟨keys, accepts, sent, dropped⟩ := h.subscribe_quiet id topic
    exact accounted.quiet hs rfl keys accepts sent dropped
  | @unsubscribe id topic =>
    obtain ⟨keys, accepts, sent, dropped⟩ := h.unsubscribe_quiet id topic
    exact accounted.quiet hs rfl keys accepts sent dropped
  | post posting => exact post_accounted settled accounted posting hs
  | refused none =>
    cases op with
    | register id userId now =>
      simp only [step] at hs
      split at hs
      · cases hs
      · rename_i fresh
        have kept : Accounted (h.register id userId now).2
          (recordTurnover encode h (.register id userId now) turnover) :=
        register_accounted settled accounted fresh userId now
        rwa [Option.some.inj hs] at kept
    | unregister id =>
      have same : h.unregister id = h := Option.some.inj hs
      have kept : Accounted (h.unregister id)
          (recordTurnover encode h (.unregister id) turnover) := unregister_accounted accounted id
      rwa [same] at kept
    | _ => exact accounted.quiet hs rfl rfl rfl rfl rfl
  | relay => exact accounted.quiet hs rfl rfl rfl rfl rfl
  | drain lookup alive taken =>
    exact accounted.quiet hs rfl rfl (drain_accepted lookup taken) rfl rfl
  | @dropReceiver id rx lookup =>
    have kept : { h with channels := h.channels.insert id rx.dropReceiver }.accepted =
        h.accepted := by
      refine accepted_unchanged (keys_insert_known lookup) fun k => ?_
      simp only [sentTo, FinMap.lookup_insert_eq]
      by_cases same : k = id
      · subst same
        simp [lookup]
      · simp [same]
    exact accounted.quiet hs rfl rfl kept rfl rfl

end Step

section Runs
variable {encode : ServerMessage Value → Except WsError ByteString} {nodeId : Uuid}
  {config : WebSocketConfig} {clusterTx : Option (Mpsc (ClusterFrame Value))}

theorem new_accounted (nodeId : Uuid) (config : WebSocketConfig)
    (clusterTx : Option (Mpsc (ClusterFrame Value))) :
    Accounted (new nodeId config clusterTx) ⟨0, 0, 0⟩ := by
  refine ⟨?_, ?_, rfl⟩
  · simp [new]
  · rw [card_accepted]
    simp [new, FinMap.total]

theorem reachable_accounted {p : WsHub Value × Turnover}
    (reach : (counted encode nodeId config clusterTx).Reachable p) :
    p.1.Settled ∧ Accounted p.1 p.2 := by
  obtain ⟨reached, accounted⟩ := Machine.ReachableWhere.recording
    (I := Accounted) (new_accounted nodeId config clusterTx)
    (fun h _ _ _ reached accounted _ hs => step_accounted (reachable_settled reached) accounted hs)
    reach
  exact ⟨reachable_settled reached, accounted⟩

/-- The figures of `stats` are those of the indexes and of the run, in every state
that whole operations lead to. -/
theorem stats_exact {p : WsHub Value × Turnover}
    (reach : (counted encode nodeId config clusterTx).Reachable p) :
    p.1.stats.subscriptions = finsum p.1.subscriberCount ∧
    p.1.stats.topics = Set.ncard {t | 0 < p.1.subscriberCount t} ∧
    (Function.support p.1.subscriberCount).Finite ∧
    p.1.stats.authenticatedConnections = finsum (fun u => (p.1.users.members u).card) ∧
    (Function.support fun u => (p.1.users.members u).card).Finite ∧
    (∀ u, p.1.isUserOnline u = true ↔ 0 < (p.1.users.members u).card) ∧
    p.1.stats.connections + (p.2.unregistered + p.2.evicted) = p.2.registered ∧
    p.1.stats.messagesSent = UInt64.ofNat p.1.accepted.card ∧
    p.1.stats.slowClientsDropped = UInt64.ofNat p.2.evicted := by
  obtain ⟨settled, accounted⟩ := reachable_accounted reach
  have hc := settled.toIndexConsistent
  have counts : p.1.subscriberCount = fun t => (p.1.topics.members t).card :=
    funext p.1.subscriberCount_eq
  refine ⟨?_, ?_, ?_, ?_, ?_, p.1.isUserOnline_iff, accounted.connections,
    accounted.messagesSent, accounted.slowClientsDropped⟩
  · rw [counts, Index.finsum_card_members, ← hc.total_held, stats, countEntries_eq]
  · have listed : {t | 0 < p.1.subscriberCount t} = (p.1.topics.keys : Set Topic) := by
      ext t
      rw [Set.mem_ofPred_eq, Finset.mem_coe, hc.topics_noEmpty.mem_keys_iff, subscriberCount_eq]
    rw [listed, Set.ncard_coe_finset, stats]
  · rw [counts]
    exact Index.support_finite p.1.topics
  · rw [Index.finsum_card_members, ← hc.total_signedIn, stats, countEntries_eq]
  · exact Index.support_finite p.1.users

/-- Of two subscribers one is evicted: three figures of the run and one of an index. -/
theorem stats_exact_slowClient :
    ∃ p : WsHub Nat × Turnover, p.2 = ⟨2, 0, 1⟩ ∧ p.1.stats.connections = 1 ∧
      p.1.stats.slowClientsDropped = 1 ∧ p.1.subscriberCount "firehose" = 1 := by
  obtain ⟨p, reach, seen⟩ := Machine.reachable_of_replay
    (M := counted plainFrame 9 ⟨0, 0, 1⟩ none)
    (p := fun p => decide (p.2 = ⟨2, 0, 1⟩ ∧ p.1.subscriberCount "firehose" = 1))
    slowClientRun (by decide)
  obtain ⟨turnover, subscribers⟩ := of_decide_eq_true seen
  obtain ⟨_, _, _, _, _, _, connections, _, dropped⟩ := stats_exact reach
  rw [turnover] at connections dropped
  exact ⟨p, turnover, by simpa using connections, dropped, subscribers⟩

end Runs

end WsHub
end ApiBoilerplate
