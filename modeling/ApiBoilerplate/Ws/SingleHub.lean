import Mathlib.Tactic.Abel
import ApiBoilerplate.Ws.Enqueued
import ApiBoilerplate.Ws.Cluster

/-!
# The cluster refines a single hub

While connections and subscriptions stand still, no queue is full and nothing is
lost, what the hubs have enqueued together with what the frames in flight are
still due to make them enqueue grows by the same amount with each call: by what
one hub holding all the connections would enqueue for it. Once nothing is in
flight the two have enqueued the same pairs.
-/

namespace ApiBoilerplate

open Foundation
open scoped BigOperators

namespace WsHub
variable {Value : Type}

section Relaying
variable {encode : ServerMessage Value → Except WsError ByteString} {h h' : WsHub Value}

/-- A call puts its frame on the relay queue, addressed like its local post. -/
theorem call_queued {op : Op Value} {addr : Address} {topic : Topic} {value : Value}
    (call : op.isCall = true) (posting : op.posting = some (addr, topic, value))
    (relays : h.relays = true) (hs : step encode h op = some h') :
    ∃ frame : ClusterFrame Value, frame.node = h.nodeId ∧ frame.address = addr ∧
      frame.topic = topic ∧ frame.payload = value ∧ h'.queued = h.queued ++ [frame] := by
  have queued := fun own => step_queued own hs
  rw [relays] at queued
  cases op with
  | publish t payload | publishToUser u t payload | broadcast t payload =>
    cases payload with
    | error e => cases posting
    | ok v =>
      cases posting
      exact ⟨_, rfl, rfl, rfl, rfl, queued rfl⟩
  | register | unregister | subscribe | unsubscribe | sendTo | dispatchClusterFrame | drain
  | dropReceiver | relay => cases call

/-- Without a post nothing is put on the relay queue. -/
theorem quiet_queued {op : Op Value} (own : op.isLocal = true) (posting : op.posting = none)
    (hs : step encode h op = some h') : h'.queued = h.queued := by
  have nothing : op.relayFrame h.nodeId = none := by
    cases framed : op.relayFrame h.nodeId with
    | none => rfl
    | some frame =>
      rw [Op.posting_of_relayFrame framed] at posting
      cases posting
  rw [step_queued own hs, nothing]
  simp

end Relaying

theorem Op.isCall_of_posting {op : Op Value} {event : Address × Topic × Value}
    (keeps : op.keepsTables = true) (posting : op.posting = some event) : op.isCall = true := by
  cases op with
  | drain | relay => cases posting
  | register | unregister | subscribe | unsubscribe | publish | publishToUser | broadcast
  | sendTo | dispatchClusterFrame | dropReceiver => exact keeps

theorem owedBy_of_quiet (encode : ServerMessage Value → Except WsError ByteString)
    (h : WsHub Value) {op : Op Value} (posting : op.posting = none) : h.owedBy encode op = 0 := by
  rw [owedBy, posting]

end WsHub

def ClusterLabel.call {ι Value : Type} : ClusterLabel ι Value → Option (WsHub.Op Value)
  | .hub _ op => op.call
  | _ => none

namespace Cluster
variable {ι Value : Type} [DecidableEq ι]

section Amounts
variable [Fintype ι] (codec : ClusterCodec Value)
  (encode : ServerMessage Value → Except WsError ByteString)
  (start : Cluster ι Value)

/-- What an arriving frame is to make the hub of an instance enqueue. -/
def dueAt (node : ι) (frame : ClusterFrame Value) : Multiset Enqueued :=
  if frame.node = (start.hubs node).nodeId then 0
  else (start.hubs node).owed encode frame.address frame.topic frame.payload

def due (frame : ClusterFrame Value) : Multiset Enqueued := ∑ node, dueAt encode start node frame

def dueOf (node : ι) (raw : String) : Multiset Enqueued :=
  match codec.fromJson raw with
  | .error _ => 0
  | .ok frame => dueAt encode start node frame

/-- What one instance has enqueued, with what its relay queue, its publisher and
its inbox are still due to bring about anywhere. -/
def load (s : Cluster ι Value) (node : ι) : Multiset Enqueued :=
  (s.hubs node).accepted + ((s.hubs node).queued.map (due encode start)).sum +
    ((s.publishing node).map (due encode start)).getD 0 +
    ((s.inbox node).map (dueOf codec encode start node)).sum

/-- What the calls of a label enqueue over all instances. -/
def owedBy (op : WsHub.Op Value) : Multiset Enqueued := ∑ node, (start.hubs node).owedBy encode op

end Amounts

/-- The hubs of `s` still hold the connections they held in `start`. -/
structure Tracks (start s : Cluster ι Value) : Prop where
  settled : ∀ node, (s.hubs node).Settled
  nodeId : ∀ node, (s.hubs node).nodeId = (start.hubs node).nodeId
  same : ∀ node, WsHub.SameTables (start.hubs node) (s.hubs node)

section Steps
variable {codec : ClusterCodec Value} {encode : ServerMessage Value → Except WsError ByteString}
  {start s : Cluster ι Value}

theorem Tracks.setHub (tracks : Tracks start s) {node : ι} {h : WsHub Value}
    (moved : HubMove codec encode (s.hubs node) h)
    (same : WsHub.SameTables (s.hubs node) h) : Tracks start (s.setHub node h) := by
  have hubs : ∀ i, (s.setHub node h).hubs i = if i = node then h else s.hubs i :=
    fun i => Function.update_apply ..
  constructor
  · intro i
    rw [hubs]
    split
    · exact moved.settled (tracks.settled node)
    · exact tracks.settled i
  · intro i
    rw [hubs]
    split
    · rename_i at_
      rw [at_, moved.nodeId, tracks.nodeId]
    · exact tracks.nodeId i
  · intro i
    rw [hubs]
    split
    · rename_i at_
      rw [at_]
      exact (tracks.same node).trans same
    · exact tracks.same i

variable [Fintype ι]

variable (encode) in
/-- A call adds to its own hub and to its relay queue what it owes everywhere. -/
theorem call_due (distinct : Function.Injective (fun node => (start.hubs node).nodeId))
    {node : ι} {frame : ClusterFrame Value} (origin : frame.node = (start.hubs node).nodeId) :
    (start.hubs node).owed encode frame.address frame.topic frame.payload +
        due encode start frame =
      ∑ i, (start.hubs i).owed encode frame.address frame.topic frame.payload := by
  have others : ∀ i, i ≠ node →
      (start.hubs i).owed encode frame.address frame.topic frame.payload =
        dueAt encode start i frame := by
    intro i other
    have foreign : frame.node ≠ (start.hubs i).nodeId := by
      rw [origin]
      exact fun same => other (distinct same).symm
    rw [dueAt, if_neg foreign]
  have own : dueAt encode start node frame = 0 := if_pos origin
  have gain := sum_gained others (d := (start.hubs node).owed encode frame.address frame.topic
    frame.payload) (by rw [own, zero_add])
  rw [gain, add_comm]
  rfl

/-- What an operation of an instance adds to its relay queue makes up for what
the other instances do not enqueue yet. -/
theorem hub_due (distinct : Function.Injective (fun node => (start.hubs node).nodeId))
    (tracks : Tracks start s) {node : ι} {op : WsHub.Op Value} {h : WsHub Value}
    (own : op.isLocal = true) (keeps : op.keepsTables = true)
    (relays : op.posting.isSome = true → (s.hubs node).relays = true)
    (hs : WsHub.step encode (s.hubs node) op = some h) :
    ∃ frames, h.queued = (s.hubs node).queued ++ frames ∧
      (start.hubs node).owedBy encode op + (frames.map (due encode start)).sum =
        (op.call.map (owedBy encode start)).getD 0 := by
  cases posting : op.posting with
  | none =>
    have nothing : ∀ h : WsHub Value, h.owedBy encode op = 0 :=
      fun h => WsHub.owedBy_of_quiet encode h posting
    refine ⟨[], by rw [WsHub.quiet_queued own posting hs, List.append_nil], ?_⟩
    rw [nothing, WsHub.Op.call]
    split <;> simp [owedBy, nothing]
  | some event =>
    obtain ⟨addr, topic, value⟩ := event
    have call := WsHub.Op.isCall_of_posting keeps posting
    obtain ⟨frame, origin, rfl, rfl, rfl, queued⟩ :=
      WsHub.call_queued call posting (relays (by rw [posting]; rfl)) hs
    refine ⟨[frame], queued, ?_⟩
    have total := call_due encode distinct (origin.trans (tracks.nodeId node))
    simpa [WsHub.Op.call, call, owedBy, WsHub.owedBy, posting] using total

theorem hub_load (distinct : Function.Injective (fun node => (start.hubs node).nodeId))
    (tracks : Tracks start s) {node : ι} {op : WsHub.Op Value} {h : WsHub Value}
    (own : op.isLocal = true) (steady : (s.hubs node).Steady op)
    (relays : op.posting.isSome = true → (s.hubs node).relays = true)
    (hs : WsHub.step encode (s.hubs node) op = some h) :
    Tracks start (s.setHub node h) ∧
      ∑ i, load codec encode start (s.setHub node h) i =
        ∑ i, load codec encode start s i + (op.call.map (owedBy encode start)).getD 0 := by
  obtain ⟨same, total⟩ := WsHub.steady_step (tracks.settled node) steady hs
  obtain ⟨frames, queued, due⟩ := hub_due distinct tracks own steady.1 relays hs
  have moved : HubMove codec encode (s.hubs node) h := .op hs
  refine ⟨tracks.setHub moved same, ?_⟩
  refine sum_gained (i := node) ?_ ?_
  · intro i other
    simp [load, Cluster.setHub, other]
  · rw [← due]
    have owed : (s.hubs node).owedBy encode op = (start.hubs node).owedBy encode op :=
      (tracks.same node).owedBy op
    simp only [load, Cluster.setHub, Function.update_self, total, queued, owed, List.map_append,
      List.sum_append]
    abel

theorem recv_load (tracks : Tracks start s) {node : ι} {tx tx' : Mpsc (ClusterFrame Value)}
    {frame : ClusterFrame Value} (idle : s.publishing node = none)
    (relay : (s.hubs node).clusterTx = some tx) (taken : tx.recv = some (frame, tx')) :
    Tracks start ((s.setHub node { s.hubs node with clusterTx := some tx' }).setPublishing node
        (some frame)) ∧
      ∑ i, load codec encode start
          ((s.setHub node { s.hubs node with clusterTx := some tx' }).setPublishing node
            (some frame)) i = ∑ i, load codec encode start s i := by
  have moved : HubMove codec encode (s.hubs node) { s.hubs node with clusterTx := some tx' } :=
    .relayed
  have hubs := tracks.setHub moved ⟨rfl, fun _ => rfl⟩
  obtain ⟨queue, _, _, _⟩ := Mpsc.recv_some taken
  refine ⟨⟨hubs.settled, hubs.nodeId, hubs.same⟩, ?_⟩
  refine Finset.sum_congr rfl (fun i _ => ?_)
  by_cases other : i = node
  · subst other
    have before : (s.hubs i).queued = frame :: tx'.queue := by simp [WsHub.queued, relay, queue]
    have after : { s.hubs i with clusterTx := some tx' }.queued = tx'.queue := rfl
    have kept : { s.hubs i with clusterTx := some tx' }.accepted = (s.hubs i).accepted := rfl
    simp only [load, Cluster.setHub, setPublishing, Function.update_self, before, after, kept,
      idle, Option.map_some, Option.getD_some, Option.map_none, Option.getD_none,
      List.map_cons, List.sum_cons]
    abel
  · simp [load, Cluster.setHub, setPublishing, other]

/-- Publishing turns a frame into one message for each instance. -/
theorem publish_load (tracks : Tracks start s) {node : ι} {frame : ClusterFrame Value}
    {payload : String} (held : s.publishing node = some frame)
    (written : codec.toJson frame = .ok payload) (read : codec.fromJson payload = .ok frame)
    (subscribed : ∀ peer, s.subscribed peer = true) :
    Tracks start (publishFrame codec s node frame) ∧
      ∑ i, load codec encode start (publishFrame codec s node frame) i =
        ∑ i, load codec encode start s i := by
  have idle : ∑ i, load codec encode start s i =
      ∑ i, load codec encode start (s.setPublishing node none) i + due encode start frame := by
    refine sum_gained (i := node) ?_ ?_
    · intro i other
      simp [load, setPublishing, other]
    · simp only [load, setPublishing, Function.update_self, held, Option.map_some,
        Option.getD_some, Option.map_none, Option.getD_none]
      abel
  have published : ∀ i, load codec encode start (publishFrame codec s node frame) i =
      load codec encode start (s.setPublishing node none) i + dueAt encode start i frame := by
    intro i
    have message : dueOf codec encode start i payload = dueAt encode start i frame := by
      rw [dueOf, read]
    simp only [load, publishFrame, written, subscribed, setPublishing, if_true, List.map_append,
      List.sum_append, List.map_cons, List.map_nil, List.sum_cons, List.sum_nil, message]
    abel
  refine ⟨?_, ?_⟩
  · have hubs := publishFrame_hubs codec s node frame
    constructor
    · rw [hubs]
      exact tracks.settled
    · rw [hubs]
      exact tracks.nodeId
    · rw [hubs]
      exact tracks.same
  · rw [idle, Finset.sum_congr rfl (fun i _ => published i), Finset.sum_add_distrib]
    rfl

/-- A message read makes its hub enqueue what it was due. -/
theorem onMessage_load (tracks : Tracks start s) {node : ι} {position : Nat} {raw : String}
    (read : (s.inbox node)[position]? = some raw)
    (room : ∀ frame, codec.fromJson raw = .ok frame → frame.node ≠ (s.hubs node).nodeId →
      (s.hubs node).Roomy frame.address) :
    Tracks start { s.setHub node (receiveMessage codec encode (s.hubs node) raw) with
        inbox := Function.update s.inbox node ((s.inbox node).eraseIdx position) } ∧
      ∑ i, load codec encode start
          { s.setHub node (receiveMessage codec encode (s.hubs node) raw) with
            inbox := Function.update s.inbox node ((s.inbox node).eraseIdx position) } i =
        ∑ i, load codec encode start s i := by
  have moved : HubMove codec encode (s.hubs node) (receiveMessage codec encode (s.hubs node) raw) :=
    .received
  have received : WsHub.SameTables (s.hubs node)
        (receiveMessage codec encode (s.hubs node) raw) ∧
      (receiveMessage codec encode (s.hubs node) raw).queued = (s.hubs node).queued ∧
      (receiveMessage codec encode (s.hubs node) raw).accepted =
        (s.hubs node).accepted + dueOf codec encode start node raw := by
    rw [receiveMessage, dueOf]
    cases parsed : codec.fromJson raw with
    | error e => exact ⟨.refl _, rfl, (add_zero _).symm⟩
    | ok frame =>
      dsimp only
      rw [dueAt, ← tracks.nodeId node]
      split
      · exact ⟨.refl _, rfl, (add_zero _).symm⟩
      · rename_i foreign
        rw [WsHub.dispatchClusterFrame_post]
        obtain ⟨same, total⟩ := WsHub.post_accepted encode (tracks.settled node)
          (room frame parsed foreign) frame.topic frame.payload
        rw [(tracks.same node).owed] at total
        exact ⟨same, WsHub.post_queued .., total⟩
  obtain ⟨same, queued, total⟩ := received
  have hubs := tracks.setHub moved same
  refine ⟨⟨hubs.settled, hubs.nodeId, hubs.same⟩, ?_⟩
  refine Finset.sum_congr rfl (fun i _ => ?_)
  by_cases other : i = node
  · subst other
    obtain ⟨inside, rfl⟩ := List.getElem?_eq_some_iff.mp read
    have split := (List.getElem_cons_eraseIdx_perm inside).map (dueOf codec encode start i)
    have messages := split.sum_eq
    rw [List.map_cons, List.sum_cons] at messages
    simp only [load, Cluster.setHub, Function.update_self, queued, total, ← messages]
    abel
  · simp [load, Cluster.setHub, other]

end Steps

section Window
variable (codec : ClusterCodec Value)

/-- From the first call until nothing is in flight: connections and
subscriptions stand still, no relay queue overflows, no connection queue is
full, and every message published reaches every instance. -/
def Window (s : Cluster ι Value) : ClusterLabel ι Value → Prop
  | .hub node op =>
    (s.hubs node).Steady op ∧ (op.posting.isSome = true → (s.hubs node).relays = true)
  | .recv _ | .subscribe _ => True
  | .publish node =>
    (∀ peer, s.subscribed peer = true) ∧
      ∀ frame ∈ s.publishing node, (codec.toJson frame).isOk = true
  | .unavailable _ => False
  | .disconnect node => s.inbox node = []
  | .onMessage node position =>
    ∀ raw ∈ (s.inbox node)[position]?, ∀ frame ∈ (codec.fromJson raw).toOption,
      frame.node ≠ (s.hubs node).nodeId → (s.hubs node).Roomy frame.address

instance [Fintype ι] (s : Cluster ι Value) (l : ClusterLabel ι Value) :
    Decidable (Window codec s l) := by
  cases l <;> unfold Window <;> infer_instance

end Window

/-- Different instances hold different connections. -/
def Disjoint (s : Cluster ι Value) : Prop :=
  ∀ i j id, id ∈ (s.hubs i).connections → id ∈ (s.hubs j).connections → i = j

/-- One hub with the connections of all instances. -/
structure HeldBy (s : Cluster ι Value) (whole : WsHub Value) : Prop where
  connections : ∀ id conn, whole.connections.lookup id = some conn ↔
    ∃ node, (s.hubs node).connections.lookup id = some conn
  isOpen : ∀ node id, id ∈ (s.hubs node).connections →
    whole.isOpen id = (s.hubs node).isOpen id

section Refinement
variable [Fintype ι]

/-- The pairs enqueued over all instances on the way from `s` to `t`. -/
def enqueuedSince (s t : Cluster ι Value) : Multiset Enqueued :=
  ∑ node, (t.hubs node).accepted - ∑ node, (s.hubs node).accepted

variable {codec : ClusterCodec Value} {encode : ServerMessage Value → Except WsError ByteString}
  {nodeId : ι → Uuid} {config : ι → WebSocketConfig} {start s : Cluster ι Value}

theorem window_step
    (json : ∀ frame payload, codec.toJson frame = .ok payload → codec.fromJson payload = .ok frame)
    (distinct : Function.Injective (fun node => (start.hubs node).nodeId))
    {t : Cluster ι Value} {l : ClusterLabel ι Value} (tracks : Tracks start s)
    (window : Window codec s l) (hs : step codec encode s l = some t) :
    Tracks start t ∧ ∑ i, load codec encode start t i =
      ∑ i, load codec encode start s i + (l.call.map (owedBy encode start)).getD 0 := by
  cases step_move hs with
  | hub own stepped => exact hub_load distinct tracks own window.1 window.2 stepped
  | recv idle relay taken =>
    simpa [ClusterLabel.call] using recv_load tracks idle relay taken
  | @publish node frame held =>
    obtain ⟨subscribed, serialises⟩ := window
    cases written : codec.toJson frame with
    | error e => simpa [written, Except.isOk, Except.toBool] using serialises frame held
    | ok payload =>
      simpa [ClusterLabel.call] using
        publish_load tracks held written (json frame payload written) subscribed
  | unavailable _ => exact absurd window id
  | subscribe _ => exact ⟨⟨tracks.settled, tracks.nodeId, tracks.same⟩, (add_zero _).symm⟩
  | @disconnect node _ =>
    refine ⟨⟨tracks.settled, tracks.nodeId, tracks.same⟩, ?_⟩
    have unread : Function.update s.inbox node [] = s.inbox := by
      rw [← show s.inbox node = [] from window, Function.update_eq_self]
    rw [unread]
    exact (add_zero _).symm
  | @onMessage node position raw read =>
    have room : ∀ frame, codec.fromJson raw = .ok frame → frame.node ≠ (s.hubs node).nodeId →
        (s.hubs node).Roomy frame.address := by
      intro frame parsed
      exact window raw read frame (by rw [parsed]; rfl)
    simpa [ClusterLabel.call] using onMessage_load tracks read room

omit [DecidableEq ι] in
theorem quiet_load (quiet : s.Quiet) (node : ι) :
    load codec encode start s node = (s.hubs node).accepted := by
  have drained : (s.hubs node).queued = [] := by
    cases relay : (s.hubs node).clusterTx with
    | none => simp [WsHub.queued, relay]
    | some tx => simpa [WsHub.queued, relay] using quiet.relayQueues node tx relay
  simp [load, drained, quiet.publishing node, quiet.inbox node]

theorem window_accepted
    (json : ∀ frame payload, codec.toJson frame = .ok payload → codec.fromJson payload = .ok frame)
    (distinct : Function.Injective nodeId)
    (reach : (machine codec encode nodeId config).Reachable start) (idle : start.Quiet)
    {ls : List (ClusterLabel ι Value)}
    (run : ((machine codec encode nodeId config).startingAt start).Run (Window codec) ls s)
    (quiet : s.Quiet) :
    ∑ node, (s.hubs node).accepted = ∑ node, (start.hubs node).accepted +
      ((ls.filterMap ClusterLabel.call).map (owedBy encode start)).sum := by
  have hubs := fun node => reachable_hubs reach node
  have apart : Function.Injective (fun node => (start.hubs node).nodeId) := by
    intro i j same
    simp only [(hubs _).2] at same
    exact distinct same
  obtain ⟨_, total⟩ := run.conserved (I := Tracks start)
    (fun s => ∑ i, load codec encode start s i)
    (fun l => (l.call.map (owedBy encode start)).getD 0)
    ⟨fun node => (hubs node).1, fun _ => rfl, fun _ => .refl _⟩
    (fun _ _ _ tracks window hs => window_step json apart tracks window hs)
  rw [sum_map_filterMap] at total
  simpa only [quiet_load quiet, Machine.startingAt, quiet_load idle] using total

end Refinement

end Cluster

namespace Cluster
variable {ι Value : Type} [Fintype ι]
  {encode : ServerMessage Value → Except WsError ByteString} {start : Cluster ι Value}

/-- The single hub addresses an event to the connections of all instances. -/
theorem HeldBy.recipients {whole : WsHub Value} (held : start.HeldBy whole) (addr : Address) :
    whole.recipients addr =
      Finset.univ.biUnion (fun node => (start.hubs node).recipients addr) := by
  ext id
  simp only [Finset.mem_biUnion, Finset.mem_univ, true_and, WsHub.mem_recipients, WsHub.hears,
    Option.any_eq_true]
  constructor
  · rintro ⟨⟨conn, lookup, covers⟩, alive⟩
    obtain ⟨node, there⟩ := (held.connections id conn).mp lookup
    have known := Finmap.mem_of_lookup_eq_some there
    exact ⟨node, ⟨conn, there, covers⟩, (held.isOpen node id known).symm.trans alive⟩
  · rintro ⟨node, ⟨conn, there, covers⟩, alive⟩
    have known := Finmap.mem_of_lookup_eq_some there
    exact ⟨⟨conn, (held.connections id conn).mpr ⟨node, there⟩, covers⟩,
      (held.isOpen node id known).trans alive⟩

theorem HeldBy.owed {whole : WsHub Value} (held : start.HeldBy whole) (disjoint : start.Disjoint)
    (addr : Address) (topic : Topic) (value : Value) :
    whole.owed encode addr topic value =
      ∑ node, (start.hubs node).owed encode addr topic value := by
  simp only [WsHub.owed]
  cases WsHub.eventFrame encode topic value with
  | error e => simp
  | ok frame =>
    dsimp only
    rw [held.recipients]
    refine Finset.sum_biUnion ?_
    intro i _ j _ other
    refine Finset.disjoint_left.mpr (fun id here there => other ?_)
    have known := WsHub.mem_of_hears ((WsHub.mem_recipients _ _ _).mp here).1
    exact disjoint i j id known (WsHub.mem_of_hears ((WsHub.mem_recipients _ _ _).mp there).1)

theorem HeldBy.owedBy {whole : WsHub Value} (held : start.HeldBy whole)
    (disjoint : start.Disjoint) (op : WsHub.Op Value) :
    whole.owedBy encode op = owedBy encode start op := by
  rw [WsHub.owedBy, Cluster.owedBy]
  cases posting : op.posting with
  | none => simp [WsHub.owedBy, posting]
  | some event => simpa [WsHub.owedBy, posting] using held.owed disjoint event.1 event.2.1 event.2.2

end Cluster

namespace WsHub
variable {Value : Type}

/-- The pairs enqueued on the way from `h` to `g`. -/
def enqueuedSince (h g : WsHub Value) : Multiset Enqueued := g.accepted - h.accepted

theorem steady_accepted {encode : ServerMessage Value → Except WsError ByteString} {nodeId : Uuid}
    {config : WebSocketConfig} {clusterTx : Option (Mpsc (ClusterFrame Value))}
    {whole h : WsHub Value} (reach : (machine encode nodeId config clusterTx).Reachable whole)
    {ops : List (Op Value)}
    (run : ((machine encode nodeId config clusterTx).startingAt whole).Run Steady ops h) :
    h.accepted = whole.accepted + ((ops.filterMap Op.call).map (whole.owedBy encode)).sum := by
  obtain ⟨_, total⟩ := run.conserved (I := fun g => g.Settled ∧ SameTables whole g) accepted
    (fun op => (op.call.map (whole.owedBy encode)).getD 0)
    ⟨reachable_settled reach, .refl whole⟩ (by
      rintro g op g' ⟨settled, same⟩ steady hs
      obtain ⟨kept, gain⟩ := steady_step settled steady hs
      refine ⟨⟨step_settled hs settled, same.trans kept⟩, ?_⟩
      rw [gain, same.owedBy, Op.call]
      split
      · rfl
      · rename_i uncalled
        have silent : op.posting = none := by
          cases posting : op.posting with
          | none => rfl
          | some event => exact absurd (Op.isCall_of_posting steady.1 posting) uncalled
        rw [owedBy_of_quiet encode whole silent]
        rfl)
  rw [sum_map_filterMap] at total
  exact total

end WsHub

namespace Cluster
variable {ι Value : Type} [DecidableEq ι] [Fintype ι]

/-- However calls, relaying and deliveries interleave, once nothing is in flight
the instances have enqueued what one hub with all the connections enqueues for
the same calls. -/
theorem cluster_refines_single_hub {codec : ClusterCodec Value}
    {encode : ServerMessage Value → Except WsError ByteString}
    (json : ∀ frame payload, codec.toJson frame = .ok payload → codec.fromJson payload = .ok frame)
    {nodeId : ι → Uuid} (distinct : Function.Injective nodeId) {config : ι → WebSocketConfig}
    {start s : Cluster ι Value} (reach : (machine codec encode nodeId config).Reachable start)
    (idle : start.Quiet) (disjoint : start.Disjoint) {labels : List (ClusterLabel ι Value)}
    (run : ((machine codec encode nodeId config).startingAt start).Run (Window codec) labels s)
    (quiet : s.Quiet)
    {wholeId : Uuid} {wholeConfig : WebSocketConfig}
    {clusterTx : Option (Mpsc (ClusterFrame Value))} {whole w : WsHub Value}
    (reachWhole : (WsHub.machine encode wholeId wholeConfig clusterTx).Reachable whole)
    (held : start.HeldBy whole) {ops : List (WsHub.Op Value)}
    (alone : ((WsHub.machine encode wholeId wholeConfig clusterTx).startingAt whole).Run
      WsHub.Steady ops w)
    (sameCalls : (labels.filterMap ClusterLabel.call).Perm (ops.filterMap WsHub.Op.call)) :
    start.enqueuedSince s = whole.enqueuedSince w := by
  have cluster := window_accepted json distinct reach idle run quiet
  have single := WsHub.steady_accepted reachWhole alone
  have same : (whole.owedBy encode) = owedBy encode start :=
    funext (fun op => held.owedBy disjoint op)
  calc start.enqueuedSince s
      = ((labels.filterMap ClusterLabel.call).map (owedBy encode start)).sum := by
        rw [enqueuedSince, cluster, add_tsub_cancel_left]
    _ = ((ops.filterMap WsHub.Op.call).map (owedBy encode start)).sum :=
        (sameCalls.map _).sum_eq
    _ = whole.enqueuedSince w := by
        rw [WsHub.enqueuedSince, single, same, add_tsub_cancel_left]

section News

def twoNodes : Machine (Cluster Bool Nat) (ClusterLabel Bool Nat) :=
  machine newsCodec WsHub.plainFrame (fun node => if node then 1 else 2) (fun _ => ⟨0, 0, 10⟩)

def oneHub : Machine (WsHub Nat) (WsHub.Op Nat) := WsHub.machine WsHub.plainFrame 3 ⟨0, 0, 10⟩ none

/-- Connection 11 on one instance and connection 12 on the other, same topic. -/
def twoNodesStart : Cluster Bool Nat :=
  twoNodes.follow (fun _ _ => true)
    [.subscribe true, .subscribe false, .hub true (.register 11 none 0),
      .hub true (.subscribe 11 "news"), .hub false (.register 12 (some 7) 0),
      .hub false (.subscribe 12 "news")]

def oneHubStart : WsHub Nat :=
  oneHub.follow (fun _ _ => true)
    [.register 11 none 0, .subscribe 11 "news", .register 12 (some 7) 0, .subscribe 12 "news"]

/-- One publish, relayed to both instances. -/
def newsRun : List (ClusterLabel Bool Nat) :=
  [.hub true (.publish "news" (.ok 3)), .recv true, .publish true, .onMessage false 0,
    .onMessage true 0]

def newsEnd : Cluster Bool Nat :=
  (twoNodes.startingAt twoNodesStart).follow (fun s l => decide (Window newsCodec s l)) newsRun

def oneHubEnd : WsHub Nat :=
  (oneHub.startingAt oneHubStart).follow (fun h op => decide (h.Steady op))
    [.publish "news" (.ok 3)]

theorem twoNodesStart_heldBy : twoNodesStart.HeldBy oneHubStart := by
  have union : oneHubStart.connections =
      (twoNodesStart.hubs true).connections ∪ (twoNodesStart.hubs false).connections := by
    decide +kernel
  have first : (twoNodesStart.hubs true).connections.keys = {11} := by decide +kernel
  have second : (twoNodesStart.hubs false).connections.keys = {12} := by decide +kernel
  have alive : ∀ node, oneHubStart.isOpen (if node then 11 else 12) =
      (twoNodesStart.hubs node).isOpen (if node then 11 else 12) := by decide +kernel
  constructor
  · intro id conn
    rw [union, ← Option.mem_def, Finmap.mem_lookup_union, Bool.exists_bool]
    constructor
    · exact fun either => either.elim Or.inr (fun both => Or.inl both.2)
    · rintro (there | here)
      · have known := Finmap.mem_keys.mpr (Finmap.mem_of_lookup_eq_some there)
        rw [second, Finset.mem_singleton] at known
        rw [← Finmap.mem_keys, first, Finset.mem_singleton, known]
        exact Or.inr ⟨by decide, known ▸ there⟩
      · exact Or.inl here
  · intro node id known
    have only : id = if node then 11 else 12 := by
      have listed := Finmap.mem_keys.mpr known
      cases node
      · rw [second] at listed
        exact Finset.mem_singleton.mp listed
      · rw [first] at listed
        exact Finset.mem_singleton.mp listed
    rw [only]
    exact alive node

theorem twoNodesStart_disjoint : twoNodesStart.Disjoint := by
  have keys : ∀ node, (twoNodesStart.hubs node).connections.keys =
      {if node then 11 else 12} := by decide +kernel
  intro i j id here there
  rw [← Finmap.mem_keys, keys, Finset.mem_singleton] at here there
  rw [here] at there
  revert there
  cases i <;> cases j <;> decide

theorem cluster_refines_single_hub_news :
    twoNodesStart.enqueuedSince newsEnd = {(11, "news!!!"), (12, "news!!!")} := by
  have reach : twoNodes.Reachable twoNodesStart :=
    ⟨_, Machine.run_follow (fun _ _ _ => trivial) (by decide +kernel)⟩
  have run : (twoNodes.startingAt twoNodesStart).Run (Window newsCodec) newsRun newsEnd :=
    Machine.run_follow (fun _ _ => of_decide_eq_true) (by decide +kernel)
  have reachAlone : oneHub.Reachable oneHubStart :=
    ⟨_, Machine.run_follow (fun _ _ _ => trivial) (by decide +kernel)⟩
  have alone : (oneHub.startingAt oneHubStart).Run WsHub.Steady [.publish "news" (.ok 3)]
      oneHubEnd := Machine.run_follow (fun _ _ => of_decide_eq_true) (by decide +kernel)
  have idle : twoNodesStart.Quiet := ⟨by decide +kernel, by decide +kernel, by decide +kernel⟩
  have quiet : newsEnd.Quiet := ⟨by decide +kernel, by decide +kernel, by decide +kernel⟩
  rw [cluster_refines_single_hub (fun _ _ => newsCodec_toJson) (by decide) reach idle
    twoNodesStart_disjoint run quiet reachAlone twoNodesStart_heldBy alone (List.Perm.refl _)]
  decide +kernel

end News

end Cluster
end ApiBoilerplate
