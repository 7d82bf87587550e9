import ApiBoilerplate.Ws.HubIndex

/-!
# A live connection never has a gap

Along a run of whole operations each connection is addressed a sequence of
frames, whichever of the addressing modes they come by. A connection that is
still served has received or still holds all of them; one that was evicted for
being slow has received or still holds those before the first that found its
queue full.
-/

namespace ApiBoilerplate

open Foundation

/-- A frame addressed to a connection, and whether it found the queue full. -/
structure Addressed where
  frame : ByteString
  full : Bool
  deriving DecidableEq

def frames (seq : List Addressed) : List ByteString := seq.map Addressed.frame

def beforeFull (seq : List Addressed) : List Addressed := seq.takeWhile (fun a => !a.full)

/-- Some frame found the queue full, which is what a connection is evicted for. -/
def MetFull (seq : List Addressed) : Prop := ∃ a ∈ seq, a.full = true

theorem frames_append (seq rest : List Addressed) :
    frames (seq ++ rest) = frames seq ++ frames rest := by
  simp [frames]

theorem metFull_append (seq rest : List Addressed) :
    MetFull (seq ++ rest) ↔ MetFull seq ∨ MetFull rest := by
  simp [MetFull, or_and_right, exists_or]

/-- Frames that all found room are before the first that did not. -/
theorem beforeFull_append {seq : List Addressed} (room : ¬ MetFull seq) (rest : List Addressed) :
    beforeFull (seq ++ rest) = seq ++ beforeFull rest := by
  have all : ∀ a ∈ seq, (!a.full) = true := by
    intro a ha
    simpa using fun full => room ⟨a, ha, full⟩
  rw [beforeFull, List.takeWhile_append_of_pos all]
  rfl

namespace WsHub
variable {Value : Type}

def queueFull (h : WsHub Value) (id : ConnectionId) : Bool :=
  (h.channels.lookup id).any (fun tx => decide tx.IsFull)

section Addressing
variable (encode : ServerMessage Value → Except WsError ByteString)

/-- What an operation addresses to `id`: the frame of its post, when `id` is
registered and the address covers it. -/
def addressedBy (id : ConnectionId) (h : WsHub Value) (op : Op Value) : List Addressed :=
  match op.posting with
  | none => []
  | some (addr, topic, value) =>
    match eventFrame encode topic value with
    | .error _ => []
    | .ok frame => if h.hears addr id then [⟨frame, h.queueFull id⟩] else []

/-- Everything addressed to `id` along a run, oldest first. Ids are fresh, so
none of it is older than the registration of `id`. -/
def addressed (nodeId : Uuid) (config : WebSocketConfig)
    (clusterTx : Option (Mpsc (ClusterFrame Value))) (ops : List (Op Value))
    (id : ConnectionId) : List Addressed :=
  (machine encode nodeId config clusterTx).notes (addressedBy encode id)
    (new nodeId config clusterTx) ops

end Addressing

/-- What holds of connection `id` once `seq` was addressed to it. A session that
dropped its receiver is promised nothing more until it is unregistered. -/
structure Gapless (config : WebSocketConfig) (id : ConnectionId) (seq : List Addressed)
    (h : WsHub Value) : Prop where
  configured : h.config = config
  unopened : id ∉ h.channels → seq = []
  capacity : ∀ rx, h.channels.lookup id = some rx → rx.capacity = max config.sendBuffer 1
  live : ∀ rx, h.channels.lookup id = some rx → id ∈ h.connections → rx.rxAlive = true →
    rx.sent = frames seq
  gone : MetFull seq → id ∉ h.connections
  cut : ∀ rx, h.channels.lookup id = some rx → MetFull seq → rx.sent = frames (beforeFull seq)

section Steps
variable {config : WebSocketConfig} {id : ConnectionId} {seq : List Addressed} {h g : WsHub Value}

/-- Whatever leaves the channel alone and registers nothing keeps the promise. -/
theorem Gapless.frame (hg : Gapless config id seq h) (same : g.config = h.config)
    (channels : g.channels.lookup id = h.channels.lookup id)
    (registered : id ∈ g.connections → id ∈ h.connections) : Gapless config id seq g := by
  have opened : id ∈ h.channels → id ∈ g.channels := by
    rw [← Finmap.lookup_isSome, ← Finmap.lookup_isSome, channels]
    exact fun known => known
  constructor
  · rw [same]
    exact hg.configured
  · exact fun unopened => hg.unopened (fun known => unopened (opened known))
  · rw [channels]
    exact hg.capacity
  · rw [channels]
    exact fun rx lookup known => hg.live rx lookup (registered known)
  · exact fun full known => hg.gone full (registered known)
  · rw [channels]
    exact hg.cut

theorem new_gapless (nodeId : Uuid) (config : WebSocketConfig)
    (clusterTx : Option (Mpsc (ClusterFrame Value))) (id : ConnectionId) :
    Gapless config id [] (new nodeId config clusterTx) := by
  constructor
  · rfl
  · exact fun _ => rfl
  · simp [new]
  · simp [new]
  · simp [MetFull]
  · simp [new]

theorem connectionsInsert_gapless (hg : Gapless config id seq h) {k : ConnectionId}
    (fresh : k ∉ h.channels) (userId : Option Uuid) (now : DateTime) :
    Gapless config id seq (h.connectionsInsert k userId now) := by
  by_cases same : id = k
  · subst same
    have nothing : seq = [] := hg.unopened fresh
    subst nothing
    have opened : ∀ rx, (h.connectionsInsert id userId now).channels.lookup id = some rx →
        rx = Mpsc.channel (max config.sendBuffer 1) := by
      intro rx lookup
      rw [connectionsInsert, hg.configured] at lookup
      exact (Option.some.inj ((Finmap.lookup_insert _).symm.trans lookup)).symm
    constructor
    · exact hg.configured
    · exact fun _ => rfl
    · intro rx lookup
      rw [opened rx lookup]
      rfl
    · intro rx lookup _ _
      rw [opened rx lookup]
      rfl
    · simp [MetFull]
    · simp [MetFull]
  · refine hg.frame rfl (Finmap.lookup_insert_of_ne _ same) ?_
    intro known
    simpa [connectionsInsert, same] using known

theorem register_gapless (hg : Gapless config id seq h) {k : ConnectionId}
    (fresh : k ∉ h.channels) (userId : Option Uuid) (now : DateTime) :
    Gapless config id seq (h.register k userId now).2 := by
  have inserted := connectionsInsert_gapless hg fresh userId now
  rw [register]
  split
  · exact hg
  · cases userId with
    | none => exact inserted
    | some u => exact inserted.frame rfl rfl (fun known => known)

theorem unregister_gapless (hg : Gapless config id seq h) (k : ConnectionId) :
    Gapless config id seq (h.unregister k) := by
  refine hg.frame (unregister_config h k) (by rw [unregister_channels]) ?_
  rw [← Finmap.lookup_isSome, ← Finmap.lookup_isSome, lookup_unregister]
  split
  · simp
  · exact fun known => known

theorem subscribe_gapless (hg : Gapless config id seq h) (k : ConnectionId) (topic : Topic) :
    Gapless config id seq (h.subscribe k topic).2 := by
  rcases h.subscribe_cases k topic with same | ⟨conn, lookup, same⟩
  · rw [same]
    exact hg
  · have known := Finmap.mem_of_lookup_eq_some lookup
    rw [same]
    refine hg.frame rfl rfl ?_
    intro listed
    have either : id = k ∨ id ∈ h.connections := by simpa using listed
    exact either.elim (fun same => same ▸ known) (fun old => old)

theorem unsubscribe_gapless (hg : Gapless config id seq h) (k : ConnectionId) (topic : Topic) :
    Gapless config id seq (h.unsubscribe k topic) := by
  rcases h.unsubscribe_cases k topic with ⟨_, same⟩ | ⟨conn, lookup, same⟩
  · rw [same]
    exact hg.frame rfl rfl (fun known => known)
  · have known := Finmap.mem_of_lookup_eq_some lookup
    rw [same]
    refine hg.frame rfl rfl ?_
    intro listed
    have either : id = k ∨ id ∈ h.connections := by simpa using listed
    exact either.elim (fun same => same ▸ known) (fun old => old)

theorem receiver_gapless (hg : Gapless config id seq h) {k : ConnectionId}
    {rx rx' : Mpsc ByteString} (lookup : h.channels.lookup k = some rx)
    (moved : ReceiverMove rx rx') :
    Gapless config id seq { h with channels := h.channels.insert k rx' } := by
  by_cases same : id = k
  · subst same
    have kept : rx'.sent = rx.sent ∧ rx'.capacity = rx.capacity ∧
        (rx'.rxAlive = true → rx.rxAlive = true) := by
      cases moved with
      | recv alive taken =>
        obtain ⟨_, _, capacity, _⟩ := Mpsc.recv_some taken
        exact ⟨Mpsc.recv_sent taken, capacity, fun _ => alive⟩
      | drop => exact ⟨rfl, rfl, fun alive => nomatch alive⟩
    obtain ⟨sent, capacity, alive⟩ := kept
    have now : ∀ tx, (h.channels.insert id rx').lookup id = some tx → tx = rx' := by
      intro tx found
      exact (Option.some.inj ((Finmap.lookup_insert _).symm.trans found)).symm
    constructor
    · exact hg.configured
    · exact fun unopened => absurd (Finmap.mem_insert.mpr (Or.inl rfl)) unopened
    · intro tx found
      rw [now tx found, capacity]
      exact hg.capacity rx lookup
    · intro tx found known live
      obtain rfl := now tx found
      rw [sent]
      exact hg.live rx lookup known (alive live)
    · exact hg.gone
    · intro tx found full
      rw [now tx found, sent]
      exact hg.cut rx lookup full
  · exact hg.frame rfl (Finmap.lookup_insert_of_ne _ same) (fun known => known)

theorem queueFull_iff {rx : Mpsc ByteString} (lookup : h.channels.lookup id = some rx) :
    h.queueFull id = true ↔ rx.IsFull := by
  simp [queueFull, lookup]

/-- A frame offered to a connection that hears it is queued, unless the queue is
full; then the connection goes. -/
theorem deliver_gapless (hg : Gapless config id seq h) {ids : Finset ConnectionId}
    (audience : id ∈ ids) (known : id ∈ h.connections) {rx : Mpsc ByteString}
    (lookup : h.channels.lookup id = some rx) (frame : ByteString) :
    Gapless config id (seq ++ [⟨frame, h.queueFull id⟩]) (h.deliver ids frame).2 := by
  have served : ¬ MetFull seq := fun full => hg.gone full known
  have now : (h.deliver ids frame).2.channels.lookup id = some (rx.offered frame) := by
    rw [deliver_lookup_channels, if_pos ⟨audience, known⟩, lookup]
    rfl
  have met : MetFull (seq ++ [⟨frame, h.queueFull id⟩]) ↔ rx.IsFull := by
    rw [metFull_append, or_iff_right served, ← queueFull_iff lookup]
    simp [MetFull]
  constructor
  · rw [deliver_config]
    exact hg.configured
  · intro unopened
    exact absurd (Finmap.mem_of_lookup_eq_some now) unopened
  · intro tx found
    obtain rfl := Option.some.inj (now.symm.trans found)
    rw [Mpsc.offered_capacity]
    exact hg.capacity rx lookup
  · intro tx found still alive
    obtain rfl := Option.some.inj (now.symm.trans found)
    rw [Mpsc.offered_rxAlive] at alive
    obtain ⟨conn, kept⟩ := Finmap.mem_iff.mp still
    have keepsUp := ((deliver_evicts_iff h ids frame id conn).mp kept).2
    have room : rx.HasRoom := by
      refine ⟨alive, Nat.lt_of_not_le ?_⟩
      exact fun full => keepsUp ⟨audience, known, rx, lookup, alive, full⟩
    rw [Mpsc.offered_sent, if_pos room, hg.live rx lookup known alive, frames_append]
    rfl
  · intro full still
    obtain ⟨conn, kept⟩ := Finmap.mem_iff.mp still
    exact ((deliver_evicts_iff h ids frame id conn).mp kept).2
      ⟨audience, known, rx, lookup, met.mp full⟩
  · intro tx found full
    obtain rfl := Option.some.inj (now.symm.trans found)
    have stalled := met.mp full
    have refused : ¬ rx.HasRoom := fun room => absurd room.2 (Nat.not_lt.mpr stalled.2)
    have last : beforeFull [⟨frame, h.queueFull id⟩] = [] := by
      simp [beforeFull, (queueFull_iff lookup).mpr stalled]
    rw [Mpsc.offered_sent, if_neg refused, hg.live rx lookup known stalled.1,
      beforeFull_append served, last, List.append_nil]

/-- A frame not meant for `id` leaves it alone. -/
theorem deliver_gapless_other (hg : Gapless config id seq h) {ids : Finset ConnectionId}
    (other : ¬ (id ∈ ids ∧ id ∈ h.connections)) (frame : ByteString) :
    Gapless config id seq (h.deliver ids frame).2 := by
  refine hg.frame (deliver_config h ids frame) ?_ ?_
  · rw [deliver_lookup_channels, if_neg other]
  · intro still
    obtain ⟨conn, kept⟩ := Finmap.mem_iff.mp still
    exact Finmap.mem_of_lookup_eq_some ((deliver_evicts_iff h ids frame id conn).mp kept).1

end Steps

section Runs
variable {encode : ServerMessage Value → Except WsError ByteString} {nodeId : Uuid}
  {config : WebSocketConfig} {clusterTx : Option (Mpsc (ClusterFrame Value))}

theorem post_gapless {h : WsHub Value} {id : ConnectionId} {seq : List Addressed}
    (hg : Gapless config id seq h) (settled : h.Settled) {op : Op Value} {addr : Address}
    {topic : Topic} {value : Value} (posting : op.posting = some (addr, topic, value)) :
    Gapless config id (seq ++ addressedBy encode id h op) (h.post encode addr topic value) := by
  have resolves := settled.mem_audience_iff addr id
  rw [post, addressedBy, posting]
  dsimp only
  cases eventFrame encode topic value with
  | error e => simpa using hg
  | ok frame =>
    dsimp only
    split
    · rename_i heard
      obtain ⟨audience, known⟩ := resolves.mpr heard
      obtain ⟨rx, lookup⟩ := Finmap.mem_iff.mp (settled.opened id known)
      exact deliver_gapless hg audience known lookup frame
    · rename_i unheard
      simpa using deliver_gapless_other hg (fun reached => unheard (resolves.mp reached)) frame

theorem step_gapless {h h' : WsHub Value} {id : ConnectionId} {seq : List Addressed}
    {op : Op Value} (hs : step encode h op = some h') (settled : h.Settled)
    (hg : Gapless config id seq h) :
    Gapless config id (seq ++ addressedBy encode id h op) h' := by
  have silent : op.posting = none → seq ++ addressedBy encode id h op = seq := by
    intro none
    simp [addressedBy, none]
  cases step_move hs with
  | register fresh =>
    rw [silent rfl]
    exact register_gapless hg fresh _ _
  | unregister =>
    rw [silent rfl]
    exact unregister_gapless hg _
  | subscribe =>
    rw [silent rfl]
    exact subscribe_gapless hg _ _
  | unsubscribe =>
    rw [silent rfl]
    exact unsubscribe_gapless hg _ _
  | @post _ _ _ _ r posting =>
    have relayed : Gapless config id seq { h with clusterTx := r } :=
      hg.frame rfl rfl (fun known => known)
    exact post_gapless relayed ⟨settled.toIndexConsistent.congr rfl rfl rfl, settled.opened⟩ posting
  | refused posting =>
    rw [silent posting]
    exact hg
  | relay =>
    rw [silent rfl]
    exact hg.frame rfl rfl (fun known => known)
  | drain lookup alive taken =>
    rw [silent rfl]
    exact receiver_gapless hg lookup (.recv alive taken)
  | dropReceiver lookup =>
    rw [silent rfl]
    exact receiver_gapless hg lookup .drop

theorem run_gapless {C : WsHub Value → Op Value → Prop} {ops : List (Op Value)}
    {h : WsHub Value} (run : (machine encode nodeId config clusterTx).Run C ops h)
    (id : ConnectionId) :
    h.Settled ∧ Gapless config id (addressed encode nodeId config clusterTx ops id) h := by
  refine run.noted (I := fun seq h => h.Settled ∧ Gapless config id seq h) ?_ ?_
  · exact ⟨new_settled nodeId config clusterTx, new_gapless nodeId config clusterTx id⟩
  · rintro seq h op h' ⟨settled, hg⟩ _ hs
    exact ⟨step_settled hs settled, step_gapless hs settled hg⟩

/-- While a connection is registered and its session listens, what the session
has taken followed by what is queued is everything addressed to it. Its queue is
bounded, and once a frame found that queue full the connection is gone and
nothing from that frame on reached the queue. -/
theorem live_connection_has_no_gap {C : WsHub Value → Op Value → Prop} {ops : List (Op Value)}
    {h : WsHub Value} (run : (machine encode nodeId config clusterTx).Run C ops h)
    {id : ConnectionId} {rx : Mpsc ByteString} (lookup : h.channels.lookup id = some rx) :
    (id ∈ h.connections → rx.rxAlive = true →
      rx.taken ++ rx.queue = frames (addressed encode nodeId config clusterTx ops id)) ∧
    rx.queue.length ≤ max 1 config.sendBuffer ∧
    (MetFull (addressed encode nodeId config clusterTx ops id) →
      id ∉ h.connections ∧ rx.taken ++ rx.queue =
        frames (beforeFull (addressed encode nodeId config clusterTx ops id))) := by
  obtain ⟨_, hg⟩ := run_gapless run id
  refine ⟨hg.live rx lookup, ?_, fun full => ⟨hg.gone full, hg.cut rx lookup full⟩⟩
  have bounded := rx.bounded
  have capacity := hg.capacity rx lookup
  omega

end Runs

/-- The second frame evicts connection 1 and reaches connection 2. -/
theorem live_connection_has_no_gap_slowClient :
    ∃ (h : WsHub Nat) (slow fast : Mpsc ByteString),
      h.channels.lookup (1 : Uuid) = some slow ∧ (1 : Uuid) ∉ h.connections ∧
      slow.taken ++ slow.queue = ["firehose!"] ∧
      h.channels.lookup (2 : Uuid) = some fast ∧ fast.queue.length ≤ 1 ∧
      fast.taken ++ fast.queue = ["firehose!", "firehose!!"] := by
  have toSlow : addressed plainFrame 9 ⟨0, 0, 1⟩ none slowClientRun 1 =
      [⟨"firehose!", false⟩, ⟨"firehose!!", true⟩] := by decide
  have toFast : addressed plainFrame 9 ⟨0, 0, 1⟩ none slowClientRun 2 =
      [⟨"firehose!", false⟩, ⟨"firehose!!", false⟩] := by decide
  obtain ⟨h, run, passed⟩ := Machine.exists_run
    (M := machine plainFrame 9 ⟨0, 0, 1⟩ none)
    (p := fun h => decide ((1 : Uuid) ∈ h.channels ∧ (2 : Uuid) ∈ h.connections) &&
      (h.channels.lookup (2 : Uuid)).any Mpsc.rxAlive) slowClientRun (by decide)
  obtain ⟨opened, alive⟩ := Bool.and_eq_true_iff.mp passed
  obtain ⟨hasSlow, known⟩ := of_decide_eq_true opened
  obtain ⟨slow, slowLookup⟩ := Finmap.mem_iff.mp hasSlow
  cases fastLookup : h.channels.lookup (2 : Uuid) with
  | none =>
    rw [fastLookup] at alive
    cases alive
  | some fast =>
    have listens : fast.rxAlive = true := by
      rw [fastLookup] at alive
      exact alive
    obtain ⟨_, _, evicted⟩ := live_connection_has_no_gap run slowLookup
    obtain ⟨live, bounded, _⟩ := live_connection_has_no_gap run fastLookup
    rw [toSlow] at evicted
    rw [toFast] at live
    obtain ⟨gone, cut⟩ := evicted ⟨⟨"firehose!!", true⟩, by simp, rfl⟩
    exact ⟨h, slow, fast, slowLookup, gone, cut, fastLookup, bounded, live known listens⟩

end WsHub
end ApiBoilerplate
