import ApiBoilerplate.Ws.Trail

/-!
# The bridge delivers at most once

Frames may be lost at every station, but none is made up, doubled or overtaken,
and a frame that was received is never relayed again.
-/

namespace ApiBoilerplate

open Foundation

namespace Cluster
variable {ι Value : Type} [DecidableEq ι]

section Delivery
variable (codec : ClusterCodec Value) (encode : ServerMessage Value → Except WsError ByteString)
  (nodeId : ι → Uuid)

/-- Every frame in a relay queue, in the publisher's hands or on the channel is
the frame of one call on its origin, and no call is there twice. -/
structure StemsFromCalls (s : Cluster ι Value) (r : Trail ι Value) : Prop where
  queued : ∀ i, (s.hubs i).queued.map some = (r.waiting i).map (fun n => r.frame nodeId (i, n))
  publishing : ∀ i, (s.publishing i).map some = (r.held i).map (fun n => r.frame nodeId (i, n))
  inbox : ∀ i, (s.inbox i).map some = (r.inbox i).map (fun e =>
    (r.frame nodeId e).bind (fun f => (codec.toJson f).toOption))
  calls : ∀ i, ∀ n ∈ r.accepted i, ∃ op frame, (r.calls i)[n]? = some op ∧
    op.relayFrame (nodeId i) = some frame ∧ frame.node = nodeId i
  accepted : ∀ i, (r.accepted i).Nodup
  channel : ∀ i, (Trail.numbers i r.published ++ r.pending i).Sublist (r.accepted i)

/-- What a step enters in the trail is what it does: a hub is handed an event
when it posts that event's frame, and a number is accepted when the frame of the
call is put on the relay queue. -/
def Accounts (p q : Cluster ι Value × Trail ι Value) : ClusterLabel ι Value → Prop
  | .hub node op =>
    match op.relayFrame (nodeId node) with
    | none => q.2 = p.2 ∧ ∀ i, (q.1.hubs i).queued = (p.1.hubs i).queued
    | some frame => ∃ relay new,
      q.1.hubs = Function.update p.1.hubs node
        ({ p.1.hubs node with clusterTx := relay }.post encode
          frame.address frame.topic frame.payload) ∧
      (q.1.hubs node).queued = (p.1.hubs node).queued ++ new.map (fun _ => frame) ∧
      (∀ n ∈ new, n = (p.2.calls node).length) ∧
      q.2.calls = Function.update p.2.calls node (p.2.calls node ++ [op]) ∧
      q.2.accepted = Function.update p.2.accepted node (p.2.accepted node ++ new) ∧
      q.2.handed = Function.update p.2.handed node
        (p.2.handed node ++ [(node, (p.2.calls node).length)])
  | .onMessage node _ =>
    (∀ i, (q.1.hubs i).queued = (p.1.hubs i).queued) ∧
    q.2.calls = p.2.calls ∧ q.2.accepted = p.2.accepted ∧
    (q.1.hubs = p.1.hubs ∧ q.2.handed = p.2.handed ∨
      ∃ event frame, p.2.frame nodeId event = some frame ∧
        q.1.hubs = Function.update p.1.hubs node
          ((p.1.hubs node).post encode frame.address frame.topic frame.payload) ∧
        q.2.handed = Function.update p.2.handed node (p.2.handed node ++ [event]))
  | _ => q.2.calls = p.2.calls ∧ q.2.accepted = p.2.accepted ∧ q.2.handed = p.2.handed ∧
    ∀ i, (q.1.hubs i).queued <:+ (p.1.hubs i).queued

end Delivery

section Accounting
variable {codec : ClusterCodec Value} {encode : ServerMessage Value → Except WsError ByteString}
  {nodeId : ι → Uuid} {s t : Cluster ι Value} {r : Trail ι Value}

theorem hub_accounts (follows : Follows codec nodeId s r) {node : ι} {op : WsHub.Op Value}
    {h : WsHub Value} (own : op.isLocal = true) (hs : WsHub.step encode (s.hubs node) op = some h) :
    Accounts encode nodeId (s, r) (s.setHub node h, record codec s (.hub node op) r)
      (.hub node op) := by
  have queued := WsHub.step_queued own hs
  have hubHere : (s.setHub node h).hubs node = h := Function.update_self _ _ _
  rw [follows.identity node] at queued
  simp only [Accounts]
  cases framed : op.relayFrame (nodeId node) with
  | none =>
    have framed' : op.relayFrame (s.hubs node).nodeId = none := by rw [follows.identity, framed]
    refine ⟨by simp only [record, framed'], fun i => ?_⟩
    by_cases here : i = node
    · subst here
      rw [hubHere, queued, framed]
      simp
    · simp [setHub, here]
  | some frame =>
    have framed' : op.relayFrame (s.hubs node).nodeId = some frame := by
      rw [follows.identity, framed]
    obtain ⟨r', new, recorded, fresh, calls, handed, accepted, _, _, _, _⟩ :=
      record_call codec r framed'
    obtain ⟨relay, posted⟩ := WsHub.step_post hs (WsHub.Op.posting_of_relayFrame framed)
    refine ⟨relay, new, ?_, ?_, ?_, ?_, ?_, ?_⟩
    · rw [setHub, posted]
    · rw [hubHere, queued, fresh, framed]
      split <;> rfl
    · intro n hn
      rw [fresh] at hn
      split at hn
      · exact List.mem_singleton.mp hn
      · cases hn
    · rw [recorded, calls]
    · rw [recorded, accepted]
    · rw [recorded, handed]

theorem onMessage_accounts (roundTrip : RoundTrip codec) (follows : Follows codec nodeId s r)
    {node : ι} {position : Nat} {raw : String} (found : (s.inbox node)[position]? = some raw)
    {inbox : ι → List String} :
    Accounts encode nodeId (s, r)
      ({ s.setHub node (receiveMessage codec encode (s.hubs node) raw) with inbox := inbox },
        record codec s (.onMessage node position) r) (.onMessage node position) := by
  obtain ⟨event, frame, listed, framed, _, json⟩ := inbox_event follows found
  have posted := receiveMessage_frame encode roundTrip json (s.hubs node)
  refine ⟨fun i => ?_, ?_, ?_, ?_⟩
  · by_cases here : i = node
    · subst here
      simp [setHub, receiveMessage_queued]
    · simp [setHub, here]
  · simp only [record, found, listed]
    split <;> rfl
  · simp only [record, found, listed]
    split <;> rfl
  · by_cases dispatched : dispatches codec (s.hubs node) raw
    · rw [if_pos dispatched] at posted
      refine Or.inr ⟨event, frame, framed, ?_, ?_⟩
      · rw [setHub, posted]
      · simp only [record, found, listed, if_pos dispatched]
    · rw [if_neg dispatched] at posted
      refine Or.inl ⟨?_, ?_⟩
      · rw [setHub, posted, Function.update_eq_self]
      · simp only [record, found, listed, if_neg dispatched]

theorem step_accounts (roundTrip : RoundTrip codec) {l : ClusterLabel ι Value}
    (follows : Follows codec nodeId s r) (hs : step codec encode s l = some t) :
    Accounts encode nodeId (s, r) (t, record codec s l r) l := by
  cases step_move hs with
  | hub own stepped => exact hub_accounts follows own stepped
  | @recv node tx tx' frame idle relay taken =>
    refine ⟨rfl, rfl, rfl, fun i => ?_⟩
    by_cases here : i = node
    · subst here
      simp [setHub, setPublishing, WsHub.queued, relay, (Mpsc.recv_some taken).1]
    · simp [setHub, setPublishing, here]
  | publish _ =>
    refine ⟨?_, ?_, ?_, fun i => by rw [publishFrame_hubs]⟩ <;>
    · simp only [record]
      split <;> rfl
  | unavailable | subscribe | disconnect =>
    exact ⟨rfl, rfl, rfl, fun i => List.suffix_refl _⟩
  | onMessage found => exact onMessage_accounts roundTrip follows found

theorem reachable_follows (roundTrip : RoundTrip codec) {config : ι → WebSocketConfig}
    {p : Cluster ι Value × Trail ι Value}
    (reach : (traced codec encode nodeId config).ReachableWhere InOrder p) :
    Follows codec nodeId p.1 p.2 := by
  refine (reach.recording (I := Follows codec nodeId) (follows_empty encode config) ?_).2
  intro s r l t _ follows inOrder stepped
  exact step_follows roundTrip follows inOrder stepped

theorem Follows.stems (follows : Follows codec nodeId s r) : StemsFromCalls codec nodeId s r where
  queued := follows.queued
  publishing := follows.publishing
  inbox := follows.inbox
  calls := by
    intro i n accepted
    have called : (r.calls i)[n]? = some ((r.calls i).get ⟨n, follows.known i n accepted⟩) :=
      List.getElem?_eq_getElem _
    obtain ⟨frame, framed⟩ := follows.framed i _ (List.mem_of_getElem? called)
    exact ⟨_, frame, called, framed, WsHub.Op.relayFrame_node framed⟩
  accepted := fun i => (follows.increasing i).imp Nat.ne_of_lt
  channel := follows.channel

theorem Follows.own_once (follows : Follows codec nodeId s r) {i : ι} {n : Nat}
    (called : n < (r.calls i).length) : (r.handed i).count (i, n) = 1 := by
  rw [Trail.numbers_count, follows.own]
  exact List.count_eq_one_of_mem List.nodup_range (List.mem_range.mpr called)

theorem Follows.in_order (follows : Follows codec nodeId s r) {i j : ι} (different : i ≠ j) :
    (Trail.numbers i (r.handed j)).Sublist (r.accepted i) :=
  (List.sublist_append_left _ _).trans (follows.flow i j different)

theorem Follows.others_at_most_once (follows : Follows codec nodeId s r) {i j : ι}
    (different : i ≠ j) (n : Nat) : (r.handed j).count (i, n) ≤ 1 := by
  rw [Trail.numbers_count]
  have once := ((follows.increasing i).imp Nat.ne_of_lt).sublist (follows.in_order different)
  exact List.nodup_iff_count_le_one.mp once n

end Accounting

/-- The bridge is loop-free and delivers at most once, whatever is lost. -/
theorem bridge_delivers_at_most_once {codec : ClusterCodec Value}
    {encode : ServerMessage Value → Except WsError ByteString} {nodeId : ι → Uuid}
    {config : ι → WebSocketConfig} (roundTrip : RoundTrip codec)
    {p : Cluster ι Value × Trail ι Value}
    (reach : (traced codec encode nodeId config).ReachableWhere InOrder p) :
    StemsFromCalls codec nodeId p.1 p.2 ∧
    (∀ l q, (traced codec encode nodeId config).step p l = some q →
      Accounts encode nodeId p q l) ∧
    (∀ i, ∀ n < (p.2.calls i).length, (p.2.handed i).count (i, n) = 1) ∧
    (∀ i j, i ≠ j → ∀ n, (p.2.handed j).count (i, n) ≤ 1) ∧
    ∀ i j, i ≠ j → (Trail.numbers i (p.2.handed j)).Sublist (p.2.accepted i) := by
  have follows := reachable_follows roundTrip reach
  refine ⟨follows.stems, ?_, ?_, ?_, ?_⟩
  · intro l q hs
    obtain ⟨stepped, recorded⟩ := Machine.recording_step.mp hs
    have accounts := step_accounts roundTrip follows stepped
    rw [recorded] at accounts
    exact accounts
  · exact fun i n called => follows.own_once called
  · exact fun i j different n => follows.others_at_most_once different n
  · exact fun i j different => follows.in_order different

/-- One publish, posted by the other instance, and ignored by its own. -/
def newsTrail : Cluster Bool Nat × Trail Bool Nat :=
  (traced newsCodec WsHub.plainFrame (fun node => if node then 1 else 2)
    (fun _ => ⟨0, 0, 10⟩)).follow
    (fun p l => decide (InOrder p l))
    [.subscribe true, .subscribe false, .hub true (.publish "news" (.ok 3)), .recv true,
      .publish true, .onMessage true 0, .onMessage false 0]

theorem bridge_delivers_at_most_once_news :
    newsTrail.2.handed true = [(true, 0)] ∧ newsTrail.2.handed false = [(true, 0)] ∧
    (Trail.numbers true (newsTrail.2.handed false)).Sublist (newsTrail.2.accepted true) := by
  have roundTrip : RoundTrip newsCodec := by
    intro frame raw read written parsed
    rw [newsCodec_toJson written] at parsed
    exact (Except.ok.inj parsed).symm
  have run : (traced newsCodec WsHub.plainFrame (fun node => if node then 1 else 2)
      (fun _ => ⟨0, 0, 10⟩)).ReachableWhere InOrder newsTrail :=
    ⟨_, Machine.run_follow (fun _ _ => of_decide_eq_true) (by decide +kernel)⟩
  refine ⟨by decide +kernel, by decide +kernel, ?_⟩
  exact (bridge_delivers_at_most_once roundTrip run).2.2.2.2 true false (by decide)

end Cluster
end ApiBoilerplate
