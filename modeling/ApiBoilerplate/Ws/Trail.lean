import ApiBoilerplate.Ws.Cluster

/-!
# The trail of an event across the bridge

A trail is kept beside the cluster: each publishing call is numbered on the
instance that made it, and the numbers are followed through the relay queue, the
publisher, the channel and the inboxes to the hubs that post the event. Every
step of the cluster keeps the numbers and the frames together.
-/

namespace ApiBoilerplate

open Foundation

/-- An event, by the instance that published it and the number of the call. -/
abbrev EventId (ι : Type) := ι × Nat

structure Trail (ι Value : Type) where
  /-- The publishing calls made on each instance. -/
  calls : ι → List (WsHub.Op Value)
  /-- The numbers the relay queue accepted. -/
  accepted : ι → List Nat
  waiting : ι → List Nat
  held : ι → Option Nat
  published : List (EventId ι)
  inbox : ι → List (EventId ι)
  /-- The events the hub of an instance was told to post to its connections. -/
  handed : ι → List (EventId ι)

namespace Trail
variable {ι Value : Type}

def empty : Trail ι Value where
  calls := fun _ => []
  accepted := fun _ => []
  waiting := fun _ => []
  held := fun _ => none
  published := []
  inbox := fun _ => []
  handed := fun _ => []

/-- The frame that the call of an event relays. -/
def frame (nodeId : ι → Uuid) (r : Trail ι Value) (event : EventId ι) :
    Option (ClusterFrame Value) :=
  ((r.calls event.1)[event.2]?).bind (fun op => op.relayFrame (nodeId event.1))

variable [DecidableEq ι]

/-- The numbers of the events of `node` in a list. -/
def numbers (node : ι) (events : List (EventId ι)) : List Nat :=
  (events.filter (fun e => e.1 = node)).map Prod.snd

@[simp] theorem numbers_append (node : ι) (a b : List (EventId ι)) :
    numbers node (a ++ b) = numbers node a ++ numbers node b := by
  simp [numbers]

@[simp] theorem numbers_self (node : ι) (n : Nat) : numbers node [(node, n)] = [n] := by
  simp [numbers]

theorem numbers_other {node other : ι} (different : other ≠ node) (n : Nat) :
    numbers node [(other, n)] = [] := by
  simp [numbers, different]

theorem numbers_count (node : ι) (n : Nat) (events : List (EventId ι)) :
    events.count (node, n) = (numbers node events).count n := by
  induction events with
  | nil => rfl
  | cons e events ih =>
    obtain ⟨origin, m⟩ := e
    by_cases same : origin = node
    · subst same
      have step : numbers origin ((origin, m) :: events) = m :: numbers origin events := by
        simp [numbers]
      rw [step, List.count_cons, List.count_cons, ih]
      simp
    · have step : numbers node ((origin, m) :: events) = numbers node events := by
        simp [numbers, same]
      rw [step, List.count_cons, ih]
      simp [same]

/-- The numbers that `publish_loop` and the relay queue hold. -/
def pending (r : Trail ι Value) (node : ι) : List Nat := (r.held node).toList ++ r.waiting node

/-- The numbers of `origin` that are still on their way to `peer`. -/
def transit (r : Trail ι Value) (origin peer : ι) : List Nat :=
  numbers origin (r.inbox peer) ++ r.pending origin

/-- Taking out the first event of its origin leaves the others in order. -/
theorem numbers_eraseIdx {events : List (EventId ι)} {k : Nat} {event : EventId ι}
    (found : events[k]? = some event)
    (first : ∀ j < k, (events[j]?).map Prod.fst ≠ some event.1) (node : ι) :
    numbers node events =
      (if event.1 = node then [event.2] else []) ++ numbers node (events.eraseIdx k) := by
  induction events generalizing k with
  | nil => cases found
  | cons e events ih =>
    cases k with
    | zero =>
      obtain rfl : e = event := Option.some.inj found
      by_cases same : e.1 = node <;> simp [numbers, same]
    | succ k =>
      have other : e.1 ≠ event.1 := by
        have := first 0 (Nat.zero_lt_succ k)
        simpa using this
      have rest := ih (k := k) found (fun j hj => first (j + 1) (Nat.succ_lt_succ hj))
      by_cases here : e.1 = node
      · have away : event.1 ≠ node := fun same => other (here.trans same.symm)
        rw [if_neg away, List.nil_append] at rest ⊢
        simp only [numbers, List.eraseIdx_cons_succ, List.filter_cons, here, decide_true,
          if_true, List.map_cons] at rest ⊢
        rw [rest]
      · have dropped : ∀ l, numbers node (e :: l) = numbers node l := by
          intro l
          simp [numbers, here]
        rw [List.eraseIdx_cons_succ, dropped, dropped, rest]

end Trail

namespace Cluster
variable {ι Value : Type} [DecidableEq ι]

/-- Whether `run_subscriber` hands a message to the hub. -/
def dispatches (codec : ClusterCodec Value) (h : WsHub Value) (raw : String) : Bool :=
  match codec.fromJson raw with
  | .error _ => false
  | .ok frame => frame.node ≠ h.nodeId

theorem receiveMessage_ignored {codec : ClusterCodec Value}
    {encode : ServerMessage Value → Except WsError ByteString} {h : WsHub Value} {raw : String}
    (ignored : dispatches codec h raw = false) : receiveMessage codec encode h raw = h := by
  rw [dispatches] at ignored
  rw [receiveMessage]
  cases parsed : codec.fromJson raw with
  | error e => rfl
  | ok frame =>
    rw [parsed] at ignored
    exact if_pos (by simpa using ignored)

section Record
variable (codec : ClusterCodec Value)

/-- What a step adds to the trail. -/
def record (s : Cluster ι Value) (l : ClusterLabel ι Value) (r : Trail ι Value) :
    Trail ι Value :=
  match l with
  | .hub node op =>
    match op.relayFrame (s.hubs node).nodeId with
    | none => r
    | some _ =>
      let n := (r.calls node).length
      let called := { r with
        calls := Function.update r.calls node (r.calls node ++ [op])
        handed := Function.update r.handed node (r.handed node ++ [(node, n)]) }
      if (s.hubs node).relays then
        { called with
          accepted := Function.update r.accepted node (r.accepted node ++ [n])
          waiting := Function.update r.waiting node (r.waiting node ++ [n]) }
      else called
  | .recv node =>
    { r with
      waiting := Function.update r.waiting node (r.waiting node).tail
      held := Function.update r.held node (r.waiting node).head? }
  | .publish node =>
    let idle := { r with held := Function.update r.held node none }
    match (s.publishing node).map codec.toJson, r.held node with
    | some (.ok _), some n =>
      { idle with
        published := r.published ++ [(node, n)]
        inbox := fun peer =>
          if s.subscribed peer then r.inbox peer ++ [(node, n)] else r.inbox peer }
    | _, _ => idle
  | .unavailable node => { r with held := Function.update r.held node none }
  | .subscribe _ => r
  | .disconnect node => { r with inbox := Function.update r.inbox node [] }
  | .onMessage node position =>
    let read := { r with
      inbox := Function.update r.inbox node ((r.inbox node).eraseIdx position) }
    match (s.inbox node)[position]?, (r.inbox node)[position]? with
    | some raw, some event =>
      if dispatches codec (s.hubs node) raw then
        { read with handed := Function.update r.handed node (r.handed node ++ [event]) }
      else read
    | _, _ => read

/-- The cluster with its trail. -/
def traced (encode : ServerMessage Value → Except WsError ByteString) (nodeId : ι → Uuid)
    (config : ι → WebSocketConfig) : Machine (Cluster ι Value × Trail ι Value)
      (ClusterLabel ι Value) :=
  (machine codec encode nodeId config).recording .empty (record codec)

end Record

/-- Redis keeps the messages of one publisher in order. -/
def InOrder (p : Cluster ι Value × Trail ι Value) : ClusterLabel ι Value → Prop
  | .onMessage node position => ∀ earlier < position,
    ((p.2.inbox node)[earlier]?).map Prod.fst ≠ ((p.2.inbox node)[position]?).map Prod.fst
  | _ => True

instance (p : Cluster ι Value × Trail ι Value) (l : ClusterLabel ι Value) :
    Decidable (InOrder p l) :=
  match l with
  | .onMessage node position => inferInstanceAs (Decidable (∀ earlier < position,
      ((p.2.inbox node)[earlier]?).map Prod.fst ≠ ((p.2.inbox node)[position]?).map Prod.fst))
  | .hub .. | .recv _ | .publish _ | .unavailable _ | .subscribe _ | .disconnect _ =>
    .isTrue trivial

/-- The trail names the frame at every station, and every station holds numbers
in the order in which the relay queue accepted them. -/
structure Follows (codec : ClusterCodec Value) (nodeId : ι → Uuid) (s : Cluster ι Value)
    (r : Trail ι Value) : Prop where
  identity : ∀ i, (s.hubs i).nodeId = nodeId i
  queued : ∀ i, (s.hubs i).queued.map some = (r.waiting i).map (fun n => r.frame nodeId (i, n))
  publishing : ∀ i, (s.publishing i).map some = (r.held i).map (fun n => r.frame nodeId (i, n))
  inbox : ∀ i, (s.inbox i).map some = (r.inbox i).map (fun e =>
    (r.frame nodeId e).bind (fun f => (codec.toJson f).toOption))
  framed : ∀ i, ∀ op ∈ r.calls i, ∃ frame, op.relayFrame (nodeId i) = some frame
  increasing : ∀ i, (r.accepted i).Pairwise (· < ·)
  known : ∀ i, ∀ n ∈ r.accepted i, n < (r.calls i).length
  channel : ∀ i, (Trail.numbers i r.published ++ r.pending i).Sublist (r.accepted i)
  own : ∀ i, Trail.numbers i (r.handed i) = List.range (r.calls i).length
  /-- What an instance posted of another one's events, then what may still reach it. -/
  flow : ∀ i j, i ≠ j →
    (Trail.numbers i (r.handed j) ++ r.transit i j).Sublist (r.accepted i)

section Steps
variable {codec : ClusterCodec Value} {encode : ServerMessage Value → Except WsError ByteString}
  {nodeId : ι → Uuid} {s t : Cluster ι Value} {r : Trail ι Value}

variable (encode) in
theorem follows_empty (config : ι → WebSocketConfig) :
    Follows codec nodeId (machine codec encode nodeId config).init .empty := by
  constructor
  · exact fun _ => rfl
  · exact fun _ => rfl
  · exact fun _ => rfl
  · exact fun _ => rfl
  · exact fun _ _ none => nomatch none
  · exact fun _ => List.Pairwise.nil
  · exact fun _ _ none => nomatch none
  · exact fun _ => List.Sublist.refl _
  · exact fun _ => rfl
  · exact fun _ _ _ => List.Sublist.refl _

/-- Further calls do not change the frames of earlier ones. -/
theorem frame_called {node : ι} {op : WsHub.Op Value} {r' : Trail ι Value}
    (calls : r'.calls = Function.update r.calls node (r.calls node ++ [op]))
    {event : EventId ι} {frame : ClusterFrame Value}
    (framed : r.frame nodeId event = some frame) : r'.frame nodeId event = some frame := by
  obtain ⟨op', found, same⟩ := Option.bind_eq_some_iff.mp framed
  have kept : (r'.calls event.1)[event.2]? = some op' := by
    rw [calls]
    by_cases here : event.1 = node
    · rw [here] at found ⊢
      rw [Function.update_self, List.getElem?_append_left (List.getElem?_eq_some_iff.mp found).1]
      exact found
    · rw [Function.update_of_ne here]
      exact found
  rw [Trail.frame, kept]
  exact same

/-- A station's frames are named the same after a further call. -/
theorem named_called {node : ι} {op : WsHub.Op Value} {r' : Trail ι Value} {α β : Type}
    (calls : r'.calls = Function.update r.calls node (r.calls node ++ [op]))
    {items : List α} {events : List β} (event : β → EventId ι)
    (read : ClusterFrame Value → Option α)
    (named : items.map some = events.map (fun e => (r.frame nodeId (event e)).bind read)) :
    items.map some = events.map (fun e => (r'.frame nodeId (event e)).bind read) := by
  rw [named]
  refine List.map_congr_left (fun e he => ?_)
  have listed : (r.frame nodeId (event e)).bind read ∈ items.map some := by
    rw [named]
    exact List.mem_map_of_mem he
  obtain ⟨item, _, same⟩ := List.mem_map.mp listed
  obtain ⟨frame, framed, _⟩ := Option.bind_eq_some_iff.mp same.symm
  rw [framed, frame_called calls framed]

section Call
variable {node : ι} {op : WsHub.Op Value} {frame : ClusterFrame Value}

variable (codec r) in
/-- A call is numbered, handed to its own hub, and relayed if the queue has room. -/
theorem record_call (framed : op.relayFrame (s.hubs node).nodeId = some frame) :
    ∃ r' new, record codec s (.hub node op) r = r' ∧
      new = (if (s.hubs node).relays then [(r.calls node).length] else []) ∧
      r'.calls = Function.update r.calls node (r.calls node ++ [op]) ∧
      r'.handed = Function.update r.handed node
        (r.handed node ++ [(node, (r.calls node).length)]) ∧
      r'.accepted = Function.update r.accepted node (r.accepted node ++ new) ∧
      r'.waiting = Function.update r.waiting node (r.waiting node ++ new) ∧
      r'.held = r.held ∧ r'.published = r.published ∧ r'.inbox = r.inbox := by
  refine ⟨_, _, rfl, rfl, ?_⟩
  simp only [record, framed]
  split <;> simp

/-- What an instance hands to its own hub is not counted for another one. -/
theorem numbers_called {n : Nat} {r' : Trail ι Value}
    (handed : r'.handed = Function.update r.handed node (r.handed node ++ [(node, n)]))
    {i j : ι} (different : i ≠ j) :
    Trail.numbers i (r'.handed j) = Trail.numbers i (r.handed j) := by
  rw [handed]
  by_cases here : j = node
  · subst here
    rw [Function.update_self, Trail.numbers_append, Trail.numbers_other different.symm,
      List.append_nil]
  · rw [Function.update_of_ne here]

/-- The queue of the calling instance gains the frame where there is room. -/
theorem call_queued (follows : Follows codec nodeId s r) {r' : Trail ι Value} {h : WsHub Value}
    {new : List Nat} (own : op.isLocal = true)
    (framed : op.relayFrame (s.hubs node).nodeId = some frame)
    (hs : WsHub.step encode (s.hubs node) op = some h)
    (fresh : new = if (s.hubs node).relays then [(r.calls node).length] else [])
    (calls : r'.calls = Function.update r.calls node (r.calls node ++ [op]))
    (waiting : r'.waiting = Function.update r.waiting node (r.waiting node ++ new)) (i : ι) :
    ((s.setHub node h).hubs i).queued.map some =
      (r'.waiting i).map (fun n => r'.frame nodeId (i, n)) := by
  have before : (s.hubs i).queued.map some =
      (r.waiting i).map (fun n => r'.frame nodeId (i, n)) := by
    have named := named_called calls (fun n => (i, n)) some (by simpa using follows.queued i)
    simpa using named
  by_cases here : i = node
  · subst here
    have framedNew : new.map (fun n => r'.frame nodeId (i, n)) =
        (if (s.hubs i).relays then [frame] else []).map some := by
      rw [fresh]
      split
      · simp [Trail.frame, calls, ← follows.identity i, framed]
      · rfl
    have queued := WsHub.step_queued own hs
    rw [framed] at queued
    have hubHere : (s.setHub i h).hubs i = h := Function.update_self _ _ _
    rw [hubHere, queued, waiting, Function.update_self, List.map_append, List.map_append, before,
      framedNew]
    rfl
  · have hubElse : (s.setHub node h).hubs i = s.hubs i := Function.update_of_ne here _ _
    rw [hubElse, waiting, Function.update_of_ne here]
    exact before

theorem call_follows (follows : Follows codec nodeId s r) {h : WsHub Value}
    (own : op.isLocal = true) (framed : op.relayFrame (s.hubs node).nodeId = some frame)
    (hs : WsHub.step encode (s.hubs node) op = some h) :
    Follows codec nodeId (s.setHub node h) (record codec s (.hub node op) r) := by
  obtain ⟨r', new, recorded, fresh, calls, handed, accepted, waiting, held, published, inbox⟩ :=
    record_call codec r framed
  rw [recorded]
  have news : ∀ n ∈ new, n = (r.calls node).length := by
    rw [fresh]
    split <;> simp
  have here_or : ∀ i, i = node ∨ (r'.accepted i = r.accepted i ∧ r'.waiting i = r.waiting i ∧
      r'.calls i = r.calls i ∧ r'.handed i = r.handed i ∧
      (s.setHub node h).hubs i = s.hubs i) := by
    intro i
    by_cases here : i = node
    · exact Or.inl here
    · exact Or.inr (by simp [accepted, waiting, calls, handed, setHub, here])
  have pendingHere : r'.pending node = r.pending node ++ new := by
    rw [Trail.pending, Trail.pending, held, waiting, Function.update_self, List.append_assoc]
  have pendingElse : ∀ i, r'.waiting i = r.waiting i → r'.pending i = r.pending i := by
    intro i same
    rw [Trail.pending, Trail.pending, held, same]
  have acceptedHere : r'.accepted node = r.accepted node ++ new := by
    rw [accepted, Function.update_self]
  have callsHere : r'.calls node = r.calls node ++ [op] := by rw [calls, Function.update_self]
  have hubHere : (s.setHub node h).hubs node = h := Function.update_self _ _ _
  constructor
  · intro i
    rcases here_or i with rfl | ⟨_, _, _, _, same⟩
    · rw [hubHere, WsHub.step_nodeId hs]
      exact follows.identity i
    · rw [same]
      exact follows.identity i
  · exact call_queued follows own framed hs fresh calls waiting
  · intro i
    rw [held]
    have before := follows.publishing i
    cases number : r.held i with
    | none =>
      rw [number] at before
      exact before
    | some n =>
      rw [number] at before
      obtain ⟨f, heldFrame, same⟩ := Option.map_eq_some_iff.mp (before.trans (Option.map_some ..))
      rw [show (s.setHub node h).publishing i = s.publishing i from rfl, heldFrame]
      simp [frame_called calls same.symm]
  · intro i
    rw [inbox]
    exact named_called calls (fun e => e) _ (follows.inbox i)
  · intro i op' listed
    rcases here_or i with rfl | ⟨_, _, calls, _, _⟩
    · rw [callsHere, List.mem_append, List.mem_singleton] at listed
      rcases listed with old | rfl
      · exact follows.framed i op' old
      · exact ⟨frame, by rw [← follows.identity i, framed]⟩
    · rw [calls] at listed
      exact follows.framed i op' listed
  · intro i
    rcases here_or i with rfl | ⟨same, _, _, _, _⟩
    · rw [acceptedHere, List.pairwise_append]
      refine ⟨follows.increasing i, ?_, ?_⟩
      · rw [fresh]
        split <;> simp
      · intro a ha b hb
        rw [news b hb]
        exact follows.known i a ha
    · rw [same]
      exact follows.increasing i
  · intro i n hn
    rcases here_or i with rfl | ⟨same, _, calls, _, _⟩
    · rw [acceptedHere, List.mem_append] at hn
      rw [callsHere, List.length_append, List.length_singleton]
      rcases hn with old | added
      · have := follows.known i n old
        omega
      · rw [news n added]
        omega
    · rw [same] at hn
      rw [calls]
      exact follows.known i n hn
  · intro i
    have before := follows.channel i
    rcases here_or i with rfl | ⟨same, waiting, _, _, _⟩
    · rw [acceptedHere, pendingHere, published, ← List.append_assoc]
      exact before.append (List.Sublist.refl new)
    · rw [same, pendingElse i waiting, published]
      exact before
  · intro i
    rcases here_or i with rfl | ⟨_, _, calls, handed, _⟩
    · rw [handed, Function.update_self, Trail.numbers_append, Trail.numbers_self, follows.own,
        callsHere, List.length_append, List.length_singleton, List.range_succ]
    · rw [calls, handed]
      exact follows.own i
  · intro i j different
    have before := follows.flow i j different
    rw [numbers_called handed different, Trail.transit, inbox]
    rcases here_or i with rfl | ⟨same, waiting, _, _, _⟩
    · rw [acceptedHere, pendingHere, ← List.append_assoc, ← List.append_assoc, List.append_assoc _ _
        (r.pending i)]
      exact before.append (List.Sublist.refl new)
    · rw [same, pendingElse i waiting]
      exact before

end Call

/-- A step without a publishing call: the frames keep their numbers. -/
theorem Follows.moved (follows : Follows codec nodeId s r) {r' : Trail ι Value}
    (calls : r'.calls = r.calls) (accepted : r'.accepted = r.accepted)
    (identity : ∀ i, (t.hubs i).nodeId = (s.hubs i).nodeId)
    (queued : ∀ i, (t.hubs i).queued.map some =
      (r'.waiting i).map (fun n => r.frame nodeId (i, n)))
    (publishing : ∀ i, (t.publishing i).map some =
      (r'.held i).map (fun n => r.frame nodeId (i, n)))
    (inbox : ∀ i, (t.inbox i).map some = (r'.inbox i).map (fun e =>
      (r.frame nodeId e).bind (fun f => (codec.toJson f).toOption)))
    (channel : ∀ i, (Trail.numbers i r'.published ++ r'.pending i).Sublist
      (Trail.numbers i r.published ++ r.pending i))
    (own : ∀ i, Trail.numbers i (r'.handed i) = Trail.numbers i (r.handed i))
    (flow : ∀ i j, i ≠ j → (Trail.numbers i (r'.handed j) ++ r'.transit i j).Sublist
      (Trail.numbers i (r.handed j) ++ r.transit i j)) : Follows codec nodeId t r' := by
  have frame : r'.frame nodeId = r.frame nodeId := by
    funext event
    rw [Trail.frame, Trail.frame, calls]
  constructor
  · exact fun i => (identity i).trans (follows.identity i)
  · rw [frame]
    exact queued
  · rw [frame]
    exact publishing
  · rw [frame]
    exact inbox
  · rw [calls]
    exact follows.framed
  · rw [accepted]
    exact follows.increasing
  · rw [accepted, calls]
    exact follows.known
  · rw [accepted]
    exact fun i => (channel i).trans (follows.channel i)
  · rw [calls]
    exact fun i => (own i).trans (follows.own i)
  · rw [accepted]
    exact fun i j different => (flow i j different).trans (follows.flow i j different)

/-- A step that moves no frame keeps the trail. -/
theorem Follows.still (follows : Follows codec nodeId s r)
    (identity : ∀ i, (t.hubs i).nodeId = (s.hubs i).nodeId)
    (queued : ∀ i, (t.hubs i).queued = (s.hubs i).queued) (publishing : t.publishing = s.publishing)
    (inbox : t.inbox = s.inbox) : Follows codec nodeId t r :=
  follows.moved rfl rfl identity
    (fun i => by rw [queued, follows.queued])
    (fun i => by rw [publishing, follows.publishing])
    (fun i => by rw [inbox, follows.inbox])
    (fun _ => List.Sublist.refl _) (fun _ => rfl) (fun _ _ _ => List.Sublist.refl _)

theorem hub_follows (follows : Follows codec nodeId s r) {node : ι} {op : WsHub.Op Value}
    {h : WsHub Value} (own : op.isLocal = true) (hs : WsHub.step encode (s.hubs node) op = some h) :
    Follows codec nodeId (s.setHub node h) (record codec s (.hub node op) r) := by
  cases framed : op.relayFrame (s.hubs node).nodeId with
  | some frame => exact call_follows follows own framed hs
  | none =>
    have recorded : record codec s (.hub node op) r = r := by simp only [record, framed]
    have queued := WsHub.step_queued own hs
    have kept : h.queued = (s.hubs node).queued := by
      rw [queued, framed]
      simp
    rw [recorded]
    refine follows.still ?_ ?_ rfl rfl
    · intro i
      by_cases here : i = node
      · subst here
        simpa [setHub] using WsHub.step_nodeId hs
      · simp [setHub, here]
    · intro i
      by_cases here : i = node
      · subst here
        simpa [setHub] using kept
      · simp [setHub, here]

/-- `publish_loop` takes the oldest number of its queue. -/
theorem recv_follows (follows : Follows codec nodeId s r) {node : ι} {tx tx' : Mpsc _}
    {frame : ClusterFrame Value} (idle : s.publishing node = none)
    (relay : (s.hubs node).clusterTx = some tx) (taken : tx.recv = some (frame, tx')) :
    Follows codec nodeId
      ((s.setHub node { s.hubs node with clusterTx := some tx' }).setPublishing node (some frame))
      (record codec s (.recv node) r) := by
  have queue : tx.queue = frame :: tx'.queue := (Mpsc.recv_some taken).1
  have queuedHere : (s.hubs node).queued = frame :: tx'.queue := by
    rw [WsHub.queued, relay, Option.map_some, Option.getD_some, queue]
  have numbered := follows.queued node
  rw [queuedHere] at numbered
  have unheld : r.held node = none := by
    have before := follows.publishing node
    rw [idle] at before
    exact Option.map_eq_none_iff.mp before.symm
  obtain ⟨n, rest, waiting⟩ : ∃ n rest, r.waiting node = n :: rest := by
    cases waiting : r.waiting node with
    | nil =>
      rw [waiting] at numbered
      cases numbered
    | cons n rest => exact ⟨n, rest, rfl⟩
  rw [waiting] at numbered
  obtain ⟨first, others⟩ := List.cons.inj numbered
  obtain ⟨r', recorded⟩ : ∃ r', record codec s (.recv node) r = r' := ⟨_, rfl⟩
  have waiting' : r'.waiting = Function.update r.waiting node rest := by
    rw [← recorded]
    simp [record, waiting]
  have held' : r'.held = Function.update r.held node (some n) := by
    rw [← recorded]
    simp [record, waiting]
  have pending : ∀ i, r'.pending i = r.pending i := by
    intro i
    rw [Trail.pending, Trail.pending, waiting', held']
    by_cases here : i = node
    · subst here
      simp [waiting, unheld]
    · simp [here]
  rw [recorded]
  subst recorded
  refine follows.moved rfl rfl ?_ ?_ ?_ follows.inbox ?_ (fun _ => rfl) ?_
  · intro i
    by_cases here : i = node
    · subst here
      simp [setHub, setPublishing]
    · simp [setHub, setPublishing, here]
  · intro i
    rw [waiting']
    by_cases here : i = node
    · subst here
      simpa [setHub, setPublishing, WsHub.queued] using others
    · simpa [setHub, setPublishing, here] using follows.queued i
  · intro i
    rw [held']
    by_cases here : i = node
    · subst here
      simpa [setHub, setPublishing] using first
    · simpa [setHub, setPublishing, here] using follows.publishing i
  · intro i
    rw [pending]
    exact List.Sublist.refl _
  · intro i j _
    rw [Trail.transit, pending]
    exact List.Sublist.refl _

/-- A dropped number leaves the others on their way. -/
theorem pending_dropped {r' : Trail ι Value} {node : ι} (waiting : r'.waiting = r.waiting)
    (held : r'.held = Function.update r.held node none) (i : ι) :
    (r'.pending i).Sublist (r.pending i) := by
  rw [Trail.pending, Trail.pending, waiting, held]
  by_cases here : i = node
  · subst here
    rw [Function.update_self]
    exact (List.nil_sublist _).append (List.Sublist.refl _)
  · rw [Function.update_of_ne here]

theorem idle_publishing (follows : Follows codec nodeId s r) (node i : ι) :
    ((s.setPublishing node none).publishing i).map some =
      (Function.update r.held node none i).map (fun n => r.frame nodeId (i, n)) := by
  by_cases here : i = node
  · subst here
    simp [setPublishing]
  · simpa [setPublishing, here] using follows.publishing i

theorem unavailable_follows (follows : Follows codec nodeId s r) (node : ι) :
    Follows codec nodeId (s.setPublishing node none) (record codec s (.unavailable node) r) := by
  have dropped : ∀ i, ((record codec s (.unavailable node) r).pending i).Sublist (r.pending i) :=
    pending_dropped rfl rfl
  refine follows.moved rfl rfl (fun _ => rfl) follows.queued (idle_publishing follows node)
    follows.inbox ?_ (fun _ => rfl) ?_
  · exact fun i => (List.Sublist.refl _).append (dropped i)
  · exact fun i _ _ => (List.Sublist.refl _).append ((List.Sublist.refl _).append (dropped i))

/-- The frame in hand reaches every subscription, behind what is there already. -/
theorem publish_follows (follows : Follows codec nodeId s r) {node : ι}
    {frame : ClusterFrame Value} (busy : s.publishing node = some frame) :
    Follows codec nodeId (publishFrame codec s node frame) (record codec s (.publish node) r) := by
  obtain ⟨n, holds, framed⟩ :
      ∃ n, r.held node = some n ∧ r.frame nodeId (node, n) = some frame := by
    have before := follows.publishing node
    rw [busy, Option.map_some] at before
    obtain ⟨n, holds, framed⟩ := Option.map_eq_some_iff.mp before.symm
    exact ⟨n, holds, framed⟩
  cases json : codec.toJson frame with
  | error e =>
    have stepped : publishFrame codec s node frame = s.setPublishing node none := by
      simp [publishFrame, json]
    have recorded : record codec s (.publish node) r = record codec s (.unavailable node) r := by
      simp [record, busy, json]
    rw [stepped, recorded]
    exact unavailable_follows follows node
  | ok payload =>
    obtain ⟨r', recorded⟩ : ∃ r', record codec s (.publish node) r = r' := ⟨_, rfl⟩
    have entered : r' = { r with
        held := Function.update r.held node none
        published := r.published ++ [(node, n)]
        inbox := fun peer =>
          if s.subscribed peer then r.inbox peer ++ [(node, n)] else r.inbox peer } := by
      rw [← recorded]
      simp [record, busy, json, holds]
    have stepped : (publishFrame codec s node frame).inbox = fun peer =>
        if s.subscribed peer then s.inbox peer ++ [payload] else s.inbox peer := by
      simp [publishFrame, json]
    have publishing : (publishFrame codec s node frame).publishing =
        (s.setPublishing node none).publishing := by
      simp [publishFrame, json]
    have kept : ∀ i, i ≠ node → r'.pending i = r.pending i := by
      intro i different
      simp [entered, Trail.pending, different]
    have taken : r.pending node = n :: r'.pending node := by
      simp [entered, Trail.pending, holds]
    have numbers : ∀ i j, (Trail.numbers i (r'.inbox j) ++ r'.pending i).Sublist
        (Trail.numbers i (r.inbox j) ++ r.pending i) := by
      intro i j
      have inbox : r'.inbox j =
          if s.subscribed j then r.inbox j ++ [(node, n)] else r.inbox j := by rw [entered]
      rw [inbox]
      by_cases here : i = node
      · subst here
        rw [taken]
        split
        · simp
        · exact (List.Sublist.refl _).append (List.sublist_cons_self _ _)
      · rw [kept i here]
        split
        · rw [Trail.numbers_append, Trail.numbers_other (Ne.symm here), List.append_nil]
        · exact List.Sublist.refl _
    rw [recorded]
    refine follows.moved (by rw [entered]) (by rw [entered]) (fun _ => ?_) (fun i => ?_)
      (fun i => ?_) (fun i => ?_) (fun i => ?_) (fun i => by rw [entered]) (fun i j _ => ?_)
    · rw [publishFrame_hubs]
    · rw [publishFrame_hubs, entered]
      exact follows.queued i
    · rw [publishing, entered]
      exact idle_publishing follows node i
    · rw [stepped, entered]
      dsimp only
      split
      · simp [follows.inbox i, framed, json, Except.toOption]
      · exact follows.inbox i
    · have published : r'.published = r.published ++ [(node, n)] := by rw [entered]
      rw [published, Trail.numbers_append]
      by_cases here : i = node
      · subst here
        rw [taken]
        simp
      · rw [kept i here, Trail.numbers_other (Ne.symm here), List.append_nil]
    · have handed : r'.handed = r.handed := by rw [entered]
      rw [handed]
      exact (List.Sublist.refl _).append (numbers i j)

theorem disconnect_follows (follows : Follows codec nodeId s r) (node : ι) :
    Follows codec nodeId
      { s with
        subscribed := Function.update s.subscribed node false
        inbox := Function.update s.inbox node [] } (record codec s (.disconnect node) r) := by
  refine follows.moved rfl rfl (fun _ => rfl) follows.queued follows.publishing (fun i => ?_)
    (fun _ => List.Sublist.refl _) (fun _ => rfl) (fun i j _ => ?_)
  · by_cases here : i = node
    · subst here
      simp [record]
    · simpa [record, here] using follows.inbox i
  · refine (List.Sublist.refl _).append (List.Sublist.append ?_ (List.Sublist.refl _))
    by_cases here : j = node
    · subst here
      simp [record, Trail.numbers]
    · simp [record, here]

/-- A message in an inbox is a published frame of the instance that is named. -/
theorem inbox_event (follows : Follows codec nodeId s r) {node : ι} {position : Nat} {raw : String}
    (found : (s.inbox node)[position]? = some raw) :
    ∃ event frame, (r.inbox node)[position]? = some event ∧ r.frame nodeId event = some frame ∧
      frame.node = nodeId event.1 ∧ codec.toJson frame = .ok raw := by
  have named := congrArg (fun l => l[position]?) (follows.inbox node)
  simp only [List.getElem?_map, found, Option.map_some] at named
  obtain ⟨event, listed, same⟩ := Option.map_eq_some_iff.mp named.symm
  obtain ⟨frame, framed, written⟩ := Option.bind_eq_some_iff.mp same
  obtain ⟨op, _, relayed⟩ := Option.bind_eq_some_iff.mp framed
  refine ⟨event, frame, listed, framed, WsHub.Op.relayFrame_node relayed, ?_⟩
  cases json : codec.toJson frame with
  | error e =>
    rw [json] at written
    cases written
  | ok payload =>
    rw [json] at written
    cases written
    rfl

variable (codec) in
/-- Nothing is read back from a message but the frame it was written from. -/
def RoundTrip : Prop :=
  ∀ frame raw read, codec.toJson frame = .ok raw → codec.fromJson raw = .ok read → read = frame

theorem dispatches_iff (roundTrip : RoundTrip codec) {frame : ClusterFrame Value} {raw : String}
    (json : codec.toJson frame = .ok raw) (h : WsHub Value) :
    dispatches codec h raw = true ↔ codec.fromJson raw = .ok frame ∧ frame.node ≠ h.nodeId := by
  rw [dispatches]
  cases parsed : codec.fromJson raw with
  | error e => simp
  | ok read =>
    obtain rfl := roundTrip _ _ _ json parsed
    simp

variable (encode) in
/-- The message is posted or ignored; nothing is relayed again. -/
theorem receiveMessage_frame (roundTrip : RoundTrip codec) {frame : ClusterFrame Value}
    {raw : String} (json : codec.toJson frame = .ok raw) (h : WsHub Value) :
    receiveMessage codec encode h raw =
      if dispatches codec h raw then h.post encode frame.address frame.topic frame.payload
      else h := by
  by_cases handed : dispatches codec h raw
  · rw [if_pos handed]
    obtain ⟨parsed, foreign⟩ := (dispatches_iff roundTrip json h).mp handed
    simp [receiveMessage, parsed, foreign, WsHub.dispatchClusterFrame_post]
  · rw [if_neg handed]
    exact receiveMessage_ignored (by simpa using handed)

variable (codec encode) in
theorem receiveMessage_queued (h : WsHub Value) (raw : String) :
    (receiveMessage codec encode h raw).queued = h.queued := by
  rcases receiveMessage_post codec encode h raw with same | ⟨frame, _, _, posted⟩
  · rw [same]
  · rw [posted, WsHub.post_queued]

/-- An instance posts the oldest message of its publisher, unless it is its own. -/
theorem onMessage_follows (roundTrip : RoundTrip codec)
    (follows : Follows codec nodeId s r) {node : ι} {position : Nat} {raw : String}
    (found : (s.inbox node)[position]? = some raw)
    (inOrder : InOrder (s, r) (.onMessage node position)) :
    Follows codec nodeId
      { s.setHub node (receiveMessage codec encode (s.hubs node) raw) with
        inbox := Function.update s.inbox node ((s.inbox node).eraseIdx position) }
      (record codec s (.onMessage node position) r) := by
  obtain ⟨event, frame, listed, framed, origin, json⟩ := inbox_event follows found
  obtain ⟨r', recorded⟩ : ∃ r', record codec s (.onMessage node position) r = r' := ⟨_, rfl⟩
  obtain ⟨new, fresh⟩ :
      ∃ new, new = if dispatches codec (s.hubs node) raw then [event] else [] := ⟨_, rfl⟩
  have entered : r' = { r with
      inbox := Function.update r.inbox node ((r.inbox node).eraseIdx position)
      handed := Function.update r.handed node (r.handed node ++ new) } := by
    rw [← recorded, fresh]
    simp only [record, found, listed]
    split <;> simp
  have inbox : r'.inbox = Function.update r.inbox node ((r.inbox node).eraseIdx position) := by
    rw [entered]
  have handed : r'.handed = Function.update r.handed node (r.handed node ++ new) := by rw [entered]
  have pending : ∀ i, r'.pending i = r.pending i := by
    intro i
    rw [entered]
    rfl
  have foreign : ∀ e ∈ new, e = event ∧ event.1 ≠ node := by
    intro e he
    rw [fresh] at he
    split at he
    · rename_i posted
      refine ⟨List.mem_singleton.mp he, fun same => ?_⟩
      refine ((dispatches_iff roundTrip json _).mp posted).2 ?_
      rw [origin, same, follows.identity]
    · cases he
  have oldest : ∀ i, Trail.numbers i (r.inbox node) =
      (if event.1 = i then [event.2] else []) ++ Trail.numbers i (r'.inbox node) := by
    intro i
    rw [inbox, Function.update_self]
    refine Trail.numbers_eraseIdx listed (fun earlier before => ?_) i
    have first := inOrder earlier before
    rw [listed] at first
    exact first
  have posted : ∀ i, (Trail.numbers i new).Sublist (if event.1 = i then [event.2] else []) := by
    intro i
    rw [fresh]
    split
    · by_cases same : event.1 = i <;> simp [Trail.numbers, same]
    · exact List.nil_sublist _
  rw [recorded]
  refine follows.moved (by rw [entered]) (by rw [entered]) (fun i => ?_) (fun i => ?_) (fun i => ?_)
    (fun i => ?_) (fun i => ?_) (fun i => ?_) (fun i j _ => ?_)
  · have moved : HubMove codec encode (s.hubs node)
        (receiveMessage codec encode (s.hubs node) raw) :=
      .received
    exact (setHub_move moved i).nodeId
  · have queued : ((s.setHub node (receiveMessage codec encode (s.hubs node) raw)).hubs i).queued =
        (s.hubs i).queued := by
      by_cases here : i = node
      · subst here
        simp [setHub, receiveMessage_queued]
      · simp [setHub, here]
    rw [entered]
    exact (congrArg _ queued).trans (follows.queued i)
  · rw [entered]
    exact follows.publishing i
  · rw [inbox]
    dsimp only
    by_cases here : i = node
    · subst here
      rw [Function.update_self, Function.update_self, ← List.eraseIdx_map, ← List.eraseIdx_map,
        follows.inbox]
    · rw [Function.update_of_ne here, Function.update_of_ne here]
      exact follows.inbox i
  · rw [pending, entered]
  · rw [handed]
    by_cases here : i = node
    · subst here
      have none : Trail.numbers i new = [] := by
        rw [Trail.numbers, List.map_eq_nil_iff, List.filter_eq_nil_iff]
        intro e he
        obtain ⟨rfl, away⟩ := foreign e he
        simpa using away
      rw [Function.update_self, Trail.numbers_append, none, List.append_nil]
    · rw [Function.update_of_ne here]
  · rw [Trail.transit, Trail.transit, pending]
    by_cases here : j = node
    · subst here
      rw [handed, Function.update_self, Trail.numbers_append, oldest, List.append_assoc,
        List.append_assoc]
      exact (List.Sublist.refl _).append ((posted i).append (List.Sublist.refl _))
    · rw [handed, inbox, Function.update_of_ne here, Function.update_of_ne here]

theorem step_follows (roundTrip : RoundTrip codec) {l : ClusterLabel ι Value}
    (follows : Follows codec nodeId s r) (inOrder : InOrder (s, r) l)
    (hs : step codec encode s l = some t) : Follows codec nodeId t (record codec s l r) := by
  cases step_move hs with
  | hub own stepped => exact hub_follows follows own stepped
  | recv idle relay taken => exact recv_follows follows idle relay taken
  | publish busy => exact publish_follows follows busy
  | unavailable _ => exact unavailable_follows follows _
  | subscribe _ => exact follows.still (fun _ => rfl) (fun _ => rfl) rfl rfl
  | disconnect _ => exact disconnect_follows follows _
  | onMessage found => exact onMessage_follows roundTrip follows found inOrder

end Steps

end Cluster
end ApiBoilerplate
