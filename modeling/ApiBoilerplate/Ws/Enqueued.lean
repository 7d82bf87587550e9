import Mathlib.Algebra.BigOperators.Group.Finset.Piecewise
import ApiBoilerplate.Foundation.Conservation
import ApiBoilerplate.Ws.NoGap

/-!
# What a hub has enqueued

All pairs of a connection and a frame that a hub ever put on a queue, read off
its channels. While the connection table stands still and no queue is full, a
publishing call adds one pair for each open connection it addresses, whatever
the sessions take off their queues in between.
-/

namespace ApiBoilerplate

open Foundation
open scoped BigOperators

/-- A connection and a frame put on its queue. -/
abbrev Enqueued := ConnectionId × ByteString

namespace WsHub
variable {Value : Type}

def sentTo (h : WsHub Value) (id : ConnectionId) : List ByteString :=
  ((h.channels.lookup id).map Mpsc.sent).getD []

def accepted (h : WsHub Value) : Multiset Enqueued :=
  ∑ id ∈ h.channels.keys, Multiset.map (fun frame => (id, frame)) (h.sentTo id)

/-- The session of `id` has not dropped its receiver. -/
def isOpen (h : WsHub Value) (id : ConnectionId) : Bool :=
  (h.channels.lookup id).any Mpsc.rxAlive

def recipients (h : WsHub Value) (addr : Address) : Finset ConnectionId :=
  h.connections.keys.filter (fun id => h.hears addr id && h.isOpen id)

/-- No connection that hears `addr` has a full queue. -/
def Roomy (h : WsHub Value) (addr : Address) : Prop :=
  ∀ id ∈ h.connections.keys, h.hears addr id = true → h.queueFull id = false

instance (h : WsHub Value) (addr : Address) : Decidable (h.Roomy addr) :=
  Finset.decidableDforallFinset

/-- Nobody registered, left, or closed a queue between `h` and `g`. -/
structure SameTables (h g : WsHub Value) : Prop where
  connections : g.connections = h.connections
  isOpen : ∀ id, g.isOpen id = h.isOpen id

theorem SameTables.refl (h : WsHub Value) : SameTables h h := ⟨rfl, fun _ => rfl⟩

theorem SameTables.trans {h g f : WsHub Value} (hg : SameTables h g) (gf : SameTables g f) :
    SameTables h f :=
  ⟨gf.connections.trans hg.connections, fun id => (gf.isOpen id).trans (hg.isOpen id)⟩

theorem SameTables.recipients {h g : WsHub Value} (same : SameTables h g) (addr : Address) :
    g.recipients addr = h.recipients addr := by
  have hears : ∀ id, g.hears addr id = h.hears addr id := by
    intro id
    rw [WsHub.hears, WsHub.hears, same.connections]
  simp only [WsHub.recipients, same.connections, hears, same.isOpen]

theorem mem_recipients (h : WsHub Value) (addr : Address) (id : ConnectionId) :
    id ∈ h.recipients addr ↔ h.hears addr id = true ∧ h.isOpen id = true := by
  rw [recipients, Finset.mem_filter, Finmap.mem_keys, Bool.and_eq_true]
  exact ⟨fun both => both.2, fun both => ⟨mem_of_hears both.1, both⟩⟩

/-- Channels that only received `frame` at the ids of `extra`. -/
theorem accepted_extended {h g : WsHub Value} {extra : Finset ConnectionId} {frame : ByteString}
    (keys : g.channels.keys = h.channels.keys) (opened : extra ⊆ h.channels.keys)
    (sent : ∀ id, g.sentTo id = h.sentTo id ++ if id ∈ extra then [frame] else []) :
    g.accepted = h.accepted + ∑ id ∈ extra, {(id, frame)} := by
  have each : ∀ id ∈ h.channels.keys,
      (Multiset.map (fun f => (id, f)) (g.sentTo id) : Multiset Enqueued) =
        Multiset.map (fun f => (id, f)) (h.sentTo id) +
          if id ∈ extra then {(id, frame)} else 0 := by
    intro id _
    rw [sent, ← Multiset.coe_add, Multiset.map_add]
    split <;> rfl
  rw [accepted, keys, Finset.sum_congr rfl each, Finset.sum_add_distrib, Finset.sum_ite_mem,
    Finset.inter_eq_right.mpr opened]
  rfl

theorem accepted_unchanged {h g : WsHub Value} (keys : g.channels.keys = h.channels.keys)
    (sent : ∀ id, g.sentTo id = h.sentTo id) : g.accepted = h.accepted := by
  simp only [accepted, keys, sent]

section Drain
variable {h : WsHub Value} {id : ConnectionId} {rx rx' : Mpsc ByteString} {frame : ByteString}

theorem keys_insert_known (lookup : h.channels.lookup id = some rx) :
    (h.channels.insert id rx').keys = h.channels.keys := by
  ext k
  have known := Finmap.mem_of_lookup_eq_some lookup
  simp only [Finmap.mem_keys, Finmap.mem_insert]
  exact ⟨fun either => either.elim (fun same => same ▸ known) (fun old => old), Or.inr⟩

theorem drain_accepted (lookup : h.channels.lookup id = some rx)
    (taken : rx.recv = some (frame, rx')) :
    { h with channels := h.channels.insert id rx' }.accepted = h.accepted := by
  refine accepted_unchanged (keys_insert_known lookup) ?_
  intro k
  simp only [sentTo, FinMap.lookup_insert_eq]
  by_cases same : k = id
  · subst same
    simp [lookup, Mpsc.recv_sent taken]
  · simp [same]

theorem drain_sameTables (lookup : h.channels.lookup id = some rx)
    (taken : rx.recv = some (frame, rx')) :
    SameTables h { h with channels := h.channels.insert id rx' } := by
  refine ⟨rfl, fun k => ?_⟩
  simp only [isOpen, FinMap.lookup_insert_eq]
  by_cases same : k = id
  · subst same
    obtain ⟨_, _, _, alive⟩ := Mpsc.recv_some taken
    simp [lookup, alive]
  · simp [same]

end Drain

section Post
variable (encode : ServerMessage Value → Except WsError ByteString)

/-- What posting an event is to enqueue. -/
def owed (h : WsHub Value) (addr : Address) (topic : Topic) (value : Value) :
    Multiset Enqueued :=
  match eventFrame encode topic value with
  | .error _ => 0
  | .ok frame => ∑ id ∈ h.recipients addr, {(id, frame)}

theorem SameTables.owed {h g : WsHub Value} (same : SameTables h g) (addr : Address)
    (topic : Topic) (value : Value) :
    g.owed encode addr topic value = h.owed encode addr topic value := by
  simp only [WsHub.owed, same.recipients addr]

end Post

section Deliver
variable {h : WsHub Value} {ids : Finset ConnectionId} (frame : ByteString)

theorem deliver_connections (room : ∀ id ∈ ids, ¬ h.Stalled id) :
    (h.deliver ids frame).2.connections = h.connections := by
  refine Finmap.ext_lookup (fun id => Option.ext (fun conn => ?_))
  rw [deliver_evicts_iff]
  exact and_iff_left (fun stalled => room id stalled.1 stalled.2)

theorem deliver_isOpen (id : ConnectionId) :
    (h.deliver ids frame).2.isOpen id = h.isOpen id := by
  rw [isOpen, deliver_lookup_channels, isOpen]
  split
  · cases h.channels.lookup id with
    | none => rfl
    | some tx => simp
  · rfl

/-- Each open connection of the audience gets the frame, and nobody else. -/
theorem deliver_sentTo (room : ∀ id ∈ ids, ¬ h.Stalled id) (id : ConnectionId) :
    (h.deliver ids frame).2.sentTo id = h.sentTo id ++
      if id ∈ ids ∧ id ∈ h.connections ∧ h.isOpen id = true then [frame] else [] := by
  rw [sentTo, deliver_lookup_channels, sentTo]
  by_cases reached : id ∈ ids ∧ id ∈ h.connections
  · rw [if_pos reached]
    cases lookup : h.channels.lookup id with
    | none => simp [isOpen, lookup]
    | some tx =>
      have keepsUp : ¬ tx.IsFull := fun full => room id reached.1 ⟨reached.2, tx, lookup, full⟩
      by_cases alive : tx.rxAlive = true
      · have hasRoom : tx.HasRoom := ⟨alive, Nat.lt_of_not_le (fun full => keepsUp ⟨alive, full⟩)⟩
        simp [isOpen, lookup, alive, reached, Mpsc.offered_sent, hasRoom]
      · have refused : ¬ tx.HasRoom := fun hasRoom => alive hasRoom.1
        simp [isOpen, lookup, alive, Mpsc.offered_sent, refused]
  · have nobody : ¬ (id ∈ ids ∧ id ∈ h.connections ∧ h.isOpen id = true) :=
      fun all => reached ⟨all.1, all.2.1⟩
    rw [if_neg reached, if_neg nobody, List.append_nil]

end Deliver

section Post
variable {encode : ServerMessage Value → Except WsError ByteString} {h : WsHub Value}
  {addr : Address}

theorem Roomy.not_stalled (room : h.Roomy addr) (settled : h.Settled) :
    ∀ id ∈ h.audience addr, ¬ h.Stalled id := by
  rintro id audience ⟨known, tx, lookup, full⟩
  have heard := (settled.mem_audience_iff addr id).mp ⟨audience, known⟩
  have fits := room id (Finmap.mem_keys.mpr known) heard
  rw [(queueFull_iff lookup).mpr full] at fits
  cases fits

variable (encode) in
theorem post_accepted (settled : h.Settled) (room : h.Roomy addr) (topic : Topic)
    (value : Value) :
    SameTables h (h.post encode addr topic value) ∧
      (h.post encode addr topic value).accepted =
        h.accepted + h.owed encode addr topic value := by
  rw [post, owed]
  cases eventFrame encode topic value with
  | error e => exact ⟨.refl h, (add_zero _).symm⟩
  | ok frame =>
    have keepUp := room.not_stalled settled
    refine ⟨⟨deliver_connections frame keepUp, deliver_isOpen frame⟩, ?_⟩
    refine accepted_extended deliver_keys ?_ ?_
    · intro id heard
      exact Finmap.mem_keys.mpr
        (settled.opened id (mem_of_hears ((mem_recipients h addr id).mp heard).1))
    · intro id
      have same : id ∈ h.recipients addr ↔
          id ∈ h.audience addr ∧ id ∈ h.connections ∧ h.isOpen id = true := by
        rw [mem_recipients, ← settled.mem_audience_iff addr id, and_assoc]
      simp only [deliver_sentTo frame keepUp, same]

end Post

/-- The publishing calls that concern every instance. -/
def Op.isCall : Op Value → Bool
  | .publish .. | .publishToUser .. | .broadcast .. => true
  | _ => false

def Op.call (op : Op Value) : Option (Op Value) :=
  if op.isCall then some op else none

/-- Operations that leave connections, subscriptions and receivers alone. -/
def Op.keepsTables : Op Value → Bool
  | .drain _ | .relay => true
  | op => op.isCall

/-- No connection queue the operation posts to is full. -/
def Steady (h : WsHub Value) (op : Op Value) : Prop :=
  op.keepsTables = true ∧ ∀ event ∈ op.posting, h.Roomy event.1

instance (h : WsHub Value) (op : Op Value) : Decidable (h.Steady op) :=
  inferInstanceAs (Decidable (_ ∧ _))

/-- The call an operation makes adds what it owes. -/
def owedBy (encode : ServerMessage Value → Except WsError ByteString) (h : WsHub Value)
    (op : Op Value) : Multiset Enqueued :=
  match op.posting with
  | none => 0
  | some (addr, topic, value) => h.owed encode addr topic value

section Steps
variable {encode : ServerMessage Value → Except WsError ByteString} {h h' : WsHub Value}
  {op : Op Value}

theorem SameTables.owedBy {h g : WsHub Value} (same : SameTables h g) (op : Op Value) :
    g.owedBy encode op = h.owedBy encode op := by
  simp only [WsHub.owedBy, same.owed]

theorem steady_step (settled : h.Settled) (steady : h.Steady op)
    (hs : step encode h op = some h') :
    SameTables h h' ∧ h'.accepted = h.accepted + h.owedBy encode op := by
  obtain ⟨keeps, room⟩ := steady
  cases step_move hs with
  | register | unregister | subscribe | unsubscribe | dropReceiver => cases keeps
  | @post _ addr topic value r posting =>
    have relayed : SameTables h { h with clusterTx := r } := ⟨rfl, fun _ => rfl⟩
    have settled' : { h with clusterTx := r }.Settled :=
      ⟨settled.toIndexConsistent.congr rfl rfl rfl, settled.opened⟩
    have room' : { h with clusterTx := r }.Roomy addr := room _ posting
    obtain ⟨same, total⟩ := post_accepted encode settled' room' topic value
    refine ⟨relayed.trans same, ?_⟩
    rw [total, owedBy, posting]
    rfl
  | refused posting =>
    refine ⟨.refl h, ?_⟩
    rw [owedBy, posting]
    exact (add_zero _).symm
  | relay => exact ⟨⟨rfl, fun _ => rfl⟩, (add_zero _).symm⟩
  | drain lookup _ taken =>
    refine ⟨drain_sameTables lookup taken, ?_⟩
    rw [drain_accepted lookup taken]
    exact (add_zero _).symm

end Steps

end WsHub
end ApiBoilerplate
