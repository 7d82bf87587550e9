import ApiBoilerplate.Foundation.Semaphore
import ApiBoilerplate.Ws.NoIndexLeak

/-!
# The connection limit

`register` looks at the number of connections first and inserts its own later.
In between other handshakes may do the same, so the limit is kept by the runs in
which the table still has room at every insert, and by no others.
-/

namespace ApiBoilerplate

open Foundation
open WsHub (Op)

namespace HubTasks
variable {Value : Type}

def WithinLimit (limit : Nat) (s : HubTasks Value) : Prop :=
  s.hub.connections.keys.card ≤ limit

/-- A registration that inserts finds room: no other one has taken the last place
since it looked. -/
def RoomLeft (limit : Nat) (s : HubTasks Value) : TaskLabel Value → Prop
  | .start _ _ => True
  | .run name _ _ =>
    match s.pending.lookup name with
    | some (.connectionsInsert _ _ _ :: _) => s.hub.connections.keys.card < limit
    | _ => True

section Step
variable {encode : ServerMessage Value → Except WsError ByteString} {h h' : WsHub Value}
  {c : Call Value} {more : List (Call Value)} {s t : HubTasks Value} {l : TaskLabel Value}
  {limit : Nat}

theorem insert_card {ids : List ConnectionId} {topics : List Topic} {id : ConnectionId}
    {userId : Option Uuid} {now : DateTime}
    (opened : ∀ k, k ∈ h.connections → k ∈ h.channels)
    (done : exec encode ids topics h (.connectionsInsert id userId now) = some (h', more)) :
    h'.connections.keys.card = h.connections.keys.card + 1 := by
  cases exec_made done with
  | registered fresh | registeredFor fresh =>
    exact FinMap.card_insert_fresh
      (Finmap.lookup_eq_none.mpr fun present => fresh (opened id present)) _

/-- No other call makes the table larger. -/
theorem Touch.card_le (touch : Touch h c h' more)
    (other : ∀ id userId now, c ≠ .connectionsInsert id userId now) :
    h'.connections.keys.card ≤ h.connections.keys.card := by
  cases touch with
  | quiet connections _ _ _ _ _ _ => rw [connections]
  | @connectionsInsert id userId now _ _ _ => exact absurd rfl (other id userId now)
  | subscribed found => exact (FinMap.card_insert_known found _).le
  | unsubscribed found => exact (FinMap.card_insert_known found _).le
  | removed found _ =>
    have gone := FinMap.card_erase found
    change (h.connections.erase _).keys.card ≤ _
    omega
  | usersInsert => exact le_rfl
  | topicsInsert => exact le_rfl
  | topicsRemove => exact le_rfl
  | usersRemove => exact le_rfl

theorem step_withinLimit_iff (sequenced : Sequenced s) (within : WithinLimit limit s)
    (hs : step encode s l = some t) : WithinLimit limit t ↔ RoomLeft limit s l := by
  cases l with
  | start name op =>
    obtain ⟨_, _, rfl⟩ := start_cases hs
    exact iff_of_true within trivial
  | run name ids topics =>
    obtain ⟨c, rest, h, more, found, done, rfl⟩ := run_cases hs
    by_cases insertion : ∃ id userId now, c = .connectionsInsert id userId now
    · obtain ⟨id, userId, now, rfl⟩ := insertion
      have larger := insert_card sequenced.opened done
      simp only [RoomLeft, found]
      change h.connections.keys.card ≤ limit ↔ _
      omega
    · have smaller := (exec_touch done).card_le
        fun id userId now same => insertion ⟨id, userId, now, same⟩
      refine iff_of_true (smaller.trans within) ?_
      simp only [RoomLeft, found]
      split
      · rename_i head
        obtain ⟨rfl, _⟩ := List.cons.inj (Option.some.inj head)
        exact absurd ⟨_, _, _, rfl⟩ insertion
      · trivial

end Step

theorem reachable_sequenced {encode : ServerMessage Value → Except WsError ByteString}
    {nodeId : Uuid} {config : WebSocketConfig} {clusterTx : Option (Mpsc (ClusterFrame Value))}
    {s : HubTasks Value} (reach : (machine encode nodeId config clusterTx).Reachable s) :
    Sequenced s :=
  Machine.ReachableWhere.invariant (I := Sequenced) (init_sequenced nodeId config clusterTx)
    (fun _ _ _ sequenced _ hs => step_sequenced sequenced hs) reach

/-- A run stays within the limit in each of its states exactly when every
registration that inserts finds room. -/
theorem connection_limit_iff {encode : ServerMessage Value → Except WsError ByteString}
    {nodeId : Uuid} {config : WebSocketConfig} {clusterTx : Option (Mpsc (ClusterFrame Value))}
    (ls : List (TaskLabel Value)) (s : HubTasks Value) :
    ((machine encode nodeId config clusterTx).Run
        (fun s _ => WithinLimit config.maxConnections s) ls s ∧
      WithinLimit config.maxConnections s) ↔
    (machine encode nodeId config clusterTx).Run (RoomLeft config.maxConnections) ls s :=
  Machine.Run.throughout_iff (P := WithinLimit config.maxConnections) (Nat.zero_le _)
    (fun _ _ _ reach within hs => step_withinLimit_iff (reachable_sequenced reach) within hs) ls s

section Examples

/-- Room for one connection. -/
def single : Machine (HubTasks Nat) (TaskLabel Nat) := machine WsHub.plainFrame 9 ⟨1, 0, 1⟩ none

/-- Two handshakes at once: both look before either inserts. -/
def twoHandshakes : List (TaskLabel Nat) :=
  [.start (.other 0) (.register 1 none 0), .start (.other 1) (.register 2 none 0),
    .run (.other 0) [] [], .run (.other 1) [] [], .run (.other 0) [] [], .run (.other 1) [] []]

theorem limit_exceeded : ¬ ∀ s, single.Reachable s → WithinLimit 1 s := by
  intro claim
  obtain ⟨s, reach, both⟩ := Machine.reachable_of_replay (M := single)
    (p := fun s => decide (¬ s.hub.connections.keys.card ≤ 1)) twoHandshakes (by decide)
  exact of_decide_eq_true both (claim s reach)

end Examples

end HubTasks
end ApiBoilerplate
