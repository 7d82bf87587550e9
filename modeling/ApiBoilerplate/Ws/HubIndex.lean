import ApiBoilerplate.Ws.Fanout

/-!
# The three maps of the hub agree

Between whole operations the topic index and the user index mirror the
connection table exactly, and neither keeps an empty set. Subscribing and
registering add one pair on both sides; removing a connection, on request or
because it was too slow, takes its pairs out of both indexes.
-/

namespace ApiBoilerplate

open Foundation

namespace WsHub
variable {Value : Type}

structure IndexConsistent (h : WsHub Value) : Prop where
  topics_iff : ∀ t id, id ∈ h.topics.members t ↔
    ∃ conn, h.connections.lookup id = some conn ∧ t ∈ conn.topics
  users_iff : ∀ u id, id ∈ h.users.members u ↔
    ∃ conn, h.connections.lookup id = some conn ∧ conn.userId = some u
  topics_noEmpty : h.topics.NoEmpty
  users_noEmpty : h.users.NoEmpty

/-- Some index still files something under `id`. -/
def Mentions (h : WsHub Value) (id : ConnectionId) : Prop :=
  (∃ t, id ∈ h.topics.members t) ∨ ∃ u, id ∈ h.users.members u

theorem IndexConsistent.not_mentions {h : WsHub Value} (hc : h.IndexConsistent)
    {id : ConnectionId} (gone : h.connections.lookup id = none) : ¬ h.Mentions id := by
  rintro (⟨t, ht⟩ | ⟨u, hu⟩)
  · obtain ⟨conn, lookup, _⟩ := (hc.topics_iff t id).mp ht
    rw [gone] at lookup
    cases lookup
  · obtain ⟨conn, lookup, _⟩ := (hc.users_iff u id).mp hu
    rw [gone] at lookup
    cases lookup

theorem new_consistent (nodeId : Uuid) (config : WebSocketConfig)
    (clusterTx : Option (Mpsc (ClusterFrame Value))) :
    (new nodeId config clusterTx).IndexConsistent := by
  constructor
  · simp [new]
  · simp [new]
  · exact .empty
  · exact .empty

/-- Replacing what is not an index keeps the indexes consistent. -/
theorem IndexConsistent.congr {h g : WsHub Value} (hc : h.IndexConsistent)
    (connections : g.connections = h.connections) (topics : g.topics = h.topics)
    (users : g.users = h.users) : g.IndexConsistent := by
  constructor
  · rw [topics, connections]; exact hc.topics_iff
  · rw [users, connections]; exact hc.users_iff
  · rw [topics]; exact hc.topics_noEmpty
  · rw [users]; exact hc.users_noEmpty

theorem connectionsInsert_consistent {h : WsHub Value} (hc : h.IndexConsistent)
    {id : ConnectionId} (fresh : h.connections.lookup id = none) (now : DateTime) :
    (h.connectionsInsert id none now).IndexConsistent := by
  have quiet := hc.not_mentions fresh
  constructor
  · intro t k
    simp only [connectionsInsert, FinMap.lookup_insert_eq]
    by_cases hk : k = id
    · subst hk
      have absent : k ∉ h.topics.members t := fun ht => quiet (Or.inl ⟨t, ht⟩)
      simp [absent]
    · simpa [hk] using hc.topics_iff t k
  · intro u k
    simp only [connectionsInsert, FinMap.lookup_insert_eq]
    by_cases hk : k = id
    · subst hk
      have absent : k ∉ h.users.members u := fun hu => quiet (Or.inr ⟨u, hu⟩)
      simp [absent]
    · simpa [hk] using hc.users_iff u k
  · exact hc.topics_noEmpty
  · exact hc.users_noEmpty

theorem insert_user_consistent {h : WsHub Value} (hc : h.IndexConsistent)
    {id : ConnectionId} (fresh : h.connections.lookup id = none) (userId : Uuid)
    (now : DateTime) :
    ((h.connectionsInsert id (some userId) now).usersInsert userId id).IndexConsistent := by
  have quiet := hc.not_mentions fresh
  constructor
  · intro t k
    simp only [connectionsInsert, usersInsert, FinMap.lookup_insert_eq]
    by_cases hk : k = id
    · subst hk
      have absent : k ∉ h.topics.members t := fun ht => quiet (Or.inl ⟨t, ht⟩)
      simp [absent]
    · simpa [hk] using hc.topics_iff t k
  · intro u k
    simp only [connectionsInsert, usersInsert, FinMap.lookup_insert_eq,
      Index.mem_members_attach]
    by_cases hk : k = id
    · subst hk
      have absent : k ∉ h.users.members u := fun hu => quiet (Or.inr ⟨u, hu⟩)
      simp [absent, eq_comm]
    · simpa [hk] using hc.users_iff u k
  · exact hc.topics_noEmpty
  · exact hc.users_noEmpty.attach userId id

theorem register_consistent {h : WsHub Value} (hc : h.IndexConsistent) {id : ConnectionId}
    (fresh : h.connections.lookup id = none) (userId : Option Uuid) (now : DateTime) :
    (h.register id userId now).2.IndexConsistent := by
  rw [register]
  split
  · exact hc
  · cases userId with
    | none => exact connectionsInsert_consistent hc fresh now
    | some u => exact insert_user_consistent hc fresh u now

theorem unregister_consistent {h : WsHub Value} (hc : h.IndexConsistent) (id : ConnectionId) :
    (h.unregister id).IndexConsistent := by
  cases lookup : h.connections.lookup id with
  | none => simpa only [unregister, lookup] using hc
  | some conn =>
    have topics : ∀ t, id ∈ h.topics.members t ↔ t ∈ conn.topics := by
      intro t
      rw [hc.topics_iff, lookup]
      simp
    have users : ∀ u, id ∈ h.users.members u ↔ conn.userId = some u := by
      intro u
      rw [hc.users_iff, lookup]
      simp
    simp only [unregister, lookup, connectionsRemove]
    constructor
    · intro t k
      simp only [Index.mem_members_detachAll, FinMap.lookup_erase_eq]
      by_cases hk : k = id
      · subst hk
        simp [topics]
      · simpa [hk] using hc.topics_iff t k
    · intro u k
      simp only [FinMap.lookup_erase_eq]
      by_cases hk : k = id
      · subst hk
        have gone := users u
        cases hu : conn.userId with
        | none => simpa [hu] using gone
        | some w =>
          rw [hu, Option.some.injEq, eq_comm] at gone
          simp [gone]
      · have kept := hc.users_iff u k
        cases hu : conn.userId with
        | none => simpa [hk] using kept
        | some w => simpa [hk] using kept
    · exact hc.topics_noEmpty.detachAll conn.topics id
    · cases conn.userId with
      | none => exact hc.users_noEmpty
      | some w => exact hc.users_noEmpty.detach w id

theorem subscribe_consistent {h : WsHub Value} (hc : h.IndexConsistent) (id : ConnectionId)
    (topic : Topic) : (h.subscribe id topic).2.IndexConsistent := by
  rcases h.subscribe_cases id topic with same | ⟨conn, lookup, same⟩
  · rw [same]
    exact hc
  · rw [same]
    constructor
    · intro t k
      simp only [FinMap.lookup_insert_eq, Index.mem_members_attach]
      by_cases hk : k = id
      · subst hk
        have listed := hc.topics_iff t k
        simp only [lookup, Option.some.injEq, exists_eq_left'] at listed
        simp [listed]
      · simpa [hk] using hc.topics_iff t k
    · intro u k
      simp only [FinMap.lookup_insert_eq]
      by_cases hk : k = id
      · subst hk
        have listed := hc.users_iff u k
        simp only [lookup, Option.some.injEq, exists_eq_left'] at listed
        simp [listed]
      · simpa [hk] using hc.users_iff u k
    · exact hc.topics_noEmpty.attach topic id
    · exact hc.users_noEmpty

theorem unsubscribe_consistent {h : WsHub Value} (hc : h.IndexConsistent) (id : ConnectionId)
    (topic : Topic) : (h.unsubscribe id topic).IndexConsistent := by
  rcases h.unsubscribe_cases id topic with ⟨lookup, same⟩ | ⟨conn, lookup, same⟩
  · rw [same]
    constructor
    · intro t k
      rw [Index.mem_members_detach, hc.topics_iff]
      constructor
      · exact fun listed => listed.1
      · intro listed
        refine ⟨listed, ?_⟩
        rintro ⟨_, rfl⟩
        obtain ⟨conn, found, _⟩ := listed
        rw [lookup] at found
        cases found
    · exact hc.users_iff
    · exact hc.topics_noEmpty.detach topic id
    · exact hc.users_noEmpty
  · rw [same]
    constructor
    · intro t k
      simp only [Index.mem_members_detach, FinMap.lookup_insert_eq]
      by_cases hk : k = id
      · subst hk
        have listed := hc.topics_iff t k
        simp only [lookup, Option.some.injEq, exists_eq_left'] at listed
        simp [listed, and_comm]
      · simpa [hk] using hc.topics_iff t k
    · intro u k
      simp only [FinMap.lookup_insert_eq]
      by_cases hk : k = id
      · subst hk
        have listed := hc.users_iff u k
        simp only [lookup, Option.some.injEq, exists_eq_left'] at listed
        simp [listed]
      · simpa [hk] using hc.users_iff u k
    · exact hc.topics_noEmpty.detach topic id
    · exact hc.users_noEmpty

theorem deliver_consistent {h : WsHub Value} (hc : h.IndexConsistent)
    (ids : Finset ConnectionId) (frame : ByteString) :
    (h.deliver ids frame).2.IndexConsistent :=
  deliver_induction (I := IndexConsistent) (fun _ id hg => unregister_consistent hg id)
    (fun _ hg => hg.congr rfl rfl rfl) (fun _ _ hg => hg.congr rfl rfl rfl) h ids frame
    (hc.congr rfl rfl rfl)

/-- The channel of a registered connection was opened when it was registered. -/
def ConnectionsHaveChannels (h : WsHub Value) : Prop :=
  ∀ id, id ∈ h.connections → id ∈ h.channels

theorem unregister_haveChannels {h : WsHub Value} (hc : h.ConnectionsHaveChannels)
    (id : ConnectionId) : (h.unregister id).ConnectionsHaveChannels := by
  intro k hk
  rw [unregister_channels]
  apply hc k
  rw [← Finmap.lookup_isSome, lookup_unregister] at hk
  rw [← Finmap.lookup_isSome]
  split_ifs at hk with same
  · cases hk
  · exact hk

theorem deliver_haveChannels {h : WsHub Value} (hc : h.ConnectionsHaveChannels)
    (ids : Finset ConnectionId) (frame : ByteString) :
    (h.deliver ids frame).2.ConnectionsHaveChannels := by
  refine deliver_induction (I := ConnectionsHaveChannels)
    (fun _ id hg => unregister_haveChannels hg id) (fun _ hg => hg) (fun _ _ hg => hg)
    h ids frame ?_
  intro k hk
  have opened := hc k hk
  rw [← Finmap.lookup_isSome] at opened ⊢
  rw [offerAll_lookup]
  split_ifs
  · simpa using opened
  · exact opened

theorem register_haveChannels {h : WsHub Value} (hc : h.ConnectionsHaveChannels)
    (id : ConnectionId) (userId : Option Uuid) (now : DateTime) :
    (h.register id userId now).2.ConnectionsHaveChannels := by
  intro k hk
  rw [register] at hk ⊢
  split at hk
  · rename_i full
    rw [if_pos full]
    exact hc k hk
  · rename_i room
    rw [if_neg room]
    have listed : k = id ∨ k ∈ h.connections := by
      cases userId <;> simpa [connectionsInsert, usersInsert] using hk
    have opened : k = id ∨ k ∈ h.channels := listed.imp_right (hc k)
    cases userId <;> simpa [connectionsInsert, usersInsert] using opened

theorem subscribe_haveChannels {h : WsHub Value} (hc : h.ConnectionsHaveChannels)
    (id : ConnectionId) (topic : Topic) :
    (h.subscribe id topic).2.ConnectionsHaveChannels := by
  rcases h.subscribe_cases id topic with same | ⟨conn, lookup, same⟩
  · rw [same]
    exact hc
  · have known := Finmap.mem_of_lookup_eq_some lookup
    rw [same]
    intro k hk
    have listed : k = id ∨ k ∈ h.connections := by simpa using hk
    exact hc k (listed.elim (fun same => same ▸ known) (fun old => old))

theorem unsubscribe_haveChannels {h : WsHub Value} (hc : h.ConnectionsHaveChannels)
    (id : ConnectionId) (topic : Topic) :
    (h.unsubscribe id topic).ConnectionsHaveChannels := by
  rcases h.unsubscribe_cases id topic with ⟨_, same⟩ | ⟨conn, lookup, same⟩
  · rw [same]
    exact hc
  · have known := Finmap.mem_of_lookup_eq_some lookup
    rw [same]
    intro k hk
    have listed : k = id ∨ k ∈ h.connections := by simpa using hk
    exact hc k (listed.elim (fun same => same ▸ known) (fun old => old))

/-- What holds between whole operations; freshness of ids needs the channels. -/
structure Settled (h : WsHub Value) : Prop extends IndexConsistent h where
  opened : h.ConnectionsHaveChannels

theorem new_settled (nodeId : Uuid) (config : WebSocketConfig)
    (clusterTx : Option (Mpsc (ClusterFrame Value))) : (new nodeId config clusterTx).Settled :=
  ⟨new_consistent nodeId config clusterTx, fun _ hid => absurd hid Finmap.notMem_empty⟩

theorem Settled.of_fresh {h : WsHub Value} (hs : h.Settled) {id : ConnectionId}
    (fresh : id ∉ h.channels) : h.connections.lookup id = none :=
  Finmap.lookup_eq_none.mpr (fun known => fresh (hs.opened id known))

/-- The indexes resolve an address to the connections it covers. -/
theorem IndexConsistent.mem_audience_iff {h : WsHub Value} (hc : h.IndexConsistent)
    (addr : Address) (id : ConnectionId) :
    id ∈ h.audience addr ∧ id ∈ h.connections ↔ h.hears addr id = true := by
  rw [← Finmap.lookup_isSome, hears]
  cases lookup : h.connections.lookup id with
  | none => simp
  | some conn =>
    cases addr with
    | topic t => simp [audience, Address.covers, hc.topics_iff, lookup]
    | user u => simp [audience, Address.covers, hc.users_iff, lookup]
    | all => simp [audience, Address.covers, Finmap.mem_keys, ← Finmap.lookup_isSome, lookup]
    | only k => simp [audience, Address.covers, eq_comm]

theorem post_settled (encode : ServerMessage Value → Except WsError ByteString)
    {h : WsHub Value} (hs : h.Settled) (addr : Address) (topic : Topic) (payload : Value) :
    (h.post encode addr topic payload).Settled := by
  rw [post]
  cases eventFrame encode topic payload with
  | error e => exact hs
  | ok frame =>
    exact ⟨deliver_consistent hs.toIndexConsistent _ frame, deliver_haveChannels hs.opened _ frame⟩

theorem step_settled {encode : ServerMessage Value → Except WsError ByteString}
    {h h' : WsHub Value} {op : Op Value} (hs : step encode h op = some h')
    (settled : h.Settled) : h'.Settled := by
  refine step_induction (I := Settled) ?register ?unregister ?subscribe ?unsubscribe
    (fun _ addr topic payload hg => post_settled encode hg addr topic payload) ?relay ?receiver
    hs settled
  case register =>
    intro h id userId now fresh hg
    exact ⟨register_consistent hg.toIndexConsistent (hg.of_fresh fresh) userId now,
      register_haveChannels hg.opened id userId now⟩
  case unregister =>
    intro h id hg
    exact ⟨unregister_consistent hg.toIndexConsistent id, unregister_haveChannels hg.opened id⟩
  case subscribe =>
    intro h id topic hg
    exact ⟨subscribe_consistent hg.toIndexConsistent id topic,
      subscribe_haveChannels hg.opened id topic⟩
  case unsubscribe =>
    intro h id topic hg
    exact ⟨unsubscribe_consistent hg.toIndexConsistent id topic,
      unsubscribe_haveChannels hg.opened id topic⟩
  case relay => exact fun h r hg => ⟨hg.congr rfl rfl rfl, hg.opened⟩
  case receiver =>
    intro h id rx rx' _ _ hg
    exact ⟨hg.congr rfl rfl rfl, fun k hk => Finmap.mem_insert.mpr (Or.inr (hg.opened k hk))⟩

section Runs
variable {encode : ServerMessage Value → Except WsError ByteString} {nodeId : Uuid}
  {config : WebSocketConfig} {clusterTx : Option (Mpsc (ClusterFrame Value))}

theorem reachable_settled {h : WsHub Value}
    (reach : (machine encode nodeId config clusterTx).Reachable h) : h.Settled :=
  Machine.ReachableWhere.invariant (I := Settled) (new_settled nodeId config clusterTx)
    (fun _ _ _ settled _ hs => step_settled hs settled) reach

/-- The indexes mirror the connection table in every reachable state, and a
connection that was unregistered or evicted is mentioned nowhere any more. -/
theorem reachable_index_consistent {h : WsHub Value}
    (reach : (machine encode nodeId config clusterTx).Reachable h) :
    h.IndexConsistent ∧
    (∀ id, id ∉ h.connections → ¬ h.Mentions id) ∧
    (∀ id, ¬ (h.unregister id).Mentions id) ∧
    (∀ ids frame id, id ∈ ids → h.Stalled id → ¬ (h.deliver ids frame).2.Mentions id) := by
  have hc := (reachable_settled reach).toIndexConsistent
  refine ⟨hc, ?_, ?_, ?_⟩
  · intro id gone
    exact hc.not_mentions (Finmap.lookup_eq_none.mpr gone)
  · intro id
    apply (unregister_consistent hc id).not_mentions
    rw [lookup_unregister, if_pos rfl]
  · intro ids frame id hid stalled
    apply (deliver_consistent hc ids frame).not_mentions
    rw [Option.eq_none_iff_forall_ne_some]
    intro conn kept
    exact ((deliver_evicts_iff h ids frame id conn).mp kept).2 ⟨hid, stalled⟩

end Runs

/-- Two subscribers with one-frame queues; the second publish evicts the one
that did not drain. -/
def slowClientRun : List (Op Nat) :=
  [.register 1 (some 7) 0, .register 2 none 0, .subscribe 1 "firehose",
    .subscribe 2 "firehose", .publish "firehose" (.ok 1), .drain 2,
    .publish "firehose" (.ok 2)]

def plainFrame : ServerMessage Nat → Except WsError ByteString
  | .event topic n => .ok (topic ++ String.ofList (List.replicate n '!'))
  | _ => .ok ""

theorem reachable_index_consistent_slowClient :
    ∃ h : WsHub Nat, h.IndexConsistent ∧ (1 : Uuid) ∉ h.connections ∧
      ¬ h.Mentions (1 : Uuid) ∧ (2 : Uuid) ∈ h.topics.members "firehose" := by
  obtain ⟨h, reach, evicted⟩ := Machine.reachable_of_replay
    (M := machine plainFrame 9 ⟨0, 0, 1⟩ none)
    (p := fun h => decide ((1 : Uuid) ∉ h.connections ∧ (2 : Uuid) ∈ h.topics.members "firehose"))
    slowClientRun (by decide)
  obtain ⟨gone, listed⟩ := of_decide_eq_true evicted
  obtain ⟨hc, quiet, _, _⟩ := reachable_index_consistent reach
  exact ⟨h, hc, gone, quiet 1 gone, listed⟩

end WsHub
end ApiBoilerplate
