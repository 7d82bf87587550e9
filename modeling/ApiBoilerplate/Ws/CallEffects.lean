import ApiBoilerplate.Ws.NoIndexLeak

/-!
# What a call puts in front and whom it reaches

Two more readings of one call: which calls it may put in front, with the data
they carry over, and which queues it touches.
-/

namespace ApiBoilerplate

open Foundation
open WsHub (Op)

/-- Calls that only take something out or count. -/
def Call.isCleanup {Value : Type} : Call Value → Bool
  | .topicsRemove _ _ => true
  | .topicsRemoveIf _ => true
  | .connectionsRemove _ => true
  | .usersRemove _ _ => true
  | .usersRemoveIf _ => true
  | .countSlow => true
  | .countSent _ => true
  | _ => false

/-- The connection whose queue a call works on. -/
def Call.queue {Value : Type} : Call Value → Option ConnectionId
  | .connectionsInsert id _ _ => some id
  | .drain id => some id
  | .dropReceiver id => some id
  | .deliver _ _ (id :: _) _ _ => some id
  | _ => none

def Call.usesRelay {Value : Type} : Call Value → Bool
  | .forwardToCluster _ _ _ => true
  | .relay => true
  | _ => false

namespace HubTasks
variable {Value : Type} {encode : ServerMessage Value → Except WsError ByteString}

/-- The calls that a call may put in front. -/
inductive Puts (encode : ServerMessage Value → Except WsError ByteString) (h : WsHub Value) :
    Call Value → Call Value → Prop where
  | cleanup {c d : Call Value} : d.isCleanup = true → Puts encode h c d
  | register {id : ConnectionId} {userId : Option Uuid} {now : DateTime} :
      Puts encode h (.connectionsLen id userId now) (.connectionsInsert id userId now)
  | user {id : ConnectionId} {u : Uuid} {now : DateTime} :
      Puts encode h (.connectionsInsert id (some u) now) (.usersInsert u id)
  | topic {id : ConnectionId} {t : Topic} :
      Puts encode h (.subscribeConnection id t) (.topicsInsert t id)
  | audience {addr : Address} {t : Topic} {payload : Value} {frame : ByteString}
      {ids : List ConnectionId} :
      WsHub.eventFrame encode t payload = .ok frame → Enumerates ids (h.audience addr) →
      Puts encode h (.readAudience addr t payload) (.deliver addr frame ids 0 [])
  | deliver {addr : Address} {frame : ByteString} {id : ConnectionId} {ids : List ConnectionId}
      {n m : Nat} {slow slow' : List ConnectionId} :
      Puts encode h (.deliver addr frame (id :: ids) n slow) (.deliver addr frame ids m slow')

theorem evictCalls_cleanup {slow : List ConnectionId} {n : Nat} {d : Call Value}
    (hd : d ∈ evictCalls slow n) : d.isCleanup = true := by
  simp only [evictCalls, List.mem_append, List.mem_flatMap, List.mem_cons,
    List.not_mem_nil, or_false] at hd
  rcases hd with ⟨id, _, rfl | rfl⟩ | rfl
  · rfl
  · rfl
  · rfl

theorem detachCalls_cleanup {conn : Connection} {id : ConnectionId} {topics : List Topic}
    {d : Call Value} (hd : d ∈ detachCalls conn id topics) : d.isCleanup = true := by
  rcases List.mem_append.mp hd with hd | hd
  · obtain ⟨t, _, hd⟩ := List.mem_flatMap.mp hd
    simp only [List.mem_cons, List.not_mem_nil, or_false] at hd
    rcases hd with rfl | rfl
    · rfl
    · rfl
  · cases user : conn.userId with
    | none => simp [user] at hd
    | some u =>
      simp only [user, List.mem_cons, List.not_mem_nil, or_false] at hd
      rcases hd with rfl | rfl
      · rfl
      · rfl

theorem exec_puts {ids : List ConnectionId} {topics : List Topic} {h h' : WsHub Value}
    {c d : Call Value} {more : List (Call Value)}
    (done : exec encode ids topics h c = some (h', more)) (hd : d ∈ more) :
    Puts encode h c d := by
  cases exec_made done with
  | admitted _ =>
    obtain rfl := List.mem_singleton.mp hd
    exact .register
  | registeredFor _ =>
    obtain rfl := List.mem_singleton.mp hd
    exact .user
  | subscribed _ =>
    obtain rfl := List.mem_singleton.mp hd
    exact .topic
  | unsubscribedGone _ | unsubscribed _ =>
    rcases List.mem_cons.mp hd with rfl | hd
    · exact .cleanup rfl
    · obtain rfl := List.mem_singleton.mp hd
      exact .cleanup rfl
  | removed _ _ => exact .cleanup (detachCalls_cleanup hd)
  | audience order encoded =>
    obtain rfl := List.mem_singleton.mp hd
    exact .audience encoded order
  | delivered _ | passed _ =>
    obtain rfl := List.mem_singleton.mp hd
    exact .deliver
  | served => exact .cleanup (evictCalls_cleanup hd)
  | atCapacity | registered | usersInsert | refused | topicsInsert | topicsRemove | topicsRemoveIf
  | removedGone | usersRemove | usersRemoveIf | forwarded | unencoded | countSlow | countSent
  | drained | dropped | relayed => cases hd

/-- Only a delivery logs, and it logs the id it serves next. -/
theorem mem_logged {h : WsHub Value} {c : Call Value} {addr : Address} {id : ConnectionId}
    {frame : ByteString} (entry : (addr, id, frame) ∈ logged h c) :
    ∃ rest n slow, c = .deliver addr frame (id :: rest) n slow := by
  unfold logged at entry
  split at entry
  · rename_i addr' frame' id' rest n slow
    split at entry
    · obtain ⟨rfl, rfl, rfl⟩ := by simpa using entry
      exact ⟨rest, n, slow, rfl⟩
    · cases entry
  · cases entry

/-- What a call does to the hub besides its tables and counters: it may change
the queue it works on, and the relay queue if it uses it. -/
structure Outside (h : WsHub Value) (c : Call Value) (h' : WsHub Value) : Prop where
  config : h'.config = h.config
  channels : h'.channels = h.channels ∨
    ∃ id tx, c.queue = some id ∧ h'.channels = h.channels.insert id tx
  clusterTx : c.usesRelay = false → h'.clusterTx = h.clusterTx

section Outside
variable {h h' : WsHub Value} {c : Call Value} {more : List (Call Value)}

theorem Outside.untouched (config : h'.config = h.config) (channels : h'.channels = h.channels)
    (clusterTx : h'.clusterTx = h.clusterTx) : Outside h c h' :=
  ⟨config, Or.inl channels, fun _ => clusterTx⟩

theorem Outside.queue {id : ConnectionId} {tx : Mpsc ByteString} (works : c.queue = some id) :
    Outside h c { h with channels := h.channels.insert id tx } :=
  ⟨rfl, Or.inr ⟨id, tx, works, rfl⟩, fun _ => rfl⟩

theorem Outside.relay {relay : Option (Mpsc (ClusterFrame Value))} (uses : c.usesRelay = true) :
    Outside h c { h with clusterTx := relay } := by
  refine ⟨rfl, Or.inl rfl, fun publishes => ?_⟩
  rw [uses] at publishes
  cases publishes

theorem exec_outside {ids : List ConnectionId} {topics : List Topic}
    (done : exec encode ids topics h c = some (h', more)) : Outside h c h' := by
  cases exec_made done with
  | registered _ => exact ⟨rfl, Or.inr ⟨_, _, rfl, rfl⟩, fun _ => rfl⟩
  | registeredFor _ => exact ⟨rfl, Or.inr ⟨_, _, rfl, rfl⟩, fun _ => rfl⟩
  | delivered _ => exact .queue rfl
  | drained _ _ => exact .queue rfl
  | dropped _ => exact .queue rfl
  | forwarded => exact .relay rfl
  | relayed => exact .relay rfl
  | atCapacity | admitted | usersInsert | refused | subscribed | topicsInsert | unsubscribedGone
  | unsubscribed | topicsRemove | topicsRemoveIf | removedGone | removed | usersRemove
  | usersRemoveIf | unencoded | audience | passed | served | countSlow | countSent =>
    exact .untouched rfl rfl rfl

theorem exec_channels_ne {ids : List ConnectionId} {topics : List Topic} {k : ConnectionId}
    (other : c.queue ≠ some k) (done : exec encode ids topics h c = some (h', more)) :
    h'.channels.lookup k = h.channels.lookup k := by
  rcases (exec_outside done).channels with same | ⟨id, tx, works, changed⟩
  · rw [same]
  · rw [changed]
    exact Finmap.lookup_insert_of_ne _ (fun same => other (same ▸ works))

/-- Only publishing and relaying use the relay queue. -/
theorem exec_clusterTx {ids : List ConnectionId} {topics : List Topic}
    (publishes : c.usesRelay = false) (done : exec encode ids topics h c = some (h', more)) :
    h'.clusterTx = h.clusterTx := (exec_outside done).clusterTx publishes

/-- No call changes the configuration. -/
theorem exec_config {ids : List ConnectionId} {topics : List Topic}
    (done : exec encode ids topics h c = some (h', more)) : h'.config = h.config :=
  (exec_outside done).config

end Outside

/-- The frames the log has for one connection, in order. -/
def framesOf (log : List (Address × ConnectionId × ByteString)) (k : ConnectionId) :
    List ByteString :=
  (log.filter (fun entry => entry.2.1 = k)).map (·.2.2)

@[simp] theorem framesOf_nil (k : ConnectionId) : framesOf [] k = [] := rfl

theorem framesOf_append (log more : List (Address × ConnectionId × ByteString))
    (k : ConnectionId) : framesOf (log ++ more) k = framesOf log k ++ framesOf more k := by
  simp [framesOf]

theorem mem_framesOf {log : List (Address × ConnectionId × ByteString)} {k : ConnectionId}
    {frame : ByteString} : frame ∈ framesOf log k ↔ ∃ addr, (addr, k, frame) ∈ log := by
  constructor
  · intro listed
    obtain ⟨⟨addr, id, frame'⟩, kept, rfl⟩ := List.mem_map.mp listed
    obtain ⟨entry, same⟩ := List.mem_filter.mp kept
    obtain rfl : id = k := by simpa using same
    exact ⟨addr, entry⟩
  · rintro ⟨addr, entry⟩
    exact List.mem_map.mpr ⟨_, List.mem_filter.mpr ⟨entry, by simp⟩, rfl⟩

theorem framesOf_logged_ne {h : WsHub Value} {c : Call Value} {k : ConnectionId}
    (other : c.queue ≠ some k) : framesOf (logged h c) k = [] := by
  apply List.eq_nil_iff_forall_not_mem.mpr
  intro frame listed
  obtain ⟨addr, entry⟩ := mem_framesOf.mp listed
  obtain ⟨rest, n, slow, rfl⟩ := mem_logged entry
  exact other rfl

/-- A queue after a call: opened just now, or what it was with what the call logs for it. -/
theorem exec_sent {ids : List ConnectionId} {topics : List Topic} {h h' : WsHub Value}
    {c : Call Value} {more : List (Call Value)} {k : ConnectionId} {rx' : Mpsc ByteString}
    (done : exec encode ids topics h c = some (h', more))
    (lookup : h'.channels.lookup k = some rx') :
    (k ∉ h.channels ∧ rx'.sent = [] ∧ framesOf (logged h c) k = []) ∨
      ∃ rx, h.channels.lookup k = some rx ∧ rx'.sent = rx.sent ++ framesOf (logged h c) k := by
  by_cases moved : c.queue = some k
  · cases exec_made done with
    | registered fresh | registeredFor fresh =>
      obtain rfl := Option.some.inj moved
      obtain rfl := Option.some.inj ((Finmap.lookup_insert _).symm.trans lookup)
      exact Or.inl ⟨fresh, rfl, rfl⟩
    | @delivered addr frame id rest n slow tx sent =>
      obtain rfl := Option.some.inj moved
      obtain rfl := Option.some.inj ((Finmap.lookup_insert _).symm.trans lookup)
      obtain ⟨rx, found, accepted⟩ := WsHub.attempt_ok sent
      obtain ⟨room, rfl⟩ := Mpsc.trySend_ok accepted
      refine Or.inr ⟨rx, found, ?_⟩
      rw [Mpsc.push_sent]
      simp [logged, sent, framesOf]
    | @passed addr frame id rest n slow slow' refused =>
      obtain rfl := Option.some.inj moved
      have silent : logged h (.deliver addr frame (id :: rest) n slow) = [] := by
        rw [logged]
        split
        · rename_i tx sent
          exact absurd sent (refused tx)
        · rfl
      exact Or.inr ⟨rx', lookup, by rw [silent, framesOf_nil, List.append_nil]⟩
    | drained found taken =>
      obtain rfl := Option.some.inj moved
      obtain rfl := Option.some.inj ((Finmap.lookup_insert _).symm.trans lookup)
      refine Or.inr ⟨_, found, ?_⟩
      rw [Mpsc.recv_sent taken]
      exact (List.append_nil _).symm
    | dropped found =>
      obtain rfl := Option.some.inj moved
      obtain rfl := Option.some.inj ((Finmap.lookup_insert _).symm.trans lookup)
      exact Or.inr ⟨_, found, (List.append_nil _).symm⟩
    | _ => cases moved
  · rw [exec_channels_ne moved done] at lookup
    exact Or.inr ⟨rx', lookup, by rw [framesOf_logged_ne moved, List.append_nil]⟩

/-- The log is what the queues were sent, and names opened queues only. -/
structure LogComplete (s : HubTasks Value) : Prop where
  sent : ∀ k rx, s.hub.channels.lookup k = some rx → rx.sent = framesOf s.log k
  opened : ∀ addr k frame, (addr, k, frame) ∈ s.log → k ∈ s.hub.channels

theorem run_logComplete {s t : HubTasks Value} {name : TaskName} {ids : List ConnectionId}
    {topics : List Topic} (complete : LogComplete s)
    (ran : step encode s (.run name ids topics) = some t) : LogComplete t := by
  obtain ⟨c, rest, h, more, found, done, rfl⟩ := run_cases ran
  have grows : ∀ k, k ∈ s.hub.channels → k ∈ h.channels := fun k => (exec_touch done).channels
  constructor
  · intro k rx' lookup
    change rx'.sent = framesOf (s.log ++ logged s.hub c) k
    rw [framesOf_append]
    rcases exec_sent done lookup with ⟨fresh, empty, none⟩ | ⟨rx, before, sent⟩
    · have silent : framesOf s.log k = [] := by
        apply List.eq_nil_iff_forall_not_mem.mpr
        intro frame listed
        obtain ⟨addr, entry⟩ := mem_framesOf.mp listed
        exact fresh (complete.opened addr k frame entry)
      rw [empty, silent, none, List.append_nil]
    · rw [sent, complete.sent k rx before]
  · intro addr k frame entry
    rcases List.mem_append.mp entry with old | new
    · exact grows k (complete.opened addr k frame old)
    · unfold logged at new
      split at new
      · rename_i frame' id _ _ _
        split at new
        · rename_i tx sent
          obtain ⟨rfl, rfl, rfl⟩ := by simpa using new
          obtain ⟨rx, before, _⟩ := WsHub.attempt_ok sent
          exact grows k (Finmap.mem_of_lookup_eq_some before)
        · cases new
      · cases new

/-- Where an entry after a call and its topics come from. -/
theorem Touch.gains {h h' : WsHub Value} {c : Call Value} {more : List (Call Value)}
    (touch : Touch h c h' more) {id : ConnectionId} {conn' : Connection}
    (lookup : h'.connections.lookup id = some conn') :
    (∃ now, c = .connectionsInsert id conn'.userId now ∧ conn'.topics = ∅) ∨
      ∃ conn, h.connections.lookup id = some conn ∧ conn'.userId = conn.userId ∧
        ∀ t ∈ conn'.topics, t ∈ conn.topics ∨ c = .subscribeConnection id t := by
  have same : ∀ g : WsHub Value, g.connections.lookup id = h.connections.lookup id →
      g.connections.lookup id = some conn' →
      ∃ conn, h.connections.lookup id = some conn ∧ conn'.userId = conn.userId ∧
        ∀ t ∈ conn'.topics, t ∈ conn.topics ∨ c = .subscribeConnection id t :=
    fun g kept found => ⟨conn', kept ▸ found, rfl, fun t ht => Or.inl ht⟩
  cases touch with
  | quiet connections _ _ _ _ _ _ => exact Or.inr (same h' (by rw [connections]) lookup)
  | @connectionsInsert k userId now _ _ _ =>
    by_cases hk : id = k
    · subst hk
      obtain rfl := Option.some.inj ((Finmap.lookup_insert _).symm.trans lookup)
      exact Or.inl ⟨now, rfl, rfl⟩
    · exact Or.inr (same _ (Finmap.lookup_insert_of_ne _ hk) lookup)
  | usersInsert => exact Or.inr (same _ rfl lookup)
  | @subscribed k topic entry found =>
    by_cases hk : id = k
    · subst hk
      obtain rfl := Option.some.inj ((Finmap.lookup_insert _).symm.trans lookup)
      refine Or.inr ⟨entry, found, rfl, fun t ht => ?_⟩
      rcases Finset.mem_insert.mp ht with rfl | before
      · exact Or.inr rfl
      · exact Or.inl before
    · exact Or.inr (same _ (Finmap.lookup_insert_of_ne _ hk) lookup)
  | topicsInsert => exact Or.inr (same _ rfl lookup)
  | @unsubscribed k topic entry found =>
    by_cases hk : id = k
    · subst hk
      obtain rfl := Option.some.inj ((Finmap.lookup_insert _).symm.trans lookup)
      exact Or.inr ⟨entry, found, rfl, fun t ht => Or.inl (Finset.mem_of_mem_erase ht)⟩
    · exact Or.inr (same _ (Finmap.lookup_insert_of_ne _ hk) lookup)
  | topicsRemove => exact Or.inr (same _ rfl lookup)
  | @removed k entry topics found _ =>
    by_cases hk : id = k
    · subst hk
      have gone : (h.connections.erase id).lookup id = some conn' := lookup
      simp at gone
    · exact Or.inr (same _ (Finmap.lookup_erase_ne hk) lookup)
  | usersRemove => exact Or.inr (same _ rfl lookup)

end HubTasks
end ApiBoilerplate
