import ApiBoilerplate.UuidText
import ApiBoilerplate.Ws.Policy

/-!
# User topics and their aliases

The policy parses the id in a user topic and compares UUIDs; the hub compares
topics as text, and events go to the text that `Display` prints. A subscription
under another text of the same UUID is acknowledged, counts against the topic
limit and hears nothing.
-/

namespace ApiBoilerplate

open Foundation
open WsHub (Op)

namespace AppWsPolicy

/-- A user topic is granted when its id is read as the caller's. -/
theorem authorizeSubscribe_user {parseStr : String → Option Uuid} {ctx : WsContext} {u : Uuid}
    (signedIn : ctx.userId = some u) (raw : String) :
    authorizeSubscribe parseStr ctx (userPrefix ++ raw) = .ok () ↔ parseStr raw = some u := by
  have named : userPrefix ++ raw ≠ "" := by
    intro empty
    have chars := congrArg String.toList empty
    rw [String.toList_append] at chars
    cases chars
  have closed : ¬ startsWith (userPrefix ++ raw) publicPrefix = true := by
    rw [userPrefix_not_public]
    exact Bool.false_ne_true
  rw [authorizeSubscribe, if_neg named, if_neg closed, stripPrefix_append, signedIn]
  dsimp only
  cases parsed : parseStr raw with
  | none => simp
  | some id => by_cases own : id = u <;> simp [own]

end AppWsPolicy

namespace WsHub
variable {Value : Type}

/-- From `h` to `g` the connection is not registered anew, and while it is
registered it does not lose the topic. -/
structure KeepsTopic (id : ConnectionId) (topic : Topic) (h g : WsHub Value) : Prop where
  opened : id ∈ h.channels → id ∈ g.channels
  entry : ∀ conn', g.connections.lookup id = some conn' →
    ∃ conn, h.connections.lookup id = some conn ∧ (topic ∈ conn.topics → topic ∈ conn'.topics)

section Keeps
variable {id : ConnectionId} {topic : Topic} {h g : WsHub Value}

theorem KeepsTopic.of_same (opened : id ∈ h.channels → id ∈ g.channels)
    (connections : g.connections.lookup id = h.connections.lookup id) :
    KeepsTopic id topic h g where
  opened := opened
  entry conn' lookup := ⟨conn', connections.symm.trans lookup, fun listed => listed⟩

theorem register_keeps {k : ConnectionId} (other : id ≠ k) (userId : Option Uuid)
    (now : DateTime) : KeepsTopic id topic h (h.register k userId now).2 := by
  rw [register]
  split
  · exact .of_same (fun known => known) rfl
  · have inserted : KeepsTopic id topic h (h.connectionsInsert k userId now) :=
      .of_same (fun known => Finmap.mem_insert.mpr (Or.inr known))
        (Finmap.lookup_insert_of_ne _ other)
    cases userId with
    | none => exact inserted
    | some u => exact ⟨inserted.opened, inserted.entry⟩

theorem unregister_keeps (k : ConnectionId) : KeepsTopic id topic h (h.unregister k) := by
  constructor
  · rw [unregister_channels]
    exact fun known => known
  · intro conn' lookup
    rw [lookup_unregister] at lookup
    split at lookup
    · cases lookup
    · exact ⟨conn', lookup, fun listed => listed⟩

/-- The entry of a connection whose topics were changed. -/
theorem topics_changed {k : ConnectionId} {conn : Connection} {topics : Finset Topic}
    (lookup : h.connections.lookup k = some conn)
    (kept : id = k → topic ∈ conn.topics → topic ∈ topics) (conn' : Connection)
    (found : (h.connections.insert k { conn with topics }).lookup id = some conn') :
    ∃ conn, h.connections.lookup id = some conn ∧ (topic ∈ conn.topics → topic ∈ conn'.topics) := by
  rw [FinMap.lookup_insert_eq] at found
  split at found
  · rename_i same
    obtain rfl := Option.some.inj found
    exact ⟨conn, same ▸ lookup, kept same⟩
  · exact ⟨conn', found, fun listed => listed⟩

theorem subscribe_keeps (k : ConnectionId) (t : Topic) :
    KeepsTopic id topic h (h.subscribe k t).2 := by
  rcases h.subscribe_cases k t with same | ⟨conn, lookup, same⟩
  · rw [same]
    exact .of_same (fun known => known) rfl
  · rw [same]
    exact ⟨fun known => known,
      topics_changed lookup (fun _ listed => Finset.mem_insert_of_mem listed)⟩

theorem unsubscribe_keeps {k : ConnectionId} {t : Topic} (other : id = k → topic ≠ t) :
    KeepsTopic id topic h (h.unsubscribe k t) := by
  rcases h.unsubscribe_cases k t with ⟨_, same⟩ | ⟨conn, lookup, same⟩
  · rw [same]
    exact .of_same (fun known => known) rfl
  · rw [same]
    exact ⟨fun known => known, topics_changed lookup
      (fun same listed => Finset.mem_erase.mpr ⟨other same, listed⟩)⟩

theorem deliver_keeps (ids : Finset ConnectionId) (frame : ByteString) :
    KeepsTopic id topic h (h.deliver ids frame).2 := by
  constructor
  · rw [← Finmap.mem_keys, ← Finmap.mem_keys, deliver_keys]
    exact fun known => known
  · intro conn' lookup
    exact ⟨conn', ((deliver_evicts_iff h ids frame id conn').mp lookup).1, fun listed => listed⟩

theorem post_keeps {encode : ServerMessage Value → Except WsError ByteString} (addr : Address)
    (t : Topic) (value : Value) : KeepsTopic id topic h (h.post encode addr t value) := by
  rw [post]
  cases eventFrame encode t value with
  | error e => exact .of_same (fun known => known) rfl
  | ok frame => exact deliver_keeps _ frame

theorem step_keeps {encode : ServerMessage Value → Except WsError ByteString} {op : Op Value}
    (hs : step encode h op = some g) (opened : id ∈ h.channels)
    (kept : op ≠ .unsubscribe id topic) : KeepsTopic id topic h g := by
  cases step_move hs with
  | register fresh =>
    refine register_keeps ?_ _ _
    rintro rfl
    exact fresh opened
  | unregister => exact unregister_keeps _
  | subscribe => exact subscribe_keeps _ _
  | unsubscribe =>
    refine unsubscribe_keeps ?_
    rintro rfl rfl
    exact kept rfl
  | @post _ addr t value r _ =>
    have posted : KeepsTopic id topic { h with clusterTx := r }
        ({ h with clusterTx := r }.post encode addr t value) := post_keeps addr t value
    exact ⟨posted.opened, posted.entry⟩
  | refused _ => exact .of_same (fun known => known) rfl
  | relay => exact .of_same (fun known => known) rfl
  | drain | dropReceiver =>
    exact .of_same (fun known => Finmap.mem_insert.mpr (Or.inr known)) rfl

/-- A connection that holds a topic in every state in which it is registered. -/
structure Listening (h : WsHub Value) (id : ConnectionId) (topic : Topic) : Prop where
  settled : h.Settled
  opened : id ∈ h.channels
  held : id ∈ h.connections → h.hears (.topic topic) id = true

theorem hears_topic : h.hears (.topic topic) id = true ↔
    ∃ conn, h.connections.lookup id = some conn ∧ topic ∈ conn.topics := by
  simp [hears, Address.covers, Option.any_eq_true]

theorem step_listening {encode : ServerMessage Value → Except WsError ByteString} {op : Op Value}
    (hs : step encode h op = some g) (kept : op ≠ .unsubscribe id topic)
    (listening : h.Listening id topic) : g.Listening id topic := by
  have keeps := step_keeps hs listening.opened kept
  refine ⟨step_settled hs listening.settled, keeps.opened listening.opened, ?_⟩
  intro known
  obtain ⟨conn', lookup⟩ := Finmap.mem_iff.mp known
  obtain ⟨conn, before, grew⟩ := keeps.entry conn' lookup
  obtain ⟨found, same, listed⟩ := hears_topic.mp
    (listening.held (Finmap.mem_of_lookup_eq_some before))
  obtain rfl := Option.some.inj (before.symm.trans same)
  exact hears_topic.mpr ⟨conn', lookup, grew listed⟩

theorem run_listening {encode : ServerMessage Value → Except WsError ByteString}
    {ops : List (Op Value)} (run : ops.foldlM (step encode) h = some g)
    (kept : Op.unsubscribe id topic ∉ ops) (listening : h.Listening id topic) :
    g.Listening id topic := by
  induction ops generalizing h with
  | nil => exact Option.some.inj run ▸ listening
  | cons op ops ih =>
    obtain ⟨next, hs, rest⟩ := Option.bind_eq_some_iff.mp run
    have first : op ≠ .unsubscribe id topic := fun same => kept (same ▸ List.mem_cons_self)
    exact ih rest (fun later => kept (List.mem_cons_of_mem _ later))
      (step_listening hs first listening)

/-- A publish on the topic is offered to the queue of the connection. -/
theorem publish_heard {encode : ServerMessage Value → Except WsError ByteString} {value : Value}
    {frame : ByteString} (listening : h.Listening id topic) (known : id ∈ h.connections)
    (encoded : eventFrame encode topic value = .ok frame) :
    (h.publish encode topic (.ok value)).2.channels.lookup id =
      (h.channels.lookup id).map (fun tx => tx.offered frame) := by
  have covered := (listening.settled.mem_audience_iff (.topic topic) id).mpr
    (listening.held known)
  obtain ⟨relay, same⟩ := h.forwardToCluster_eq .topic topic value
  rw [publish, publishLocal_post, same, post, encoded]
  dsimp only
  rw [deliver_lookup_channels]
  exact if_pos covered

theorem subscribe_ok (accepted : h.subscribe id topic = (.ok (), g)) :
    ∃ conn, h.connections.lookup id = some conn ∧
      g.connections.lookup id = some { conn with topics := insert topic conn.topics } := by
  rw [subscribe] at accepted
  split at accepted
  · cases accepted
  · rename_i held outcome
    obtain ⟨conn, lookup, _, rfl⟩ := subscribeConnection_ok outcome
    cases accepted
    exact ⟨conn, lookup, Finmap.lookup_insert _⟩

theorem subscribe_listening (settled : h.Settled)
    (accepted : h.subscribe id topic = (.ok (), g)) : g.Listening id topic := by
  obtain ⟨conn, lookup, entry⟩ := subscribe_ok accepted
  have after : g = (h.subscribe id topic).2 := by rw [accepted]
  have keeps : KeepsTopic id topic h g := after ▸ subscribe_keeps id topic
  have consistent := subscribe_consistent settled.toIndexConsistent id topic
  have channels := subscribe_haveChannels settled.opened id topic
  rw [← after] at consistent channels
  constructor
  · exact ⟨consistent, channels⟩
  · exact keeps.opened (settled.opened id (Finmap.mem_of_lookup_eq_some lookup))
  · exact fun _ => hears_topic.mpr ⟨_, entry, Finset.mem_insert_self _ _⟩

/-- The only topic a subscription adds is the one it names. -/
theorem subscribe_adds (accepted : h.subscribe id topic = (.ok (), g)) {t : Topic}
    (heard : g.hears (.topic t) id = true) : t = topic ∨ h.hears (.topic t) id = true := by
  obtain ⟨conn, lookup, entry⟩ := subscribe_ok accepted
  obtain ⟨conn', found, listed⟩ := hears_topic.mp heard
  obtain rfl := Option.some.inj (entry.symm.trans found)
  rcases Finset.mem_insert.mp listed with same | old
  · exact Or.inl same
  · exact Or.inr (hears_topic.mpr ⟨conn, lookup, old⟩)

end Keeps
end WsHub

namespace AppWsPolicy

section Serving
variable {Value : Type} (encode : ServerMessage Value → Except WsError ByteString)
  (parse : String → Except String (ClientMessage Value)) (parseStr : String → Option Uuid)
  (u : Uuid) (topic : Topic)

/-- On a connection of `u` the client asked for the topic, in a reachable
state, and was told that it is subscribed. -/
structure Acknowledged (ctx : WsContext) (text : String) (before after : WsHub Value) : Prop where
  user : ctx.userId = some u
  reachable : ∃ nodeId config clusterTx,
    (WsHub.machine encode nodeId config clusterTx).Reachable before
  asked : parse text = .ok (.subscribe topic)
  answered : handleText parse (policy parseStr) encode ctx text before =
    (some (.subscribed topic), after)

/-- The topic, granted to a connection of `u`, is the one events are published
on. As long as the subscription is not given up and the connection is there,
every publish on the topic of `u` is offered to it, and nothing else was added
to its budget. -/
structure UserTopicServes : Prop where
  same : ∀ ctx : WsContext, ctx.userId = some u →
    authorizeSubscribe parseStr ctx topic = .ok () → topic = userTopic u
  reaches : ∀ ctx text before after,
    Acknowledged encode parse parseStr u topic ctx text before after →
    ∀ (ops : List (Op Value)) (later : WsHub Value),
      ops.foldlM (WsHub.step encode) after = some later →
      Op.unsubscribe ctx.connectionId (userTopic u) ∉ ops →
      ctx.connectionId ∈ later.connections →
    ∀ value frame, WsHub.eventFrame encode (userTopic u) value = .ok frame →
      ∃ tx, later.channels.lookup ctx.connectionId = some tx ∧
        (later.publish encode (userTopic u) (.ok value)).2.channels.lookup ctx.connectionId =
          some (tx.offered frame)
  budget : ∀ ctx text before after,
    Acknowledged encode parse parseStr u topic ctx text before after →
    ∀ t, after.hears (.topic t) ctx.connectionId = true →
      t = userTopic u ∨ before.hears (.topic t) ctx.connectionId = true

end Serving

section Served
variable {Value : Type} {encode : ServerMessage Value → Except WsError ByteString}
  {parse : String → Except String (ClientMessage Value)} {parseStr : String → Option Uuid}
  {u : Uuid} {topic : Topic} {ctx : WsContext} {text : String} {before after : WsHub Value}

theorem Acknowledged.settled
    (told : Acknowledged encode parse parseStr u topic ctx text before after) :
    before.Settled := by
  obtain ⟨nodeId, config, clusterTx, reach⟩ := told.reachable
  exact WsHub.reachable_settled reach

/-- An acknowledgement means that the policy and the hub both agreed. -/
theorem Acknowledged.accepted
    (told : Acknowledged encode parse parseStr u topic ctx text before after) :
    authorizeSubscribe parseStr ctx topic = .ok () ∧
      before.subscribe ctx.connectionId topic = (.ok (), after) := by
  have answered := told.answered
  simp only [handleText, told.asked, policy] at answered
  split at answered
  · cases answered
  · rename_i granted
    refine ⟨granted, ?_⟩
    split at answered
    · rename_i hub subscribed
      cases answered
      exact subscribed
    · rename_i e hub refused
      cases e <;> cases answered

/-- A grant that is only given for the topic of `u` serves it. -/
theorem serves_of_same (same : ∀ ctx : WsContext, ctx.userId = some u →
    authorizeSubscribe parseStr ctx topic = .ok () → topic = userTopic u) :
    UserTopicServes encode parse parseStr u topic := by
  refine ⟨same, ?_, ?_⟩
  · intro ctx text before after told ops later run kept known value frame encoded
    obtain ⟨granted, subscribed⟩ := told.accepted
    obtain rfl := same ctx told.user granted
    have listening := WsHub.run_listening run kept
      (WsHub.subscribe_listening told.settled subscribed)
    obtain ⟨tx, lookup⟩ := Finmap.mem_iff.mp listening.opened
    refine ⟨tx, lookup, ?_⟩
    rw [WsHub.publish_heard listening known encoded, lookup]
    rfl
  · intro ctx text before after told t heard
    obtain ⟨granted, subscribed⟩ := told.accepted
    obtain rfl := same ctx told.user granted
    exact WsHub.subscribe_adds subscribed heard

theorem userPrefix_injective {raw other : String}
    (same : userPrefix ++ raw = userPrefix ++ other) : raw = other := by
  have stripped := stripPrefix_append userPrefix raw
  rw [same, stripPrefix_append] at stripped
  exact (Option.some.inj stripped).symm

/-- A topic under `user.` serves the user as claimed unless it carries one of
the texts of the UUID that are accepted but never printed. -/
theorem userTopicServes_iff (reads : Uuid.ReadsForms parseStr) (raw : String) :
    UserTopicServes encode parse parseStr u (userPrefix ++ raw) ↔ ¬ u.Alias raw := by
  constructor
  · intro serves known
    have granted : authorizeSubscribe parseStr ⟨0, some u, none⟩ (userPrefix ++ raw) = .ok () :=
      (authorizeSubscribe_user rfl raw).mpr
        ((reads raw u).mpr (Uuid.spelled_iff.mpr (Or.inr known)))
    exact known.ne_hyphenated (userPrefix_injective (serves.same _ rfl granted))
  · intro plain
    refine serves_of_same ?_
    intro ctx signedIn granted
    have parsed := (authorizeSubscribe_user signedIn raw).mp granted
    rcases Uuid.spelled_iff.mp ((reads raw u).mp parsed) with printed | known
    · rw [printed, userTopic]
    · exact absurd known plain

end Served

section Capitals

def topicOwner : Uuid := 0x67e5504410b1426f9247bb680e5fe0c8#128

def subscribeText (topic : Topic) : String :=
  "\x7b\"type\":\"subscribe\",\"topic\":\"" ++ topic ++ "\"\x7d"

def parseSubscribe (topic : Topic) (text : String) : Except String (ClientMessage Nat) :=
  if text = subscribeText topic then .ok (.subscribe topic)
  else .error "expected value at line 1 column 1"

/-- The topic as the server writes it. -/
theorem printed_topic_serves :
    UserTopicServes WsHub.plainFrame
      (parseSubscribe (userPrefix ++ "67e55044-10b1-426f-9247-bb680e5fe0c8")) Uuid.parseStr
      topicOwner (userPrefix ++ "67e55044-10b1-426f-9247-bb680e5fe0c8") :=
  (userTopicServes_iff Uuid.parseStr_reads _).mpr (by decide)

/-- The same id in capitals is granted, and no event is published on it. -/
theorem capital_topic_granted :
    ¬ UserTopicServes WsHub.plainFrame
      (parseSubscribe (userPrefix ++ "67E55044-10B1-426F-9247-BB680E5FE0C8")) Uuid.parseStr
      topicOwner (userPrefix ++ "67E55044-10B1-426F-9247-BB680E5FE0C8") := by
  intro serves
  have granted : authorizeSubscribe Uuid.parseStr ⟨1, some topicOwner, none⟩
      (userPrefix ++ "67E55044-10B1-426F-9247-BB680E5FE0C8") = .ok () :=
    (authorizeSubscribe_user rfl _).mpr (by decide)
  have same := userPrefix_injective (serves.same _ rfl granted)
  exact absurd same (by decide)

end Capitals

end AppWsPolicy
end ApiBoilerplate
