import ApiBoilerplate.Ws.HubTasks

/-!
# No index leak under interleaving

`subscribe` and `register` update the connection entry and the index in two
separate calls. An eviction that removes the connection between the two, and
whose own detach of that entry comes before the second call, leaves an id in
the index that no later call takes out. In every run without such a late
insert, an id in an index is registered or still awaited by a detach.
-/

namespace ApiBoilerplate

open Foundation
open WsHub (Op)

/-- The session a subscription call belongs to. -/
def Call.session {Value : Type} : Call Value → Option ConnectionId
  | .subscribeConnection id _ => some id
  | .topicsInsert _ id => some id
  | .unsubscribeConnection id _ => some id
  | _ => none

namespace HubTasks
variable {Value : Type}

/-- What a call does to the maps, and the calls it puts in front. -/
inductive Touch (h : WsHub Value) : Call Value → WsHub Value → List (Call Value) → Prop where
  | quiet {c : Call Value} {h' : WsHub Value} {more : List (Call Value)} :
      h'.connections = h.connections → (∀ t, h'.topics.members t = h.topics.members t) →
      (∀ u, h'.users.members u = h.users.members u) → (∀ k, k ∈ h.channels → k ∈ h'.channels) →
      (∀ d ∈ more, d.session = none ∧ ∀ u id, d ≠ .usersInsert u id) →
      (∀ t id, c ≠ .topicsRemove t id) → (∀ u id, c ≠ .usersRemove u id) → Touch h c h' more
  | connectionsInsert {id : ConnectionId} {userId : Option Uuid} {now : DateTime}
      {more : List (Call Value)} :
      id ∉ h.channels → (∀ d ∈ more, ∃ u, userId = some u ∧ d = .usersInsert u id) →
      Touch h (.connectionsInsert id userId now) (h.connectionsInsert id userId now) more
  | usersInsert {u : Uuid} {id : ConnectionId} :
      Touch h (.usersInsert u id) (h.usersInsert u id) []
  | subscribed {id : ConnectionId} {topic : Topic} {conn : Connection} :
      h.connections.lookup id = some conn →
      Touch h (.subscribeConnection id topic)
        { h with connections :=
            h.connections.insert id { conn with topics := insert topic conn.topics } }
        [.topicsInsert topic id]
  | topicsInsert {topic : Topic} {id : ConnectionId} :
      Touch h (.topicsInsert topic id) (h.topicsInsert topic id) []
  | unsubscribed {id : ConnectionId} {topic : Topic} {conn : Connection} :
      h.connections.lookup id = some conn →
      Touch h (.unsubscribeConnection id topic)
        { h with connections :=
            h.connections.insert id { conn with topics := conn.topics.erase topic } }
        [.topicsRemove topic id, .topicsRemoveIf topic]
  | topicsRemove {topic : Topic} {id : ConnectionId} :
      Touch h (.topicsRemove topic id) (h.topicsRemove topic id) []
  | removed {id : ConnectionId} {conn : Connection} {topics : List Topic} :
      h.connections.lookup id = some conn → Enumerates topics conn.topics →
      Touch h (.connectionsRemove id) (h.connectionsRemove id) (detachCalls conn id topics)
  | usersRemove {u : Uuid} {id : ConnectionId} :
      Touch h (.usersRemove u id) (h.usersRemove u id) []

theorem mem_evictCalls {slow : List ConnectionId} {n : Nat} {d : Call Value}
    (hd : d ∈ evictCalls slow n) : d.session = none ∧ ∀ u id, d ≠ .usersInsert u id := by
  simp only [evictCalls, List.mem_append, List.mem_flatMap, List.mem_cons,
    List.not_mem_nil, or_false] at hd
  rcases hd with ⟨id, _, rfl | rfl⟩ | rfl
  · exact ⟨rfl, by simp⟩
  · exact ⟨rfl, by simp⟩
  · exact ⟨rfl, by simp⟩

/-- A call that changes nothing but channels, counters and the relay queue. -/
theorem Touch.aside {h h' : WsHub Value} {c : Call Value} {more : List (Call Value)}
    (connections : h'.connections = h.connections) (topics : h'.topics = h.topics)
    (users : h'.users = h.users) (channels : ∀ k, k ∈ h.channels → k ∈ h'.channels)
    (plain : ∀ d ∈ more, d.session = none ∧ ∀ u id, d ≠ .usersInsert u id)
    (notTopics : ∀ t id, c ≠ .topicsRemove t id) (notUsers : ∀ u id, c ≠ .usersRemove u id) :
    Touch h c h' more :=
  .quiet connections (fun t => by rw [topics]) (fun u => by rw [users]) channels plain notTopics
    notUsers

theorem exec_touch {encode : ServerMessage Value → Except WsError ByteString}
    {ids : List ConnectionId} {topics : List Topic} {h h' : WsHub Value} {c : Call Value}
    {more : List (Call Value)} (done : exec encode ids topics h c = some (h', more)) :
    Touch h c h' more := by
  have opened : ∀ {id k : ConnectionId} {tx : Mpsc ByteString}, k ∈ h.channels →
      k ∈ h.channels.insert id tx := fun hk => Finmap.mem_insert.mpr (Or.inr hk)
  cases exec_made done with
  | atCapacity _ => exact .aside rfl rfl rfl (fun _ hk => hk) (by simp) (by simp) (by simp)
  | admitted _ =>
    exact .aside rfl rfl rfl (fun _ hk => hk) (by simp [Call.session]) (by simp) (by simp)
  | registered fresh => exact .connectionsInsert fresh (by simp)
  | registeredFor fresh => exact .connectionsInsert fresh (by simp)
  | usersInsert => exact .usersInsert
  | refused _ => exact .aside rfl rfl rfl (fun _ hk => hk) (by simp) (by simp) (by simp)
  | subscribed lookup => exact .subscribed lookup
  | topicsInsert => exact .topicsInsert
  | unsubscribedGone _ =>
    exact .aside rfl rfl rfl (fun _ hk => hk) (by simp [Call.session]) (by simp) (by simp)
  | unsubscribed lookup => exact .unsubscribed lookup
  | topicsRemove => exact .topicsRemove
  | topicsRemoveIf =>
    exact .quiet rfl (fun t => Index.members_prune _ _ t) (fun _ => rfl) (fun _ hk => hk)
      (by simp) (by simp) (by simp)
  | removedGone _ => exact .aside rfl rfl rfl (fun _ hk => hk) (by simp) (by simp) (by simp)
  | removed lookup order => exact .removed lookup order
  | usersRemove => exact .usersRemove
  | usersRemoveIf =>
    exact .quiet rfl (fun _ => rfl) (fun w => Index.members_prune _ _ w) (fun _ hk => hk)
      (by simp) (by simp) (by simp)
  | forwarded => exact .aside rfl rfl rfl (fun _ hk => hk) (by simp) (by simp) (by simp)
  | unencoded _ => exact .aside rfl rfl rfl (fun _ hk => hk) (by simp) (by simp) (by simp)
  | audience _ _ =>
    exact .aside rfl rfl rfl (fun _ hk => hk) (by simp [Call.session]) (by simp) (by simp)
  | delivered _ =>
    exact .aside rfl rfl rfl (fun _ hk => opened hk) (by simp [Call.session]) (by simp) (by simp)
  | passed _ =>
    exact .aside rfl rfl rfl (fun _ hk => hk) (by simp [Call.session]) (by simp) (by simp)
  | served =>
    exact .aside rfl rfl rfl (fun _ hk => hk) (fun d hd => mem_evictCalls hd) (by simp) (by simp)
  | countSlow => exact .aside rfl rfl rfl (fun _ hk => hk) (by simp) (by simp) (by simp)
  | countSent => exact .aside rfl rfl rfl (fun _ hk => hk) (by simp) (by simp) (by simp)
  | drained _ _ => exact .aside rfl rfl rfl (fun _ hk => opened hk) (by simp) (by simp) (by simp)
  | dropped _ => exact .aside rfl rfl rfl (fun _ hk => opened hk) (by simp) (by simp) (by simp)
  | relayed => exact .aside rfl rfl rfl (fun _ hk => hk) (by simp) (by simp) (by simp)

section Effect
variable {h h' : WsHub Value} {c : Call Value} {more : List (Call Value)}

theorem Touch.topics (touch : Touch h c h' more) {t : Topic} {id : ConnectionId}
    (filed : id ∈ h'.topics.members t) :
    (id ∈ h.topics.members t ∧ c ≠ .topicsRemove t id) ∨ c = .topicsInsert t id := by
  cases touch with
  | quiet _ topics _ _ _ other _ => exact Or.inl ⟨topics t ▸ filed, other t id⟩
  | topicsInsert =>
    rcases (Index.mem_members_attach ..).mp filed with ⟨rfl, rfl⟩ | before
    · exact Or.inr rfl
    · exact Or.inl ⟨before, by simp⟩
  | topicsRemove =>
    obtain ⟨before, other⟩ := (Index.mem_members_remove ..).mp filed
    refine Or.inl ⟨before, fun same => other ?_⟩
    injection same with ht hid
    exact ⟨ht.symm, hid.symm⟩
  | connectionsInsert _ _ => exact Or.inl ⟨filed, by simp⟩
  | usersInsert => exact Or.inl ⟨filed, by simp⟩
  | subscribed _ => exact Or.inl ⟨filed, by simp⟩
  | unsubscribed _ => exact Or.inl ⟨filed, by simp⟩
  | removed _ _ => exact Or.inl ⟨filed, by simp⟩
  | usersRemove => exact Or.inl ⟨filed, by simp⟩

theorem Touch.users (touch : Touch h c h' more) {u : Uuid} {id : ConnectionId}
    (filed : id ∈ h'.users.members u) :
    (id ∈ h.users.members u ∧ c ≠ .usersRemove u id) ∨ c = .usersInsert u id := by
  cases touch with
  | quiet _ _ users _ _ _ other => exact Or.inl ⟨users u ▸ filed, other u id⟩
  | usersInsert =>
    rcases (Index.mem_members_attach ..).mp filed with ⟨rfl, rfl⟩ | before
    · exact Or.inr rfl
    · exact Or.inl ⟨before, by simp⟩
  | usersRemove =>
    obtain ⟨before, other⟩ := (Index.mem_members_remove ..).mp filed
    refine Or.inl ⟨before, fun same => other ?_⟩
    injection same with hu hid
    exact ⟨hu.symm, hid.symm⟩
  | connectionsInsert _ _ => exact Or.inl ⟨filed, by simp⟩
  | topicsInsert => exact Or.inl ⟨filed, by simp⟩
  | subscribed _ => exact Or.inl ⟨filed, by simp⟩
  | unsubscribed _ => exact Or.inl ⟨filed, by simp⟩
  | removed _ _ => exact Or.inl ⟨filed, by simp⟩
  | topicsRemove => exact Or.inl ⟨filed, by simp⟩

/-- A connection entry keeps its user; it loses a topic, or is taken out as a
whole, only with the matching removals put in front. -/
theorem Touch.entry (touch : Touch h c h' more) {id : ConnectionId} {conn : Connection}
    (known : id ∈ h.channels) (lookup : h.connections.lookup id = some conn) :
    (∃ conn', h'.connections.lookup id = some conn' ∧ conn'.userId = conn.userId ∧
      ∀ t ∈ conn.topics, t ∈ conn'.topics ∨ .topicsRemove t id ∈ more) ∨
    ((∀ t ∈ conn.topics, .topicsRemove t id ∈ more) ∧
      ∀ u, conn.userId = some u → .usersRemove u id ∈ more) := by
  have same : ∀ g : WsHub Value, g.connections.lookup id = h.connections.lookup id →
      ∃ conn', g.connections.lookup id = some conn' ∧ conn'.userId = conn.userId ∧
        ∀ t ∈ conn.topics, t ∈ conn'.topics ∨ .topicsRemove t id ∈ more :=
    fun g hg => ⟨conn, by rw [hg, lookup], rfl, fun t ht => Or.inl ht⟩
  cases touch with
  | quiet connections _ _ _ _ _ _ => exact Or.inl (same h' (by rw [connections]))
  | @connectionsInsert k userId now _ fresh _ =>
    have other : id ≠ k := by
      rintro rfl
      exact fresh known
    exact Or.inl (same _ (Finmap.lookup_insert_of_ne _ other))
  | usersInsert => exact Or.inl (same _ rfl)
  | @subscribed k topic entry found =>
    by_cases hk : id = k
    · subst hk
      rw [found] at lookup
      obtain rfl := Option.some.inj lookup
      exact Or.inl
        ⟨_, Finmap.lookup_insert _, rfl, fun t ht => Or.inl (Finset.mem_insert_of_mem ht)⟩
    · exact Or.inl (same _ (Finmap.lookup_insert_of_ne _ hk))
  | topicsInsert => exact Or.inl (same _ rfl)
  | @unsubscribed k topic entry found =>
    by_cases hk : id = k
    · subst hk
      rw [found] at lookup
      obtain rfl := Option.some.inj lookup
      refine Or.inl ⟨_, Finmap.lookup_insert _, rfl, fun t ht => ?_⟩
      by_cases left : t = topic
      · exact Or.inr (by simp [left])
      · exact Or.inl (Finset.mem_erase.mpr ⟨left, ht⟩)
    · exact Or.inl (same _ (Finmap.lookup_insert_of_ne _ hk))
  | topicsRemove => exact Or.inl (same _ rfl)
  | @removed k entry topics found order =>
    by_cases hk : id = k
    · subst hk
      rw [found] at lookup
      obtain rfl := Option.some.inj lookup
      refine Or.inr ⟨fun t ht => ?_, fun u hu => ?_⟩
      · have listed : t ∈ topics := by
          rw [← order.2] at ht
          exact List.mem_toFinset.mp ht
        exact List.mem_append_left _ (List.mem_flatMap.mpr ⟨t, listed, by simp⟩)
      · exact List.mem_append_right _ (by simp [hu])
    · exact Or.inl (same _ (Finmap.lookup_erase_ne hk))
  | usersRemove => exact Or.inl (same _ rfl)

/-- Where a connection entry comes from. -/
theorem Touch.origin (touch : Touch h c h' more) {id : ConnectionId} {conn' : Connection}
    (lookup : h'.connections.lookup id = some conn') :
    (id ∉ h.channels ∧ ∀ d ∈ more, ∃ u, conn'.userId = some u ∧ d = .usersInsert u id) ∨
    ∃ conn, h.connections.lookup id = some conn ∧ conn'.userId = conn.userId ∧
      (∀ t ∈ conn.topics, t ∈ conn'.topics ∨ c = .unsubscribeConnection id t) ∧
      ∀ t, .topicsInsert t id ∈ more → t ∈ conn'.topics := by
  have same : ∀ g : WsHub Value, g.connections.lookup id = h.connections.lookup id →
      g.connections.lookup id = some conn' →
      (∀ t, .topicsInsert t id ∈ more → t ∈ conn'.topics) →
      ∃ conn, h.connections.lookup id = some conn ∧ conn'.userId = conn.userId ∧
        (∀ t ∈ conn.topics, t ∈ conn'.topics ∨ c = .unsubscribeConnection id t) ∧
        ∀ t, .topicsInsert t id ∈ more → t ∈ conn'.topics :=
    fun g hg found put => ⟨conn', hg ▸ found, rfl, fun t ht => Or.inl ht, put⟩
  cases touch with
  | quiet connections _ _ _ plain _ _ =>
    refine Or.inr (same h' (by rw [connections]) lookup fun t put => ?_)
    have none := (plain _ put).1
    simp [Call.session] at none
  | @connectionsInsert k userId now _ fresh put =>
    by_cases hk : id = k
    · subst hk
      have entry : (⟨userId, ∅, now⟩ : Connection) = conn' :=
        Option.some.inj ((Finmap.lookup_insert _).symm.trans lookup)
      exact Or.inl ⟨fresh, fun d hd => by rw [← entry]; exact put d hd⟩
    · refine Or.inr (same _ (Finmap.lookup_insert_of_ne _ hk) lookup fun t ht => ?_)
      obtain ⟨u, _, eq⟩ := put _ ht
      cases eq
  | usersInsert => exact Or.inr (same _ rfl lookup (by simp))
  | @subscribed k topic entry found =>
    by_cases hk : id = k
    · subst hk
      obtain rfl := Option.some.inj ((Finmap.lookup_insert _).symm.trans lookup)
      refine Or.inr ⟨entry, found, rfl, fun t ht => Or.inl (Finset.mem_insert_of_mem ht), ?_⟩
      intro t put
      have eq : t = topic := by simpa using put
      exact Finset.mem_insert.mpr (Or.inl eq)
    · refine Or.inr (same _ (Finmap.lookup_insert_of_ne _ hk) lookup fun t put => ?_)
      exact absurd (by simpa using put : t = topic ∧ id = k).2 hk
  | topicsInsert => exact Or.inr (same _ rfl lookup (by simp))
  | @unsubscribed k topic entry found =>
    by_cases hk : id = k
    · subst hk
      obtain rfl := Option.some.inj ((Finmap.lookup_insert _).symm.trans lookup)
      refine Or.inr ⟨entry, found, rfl, fun t ht => ?_, by simp⟩
      by_cases left : t = topic
      · exact Or.inr (by rw [left])
      · exact Or.inl (Finset.mem_erase.mpr ⟨left, ht⟩)
    · exact Or.inr (same _ (Finmap.lookup_insert_of_ne _ hk) lookup (by simp))
  | topicsRemove => exact Or.inr (same _ rfl lookup (by simp))
  | @removed k entry topics found order =>
    by_cases hk : id = k
    · subst hk
      have gone : (h.connections.erase id).lookup id = some conn' := lookup
      simp at gone
    · refine Or.inr (same _ (Finmap.lookup_erase_ne hk) lookup fun t put => ?_)
      simp only [detachCalls, List.mem_append, List.mem_flatMap] at put
      rcases put with ⟨x, _, put⟩ | put
      · simp at put
      · cases user : entry.userId <;> simp [user] at put
  | usersRemove => exact Or.inr (same _ rfl lookup (by simp))

/-- Which calls put a later insert in front. -/
theorem Touch.puts (touch : Touch h c h' more) {d : Call Value} (hd : d ∈ more) :
    (∀ id, d.session = some id → ∃ t, c = .subscribeConnection id t ∧
      d = .topicsInsert t id ∧ more = [d] ∧ id ∈ h.connections) ∧
    ∀ u id, d = .usersInsert u id → id ∉ h.channels ∧ id ∈ h'.connections ∧
      ∀ conn', h'.connections.lookup id = some conn' → conn'.userId = some u := by
  cases touch with
  | quiet _ _ _ _ plain _ _ =>
    obtain ⟨none, other⟩ := plain d hd
    exact ⟨fun id hid => by simp [none] at hid, fun u id eq => absurd eq (other u id)⟩
  | connectionsInsert fresh put =>
    obtain ⟨u, user, rfl⟩ := put d hd
    refine ⟨fun id hid => by simp [Call.session] at hid, ?_⟩
    rintro w k ⟨⟩
    refine ⟨fresh, Finmap.mem_insert.mpr (Or.inl rfl), fun conn' found => ?_⟩
    obtain rfl := Option.some.inj ((Finmap.lookup_insert _).symm.trans found)
    exact user
  | usersInsert => cases hd
  | subscribed found =>
    obtain rfl := List.mem_singleton.mp hd
    refine ⟨fun id hid => ?_, by simp⟩
    obtain rfl := Option.some.inj hid
    exact ⟨_, rfl, rfl, rfl, Finmap.mem_of_lookup_eq_some found⟩
  | topicsInsert => cases hd
  | unsubscribed _ =>
    rcases List.mem_cons.mp hd with rfl | hd
    · simp [Call.session]
    · obtain rfl := List.mem_singleton.mp hd
      simp [Call.session]
  | topicsRemove => cases hd
  | @removed k entry topics _ _ =>
    simp only [detachCalls, List.mem_append, List.mem_flatMap] at hd
    rcases hd with ⟨x, _, hd⟩ | hd
    · rcases List.mem_cons.mp hd with rfl | hd
      · simp [Call.session]
      · obtain rfl := List.mem_singleton.mp hd
        simp [Call.session]
    · cases user : entry.userId with
      | none => simp [user] at hd
      | some u =>
        rcases List.mem_cons.mp (by simpa [user] using hd : d ∈ [Call.usersRemove u k, _])
          with rfl | hd
        · simp [Call.session]
        · obtain rfl := List.mem_singleton.mp hd
          simp [Call.session]
  | usersRemove => cases hd

theorem Touch.channels (touch : Touch h c h' more) {k : ConnectionId} (hk : k ∈ h.channels) :
    k ∈ h'.channels := by
  cases touch with
  | quiet _ _ _ channels _ _ _ => exact channels k hk
  | connectionsInsert _ _ => exact Finmap.mem_insert.mpr (Or.inr hk)
  | usersInsert => exact hk
  | subscribed _ => exact hk
  | topicsInsert => exact hk
  | unsubscribed _ => exact hk
  | topicsRemove => exact hk
  | removed _ _ => exact hk
  | usersRemove => exact hk

theorem Touch.opened (touch : Touch h c h' more)
    (before : ∀ k, k ∈ h.connections → k ∈ h.channels) {k : ConnectionId}
    (hk : k ∈ h'.connections) : k ∈ h'.channels := by
  obtain ⟨conn', lookup⟩ := Finmap.mem_iff.mp hk
  rcases touch.origin lookup with ⟨fresh, _⟩ | ⟨conn, found, _⟩
  · cases touch with
    | @connectionsInsert id _ _ _ _ _ =>
      by_cases same : k = id
      · exact Finmap.mem_insert.mpr (Or.inl same)
      · have old : k ∈ h.connections := (Finmap.mem_insert.mp hk).resolve_left same
        exact absurd (before k old) fresh
    | quiet connections _ _ _ _ _ _ => exact absurd (before k (connections ▸ hk)) fresh
    | usersInsert => exact absurd (before k hk) fresh
    | subscribed found =>
      rcases Finmap.mem_insert.mp hk with rfl | old
      · exact before k (Finmap.mem_of_lookup_eq_some found)
      · exact before k old
    | topicsInsert => exact absurd (before k hk) fresh
    | unsubscribed found =>
      rcases Finmap.mem_insert.mp hk with rfl | old
      · exact before k (Finmap.mem_of_lookup_eq_some found)
      · exact before k old
    | topicsRemove => exact absurd (before k hk) fresh
    | removed _ _ => exact before k (Finmap.mem_erase.mp hk).2
    | usersRemove => exact absurd (before k hk) fresh
  · exact touch.channels (before k (Finmap.mem_of_lookup_eq_some found))

/-- A connection that is gone stays away, since its id is never used again. -/
theorem Touch.stays_away (touch : Touch h c h' more) {id : ConnectionId}
    (known : id ∈ h.channels) (gone : id ∉ h.connections) : id ∉ h'.connections := by
  intro back
  obtain ⟨conn', lookup⟩ := Finmap.mem_iff.mp back
  rcases touch.origin lookup with ⟨fresh, _⟩ | ⟨conn, found, _⟩
  · exact fresh known
  · exact gone (Finmap.mem_of_lookup_eq_some found)

end Effect

/-- The calls of one session are never interleaved with each other, and a topic
still to be filed is in the entry of its connection. -/
structure Sequenced (s : HubTasks Value) : Prop where
  subscribing : ∀ t id, s.Awaits (.topicsInsert t id) → id ∈ s.hub.channels ∧
    ∀ conn, s.hub.connections.lookup id = some conn → t ∈ conn.topics
  opened : ∀ id, id ∈ s.hub.connections → id ∈ s.hub.channels
  alone : ∀ name calls c id, s.pending.lookup name = some calls → c ∈ calls →
    Call.session c = some id → name = .session id ∧ calls = [c]

/-- Two awaited calls of one session are the same call. -/
theorem Sequenced.same_call {s : HubTasks Value} (sequenced : Sequenced s) {c d : Call Value}
    {id : ConnectionId} {name : TaskName} {rest : List (Call Value)}
    (found : s.pending.lookup name = some (c :: rest)) (hc : c.session = some id)
    (hd : s.Awaits d) (same : d.session = some id) : d = c := by
  obtain ⟨m, calls, lookup, mem⟩ := hd
  obtain ⟨rfl, _⟩ := sequenced.alone name _ c id found List.mem_cons_self hc
  obtain ⟨rfl, alone⟩ := sequenced.alone m calls d id lookup mem same
  rw [found] at lookup
  have listed : c ∈ calls := by
    rw [← Option.some.inj lookup]
    exact List.mem_cons_self
  rw [alone] at listed
  exact (List.mem_singleton.mp listed).symm

section SessionStep
variable {s : HubTasks Value} {name : TaskName} {c : Call Value} {rest more : List (Call Value)}
  {h : WsHub Value} {owner : FinMap ConnectionId (Option Uuid)}
  {log : List (Address × ConnectionId × ByteString)}

theorem sequenced_subscribing (sequenced : Sequenced s)
    (found : s.pending.lookup name = some (c :: rest)) (touch : Touch s.hub c h more)
    {t : Topic} {id : ConnectionId}
    (after : Awaits ⟨h, setCalls s.pending name (more ++ rest), owner, log⟩
      (.topicsInsert t id)) :
    id ∈ h.channels ∧ ∀ conn, h.connections.lookup id = some conn → t ∈ conn.topics := by
  obtain ⟨m, calls, lookup, mem⟩ := after
  rcases awaits_after found lookup mem with put | before
  · obtain ⟨_, _, _, _, present⟩ := (touch.puts put).1 id rfl
    refine ⟨touch.channels (sequenced.opened id present), fun conn' found' => ?_⟩
    rcases touch.origin found' with ⟨fresh, _⟩ | ⟨_, _, _, _, topics⟩
    · exact absurd (sequenced.opened id present) fresh
    · exact topics t put
  · obtain ⟨known, topics⟩ := sequenced.subscribing t id before
    refine ⟨touch.channels known, fun conn' found' => ?_⟩
    rcases touch.origin found' with ⟨fresh, _⟩ | ⟨conn, lookup, _, kept, _⟩
    · exact absurd known fresh
    · rcases kept t (topics conn lookup) with still | rfl
      · exact still
      · have same := sequenced.same_call found rfl before rfl
        cases same

theorem sequenced_alone (sequenced : Sequenced s)
    (found : s.pending.lookup name = some (c :: rest)) (touch : Touch s.hub c h more)
    {m : TaskName} {calls : List (Call Value)} {d : Call Value} {id : ConnectionId}
    (after : (setCalls s.pending name (more ++ rest)).lookup m = some calls)
    (hd : d ∈ calls) (session : d.session = some id) : m = .session id ∧ calls = [d] := by
  rw [lookup_setCalls] at after
  split_ifs at after with same empty
  · subst same
    obtain rfl := Option.some.inj after
    rcases List.mem_append.mp hd with put | later
    · obtain ⟨t, rfl, _, only, _⟩ := (touch.puts put).1 id session
      obtain ⟨rfl, one⟩ := sequenced.alone m _ _ id found List.mem_cons_self rfl
      obtain rfl := (List.cons.inj one).2
      exact ⟨rfl, by rw [only, List.append_nil]⟩
    · obtain ⟨_, one⟩ := sequenced.alone m _ d id found (List.mem_cons_of_mem c later) session
      rw [(List.cons.inj one).2] at later
      cases later
  · exact sequenced.alone m calls d id after hd session

end SessionStep

/-- What an operation starts with. -/
theorem mem_calls {name : TaskName} {op : Op Value} (allowed : op.allowedFor name)
    {c : Call Value} (hc : c ∈ op.calls) :
    (∀ id, c.session = some id → name = .session id ∧ op.calls = [c]) ∧
      (∀ t id, c ≠ .topicsInsert t id) ∧ ∀ u id, c ≠ .usersInsert u id := by
  cases op with
  | subscribe id topic =>
    obtain rfl := List.mem_singleton.mp hc
    exact ⟨fun k hk => Option.some.inj hk ▸ ⟨allowed, rfl⟩, by simp, by simp⟩
  | unsubscribe id topic =>
    obtain rfl := List.mem_singleton.mp hc
    exact ⟨fun k hk => Option.some.inj hk ▸ ⟨allowed, rfl⟩, by simp, by simp⟩
  | publish topic payload =>
    cases payload with
    | error e => cases hc
    | ok value => rcases List.mem_pair.mp hc with rfl | rfl <;> simp [Call.session]
  | publishToUser userId topic payload =>
    cases payload with
    | error e => cases hc
    | ok value => rcases List.mem_pair.mp hc with rfl | rfl <;> simp [Call.session]
  | broadcast topic payload =>
    cases payload with
    | error e => cases hc
    | ok value => rcases List.mem_pair.mp hc with rfl | rfl <;> simp [Call.session]
  | sendTo id topic payload =>
    cases payload with
    | error e => cases hc
    | ok value =>
      obtain rfl := List.mem_singleton.mp hc
      simp [Call.session]
  | register _ _ _ => obtain rfl := List.mem_singleton.mp hc; simp [Call.session]
  | unregister _ => obtain rfl := List.mem_singleton.mp hc; simp [Call.session]
  | dispatchClusterFrame _ => obtain rfl := List.mem_singleton.mp hc; simp [Call.session]
  | drain _ => obtain rfl := List.mem_singleton.mp hc; simp [Call.session]
  | dropReceiver _ => obtain rfl := List.mem_singleton.mp hc; simp [Call.session]
  | relay => obtain rfl := List.mem_singleton.mp hc; simp [Call.session]

/-- A task starts nothing while it has calls left. -/
theorem awaits_start_kept {s : HubTasks Value} {name : TaskName} (idle : name ∉ s.pending)
    (calls : List (Call Value)) {c : Call Value} (awaited : s.Awaits c) :
    Awaits { s with pending := setCalls s.pending name calls } c := by
  obtain ⟨m, others, lookup, mem⟩ := awaited
  have other : m ≠ name := by
    rintro rfl
    rw [Finmap.lookup_eq_none.mpr idle] at lookup
    cases lookup
  exact ⟨m, others, by rw [lookup_setCalls, if_neg other, lookup], mem⟩

theorem awaits_start {s : HubTasks Value} {name : TaskName} {calls : List (Call Value)}
    {c : Call Value}
    (awaited : Awaits { s with pending := setCalls s.pending name calls } c) :
    c ∈ calls ∨ s.Awaits c := by
  obtain ⟨m, others, lookup, mem⟩ := awaited
  rw [lookup_setCalls] at lookup
  split_ifs at lookup with same empty
  · exact Or.inl (Option.some.inj lookup ▸ mem)
  · exact Or.inr ⟨m, others, lookup, mem⟩

theorem start_sequenced {s : HubTasks Value} {name : TaskName} {op : Op Value}
    (sequenced : Sequenced s) (allowed : op.allowedFor name) :
    Sequenced { s with pending := setCalls s.pending name op.calls } := by
  refine ⟨?_, sequenced.opened, ?_⟩
  · intro t id awaited
    rcases awaits_start awaited with new | before
    · exact absurd rfl ((mem_calls allowed new).2.1 t id)
    · exact sequenced.subscribing t id before
  · intro m calls c id lookup mem session
    rw [lookup_setCalls] at lookup
    split_ifs at lookup with same empty
    · obtain rfl := Option.some.inj lookup
      rw [same]
      exact (mem_calls allowed mem).1 id session
    · exact sequenced.alone m calls c id lookup mem session

theorem step_sequenced {encode : ServerMessage Value → Except WsError ByteString}
    {s s' : HubTasks Value} {l : TaskLabel Value} (sequenced : Sequenced s)
    (hs : step encode s l = some s') : Sequenced s' := by
  cases l with
  | start name op =>
    obtain ⟨_, allowed, rfl⟩ := start_cases hs
    exact start_sequenced sequenced allowed
  | run name ids topics =>
    obtain ⟨c, rest, h, more, found, done, rfl⟩ := run_cases hs
    have touch := exec_touch done
    exact {
      subscribing := fun _ _ after => sequenced_subscribing sequenced found touch after
      opened := fun _ present => touch.opened sequenced.opened present
      alone := fun _ _ _ _ after mem session =>
        sequenced_alone sequenced found touch after mem session }

theorem init_sequenced (nodeId : Uuid) (config : WebSocketConfig)
    (clusterTx : Option (Mpsc (ClusterFrame Value))) :
    Sequenced (⟨.new nodeId config clusterTx, ∅, ∅, []⟩ : HubTasks Value) := by
  refine ⟨?_, fun _ present => absurd present Finmap.notMem_empty, ?_⟩
  · rintro t id ⟨m, calls, lookup, _⟩
    cases lookup
  · intro m calls c id lookup
    cases lookup

/-- Every index entry is backed by a connection, or a removal still to come
takes it out. The calls of one session are never interleaved with each other. -/
structure Tracked (s : HubTasks Value) : Prop where
  topics : ∀ t id, id ∈ s.hub.topics.members t →
    (∃ conn, s.hub.connections.lookup id = some conn ∧ t ∈ conn.topics) ∨
      s.Awaits (.topicsRemove t id)
  users : ∀ u id, id ∈ s.hub.users.members u →
    (∃ conn, s.hub.connections.lookup id = some conn ∧ conn.userId = some u) ∨
      s.Awaits (.usersRemove u id)
  subscribing : ∀ t id, s.Awaits (.topicsInsert t id) → id ∈ s.hub.channels ∧
    ∀ conn, s.hub.connections.lookup id = some conn → t ∈ conn.topics
  registering : ∀ u id, s.Awaits (.usersInsert u id) → id ∈ s.hub.channels ∧
    ∀ conn, s.hub.connections.lookup id = some conn → conn.userId = some u
  opened : ∀ id, id ∈ s.hub.connections → id ∈ s.hub.channels
  alone : ∀ name calls c id, s.pending.lookup name = some calls → c ∈ calls →
    Call.session c = some id → name = .session id ∧ calls = [c]

theorem Tracked.sequenced {s : HubTasks Value} (tracked : Tracked s) : Sequenced s :=
  ⟨tracked.subscribing, tracked.opened, tracked.alone⟩

section Step
variable {s : HubTasks Value} {name : TaskName} {c : Call Value} {rest more : List (Call Value)}
  {h : WsHub Value} {owner : FinMap ConnectionId (Option Uuid)}
  {log : List (Address × ConnectionId × ByteString)}

theorem tracked_topics (tracked : Tracked s) (found : s.pending.lookup name = some (c :: rest))
    (touch : Touch s.hub c h more)
    (timely : ∀ t id, c = .topicsInsert t id → id ∈ s.hub.connections ∨
      s.Awaits (.topicsRemove t id))
    {t : Topic} {id : ConnectionId} (filed : id ∈ h.topics.members t) :
    (∃ conn, h.connections.lookup id = some conn ∧ t ∈ conn.topics) ∨
      Awaits ⟨h, setCalls s.pending name (more ++ rest), owner, log⟩ (.topicsRemove t id) := by
  have backed : ((∃ conn, s.hub.connections.lookup id = some conn ∧ t ∈ conn.topics) ∨
      s.Awaits (.topicsRemove t id)) ∧ c ≠ .topicsRemove t id := by
    rcases touch.topics filed with ⟨before, other⟩ | rfl
    · exact ⟨tracked.topics t id before, other⟩
    · refine ⟨?_, by simp⟩
      rcases timely t id rfl with present | awaited
      · obtain ⟨conn, lookup⟩ := Finmap.mem_iff.mp present
        have awaited : s.Awaits (.topicsInsert t id) := ⟨name, _, found, List.mem_cons_self⟩
        exact Or.inl ⟨conn, lookup, (tracked.subscribing t id awaited).2 conn lookup⟩
      · exact Or.inr awaited
  obtain ⟨⟨conn, lookup, ht⟩ | awaited, other⟩ := backed
  · have known := tracked.opened id (Finmap.mem_of_lookup_eq_some lookup)
    rcases touch.entry known lookup with ⟨conn', kept, _, topics⟩ | ⟨topics, _⟩
    · rcases topics t ht with still | put
      · exact Or.inl ⟨conn', kept, still⟩
      · exact Or.inr (awaits_put name put)
    · exact Or.inr (awaits_put name (topics t ht))
  · exact Or.inr (awaits_kept found more awaited (Ne.symm other))

theorem tracked_users (tracked : Tracked s) (found : s.pending.lookup name = some (c :: rest))
    (touch : Touch s.hub c h more)
    (timely : ∀ u id, c = .usersInsert u id → id ∈ s.hub.connections ∨
      s.Awaits (.usersRemove u id))
    {u : Uuid} {id : ConnectionId} (filed : id ∈ h.users.members u) :
    (∃ conn, h.connections.lookup id = some conn ∧ conn.userId = some u) ∨
      Awaits ⟨h, setCalls s.pending name (more ++ rest), owner, log⟩ (.usersRemove u id) := by
  have backed : ((∃ conn, s.hub.connections.lookup id = some conn ∧ conn.userId = some u) ∨
      s.Awaits (.usersRemove u id)) ∧ c ≠ .usersRemove u id := by
    rcases touch.users filed with ⟨before, other⟩ | rfl
    · exact ⟨tracked.users u id before, other⟩
    · refine ⟨?_, by simp⟩
      rcases timely u id rfl with present | awaited
      · obtain ⟨conn, lookup⟩ := Finmap.mem_iff.mp present
        have awaited : s.Awaits (.usersInsert u id) := ⟨name, _, found, List.mem_cons_self⟩
        exact Or.inl ⟨conn, lookup, (tracked.registering u id awaited).2 conn lookup⟩
      · exact Or.inr awaited
  obtain ⟨⟨conn, lookup, hu⟩ | awaited, other⟩ := backed
  · have known := tracked.opened id (Finmap.mem_of_lookup_eq_some lookup)
    rcases touch.entry known lookup with ⟨conn', kept, user, _⟩ | ⟨_, users⟩
    · exact Or.inl ⟨conn', kept, user.trans hu⟩
    · exact Or.inr (awaits_put name (users u hu))
  · exact Or.inr (awaits_kept found more awaited (Ne.symm other))

theorem tracked_registering (tracked : Tracked s)
    (found : s.pending.lookup name = some (c :: rest)) (touch : Touch s.hub c h more)
    {u : Uuid} {id : ConnectionId}
    (after : Awaits ⟨h, setCalls s.pending name (more ++ rest), owner, log⟩
      (.usersInsert u id)) :
    id ∈ h.channels ∧ ∀ conn, h.connections.lookup id = some conn → conn.userId = some u := by
  obtain ⟨m, calls, lookup, mem⟩ := after
  rcases awaits_after found lookup mem with put | before
  · obtain ⟨_, present, user⟩ := (touch.puts put).2 u id rfl
    exact ⟨touch.opened tracked.opened present, user⟩
  · obtain ⟨known, users⟩ := tracked.registering u id before
    refine ⟨touch.channels known, fun conn' found' => ?_⟩
    rcases touch.origin found' with ⟨fresh, _⟩ | ⟨conn, lookup, user, _⟩
    · exact absurd known fresh
    · exact user.trans (users conn lookup)

end Step

theorem start_tracked {s : HubTasks Value} {name : TaskName} {op : Op Value}
    (tracked : Tracked s) (idle : name ∉ s.pending) (allowed : op.allowedFor name) :
    Tracked { s with pending := setCalls s.pending name op.calls } := by
  obtain ⟨subscribing, opened, alone⟩ := start_sequenced tracked.sequenced allowed
  refine ⟨?_, ?_, subscribing, ?_, opened, alone⟩
  · exact fun t id filed => (tracked.topics t id filed).imp_right (awaits_start_kept idle _)
  · exact fun u id filed => (tracked.users u id filed).imp_right (awaits_start_kept idle _)
  · intro u id awaited
    rcases awaits_start awaited with new | before
    · exact absurd rfl ((mem_calls allowed new).2.2 u id)
    · exact tracked.registering u id before

theorem step_tracked {encode : ServerMessage Value → Except WsError ByteString}
    {s s' : HubTasks Value} {l : TaskLabel Value} (tracked : Tracked s) (timely : s.InTime l)
    (hs : step encode s l = some s') : Tracked s' := by
  obtain ⟨subscribing, opened, alone⟩ := step_sequenced tracked.sequenced hs
  cases l with
  | start name op =>
    obtain ⟨idle, allowed, rfl⟩ := start_cases hs
    exact start_tracked tracked idle allowed
  | run name ids topics =>
    obtain ⟨c, rest, h, more, found, done, rfl⟩ := run_cases hs
    have touch := exec_touch done
    have topicsTimely : ∀ t id, c = .topicsInsert t id →
        id ∈ s.hub.connections ∨ s.Awaits (.topicsRemove t id) := by
      rintro t id rfl
      simpa only [InTime, found] using timely
    have usersTimely : ∀ u id, c = .usersInsert u id →
        id ∈ s.hub.connections ∨ s.Awaits (.usersRemove u id) := by
      rintro u id rfl
      simpa only [InTime, found] using timely
    exact {
      topics := fun _ _ filed => tracked_topics tracked found touch topicsTimely filed
      users := fun _ _ filed => tracked_users tracked found touch usersTimely filed
      subscribing := subscribing
      registering := fun _ _ after => tracked_registering tracked found touch after
      opened := opened
      alone := alone }

theorem reachable_tracked {encode : ServerMessage Value → Except WsError ByteString}
    {nodeId : Uuid} {config : WebSocketConfig} {clusterTx : Option (Mpsc (ClusterFrame Value))}
    {s : HubTasks Value}
    (reach : (machine encode nodeId config clusterTx).ReachableWhere InTime s) : Tracked s := by
  refine Machine.ReachableWhere.invariant (I := Tracked) ?_
    (fun _ _ _ tracked timely hs => step_tracked tracked timely hs) reach
  obtain ⟨subscribing, opened, alone⟩ := init_sequenced nodeId config clusterTx
  refine ⟨?_, ?_, subscribing, ?_, opened, alone⟩
  · exact fun t id filed => by simp [machine, WsHub.new] at filed
  · exact fun u id filed => by simp [machine, WsHub.new] at filed
  · rintro u id ⟨m, calls, lookup, _⟩
    cases lookup

/-- In a run without a late insert no id is left behind in an index. -/
theorem quiescent_noIndexLeak {encode : ServerMessage Value → Except WsError ByteString}
    {nodeId : Uuid} {config : WebSocketConfig} {clusterTx : Option (Mpsc (ClusterFrame Value))}
    {s : HubTasks Value}
    (reach : (machine encode nodeId config clusterTx).ReachableWhere InTime s)
    (quiescent : s.Quiescent) : s.NoIndexLeak := by
  have tracked := reachable_tracked reach
  have idle : ∀ c, ¬ s.Awaits c := by
    rintro c ⟨m, calls, lookup, _⟩
    have present : m ∈ s.pending.keys := Finmap.mem_keys.mpr (Finmap.mem_of_lookup_eq_some lookup)
    rw [quiescent] at present
    cases present
  constructor
  · intro t id filed
    obtain ⟨conn, lookup, _⟩ := (tracked.topics t id filed).resolve_right (idle _)
    exact Finmap.mem_of_lookup_eq_some lookup
  · intro u id filed
    obtain ⟨conn, lookup, _⟩ := (tracked.users u id filed).resolve_right (idle _)
    exact Finmap.mem_of_lookup_eq_some lookup

/-- A test for `InTime` that does not look at other tasks. -/
def stillRegistered (s : HubTasks Value) : TaskLabel Value → Bool
  | .start _ _ => true
  | .run name _ _ =>
    match s.pending.lookup name with
    | some (.topicsInsert _ id :: _) => decide (id ∈ s.hub.connections)
    | some (.usersInsert _ id :: _) => decide (id ∈ s.hub.connections)
    | _ => true

theorem inTime_of_stillRegistered (s : HubTasks Value) (l : TaskLabel Value)
    (checked : s.stillRegistered l = true) : s.InTime l := by
  cases l with
  | start _ _ => trivial
  | run name _ _ =>
    simp only [InTime]
    simp only [stillRegistered] at checked
    split
    · rename_i found
      simp only [found, decide_eq_true_eq] at checked
      exact Or.inl checked
    · rename_i found
      simp only [found, decide_eq_true_eq] at checked
      exact Or.inl checked
    · trivial

/-- Connection 1 registers and its one-frame queue is filled by a broadcast. -/
def filledQueue : List (TaskLabel Nat) :=
  [.start (.other 0) (.register 1 none 0), .run (.other 0) [] [], .run (.other 0) [] [],
    .start (.other 0) (.broadcast "news" (.ok 1)), .run (.other 0) [] [],
    .run (.other 0) [1] [], .run (.other 0) [] [], .run (.other 0) [] [], .run (.other 0) [] []]

/-- A second broadcast finds the queue full and evicts connection 1, subscribed
to `topics`. -/
def evicting (topics : List Topic) : List (TaskLabel Nat) :=
  [.start (.other 0) (.broadcast "news" (.ok 2)), .run (.other 0) [] [],
    .run (.other 0) [1] [], .run (.other 0) [] [], .run (.other 0) [] [],
    .run (.other 0) [] [], .run (.other 0) [] topics] ++
  topics.flatMap (fun _ => [.run (.other 0) [] [], .run (.other 0) [] []]) ++
  [.run (.other 0) [] []]

/-- The subscribe finishes before the connection is evicted. -/
theorem quiescent_noIndexLeak_evicted :
    ∃ s, (machine WsHub.plainFrame 9 ⟨0, 0, 1⟩ none).ReachableWhere InTime s ∧
      s.Quiescent ∧ s.hub.slowClientsDropped = 1 ∧ s.NoIndexLeak := by
  obtain ⟨s, reach, checked⟩ := Machine.reachableWhere_of_replay
    (M := machine WsHub.plainFrame 9 ⟨0, 0, 1⟩ none) inTime_of_stillRegistered
    (p := fun s => decide (s.Quiescent ∧ s.hub.slowClientsDropped = 1))
    (filledQueue ++ [.start (.session 1) (.subscribe 1 "prices"),
      .run (.session 1) [] [], .run (.session 1) [] []] ++ evicting ["prices"]) (by decide)
  obtain ⟨quiescent, dropped⟩ := of_decide_eq_true checked
  exact ⟨s, reach, quiescent, dropped, quiescent_noIndexLeak reach quiescent⟩

/-- The eviction runs between the two halves of the subscribe: "prices" keeps
the id of a connection that is gone. -/
theorem index_leak_reachable :
    ¬ ∀ s, (machine WsHub.plainFrame 9 ⟨0, 0, 1⟩ none).Reachable s →
      s.Quiescent → s.NoIndexLeak := by
  intro claim
  obtain ⟨s, reach, checked⟩ := Machine.reachable_of_replay
    (M := machine WsHub.plainFrame 9 ⟨0, 0, 1⟩ none)
    (p := fun s => decide (s.Quiescent ∧ 1 ∈ s.hub.topics.members "prices" ∧
      1 ∉ s.hub.connections))
    (filledQueue ++ [.start (.session 1) (.subscribe 1 "prices"),
      .run (.session 1) [] []] ++ evicting ["prices"] ++ [.run (.session 1) [] []]) (by decide)
  obtain ⟨quiescent, filed, gone⟩ := of_decide_eq_true checked
  exact gone ((claim s reach quiescent).1 "prices" 1 filed)

end HubTasks
end ApiBoilerplate
