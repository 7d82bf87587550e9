import ApiBoilerplate.Ws.CallEffects

/-!
# The topic budget

A connection counts its topics in its own entry, which `subscribe` checks and
extends under one lock. The bound therefore holds whoever subscribes: here any
task may subscribe any connection, and evictions run in between.
-/

namespace ApiBoilerplate

open Foundation
open WsHub (Op)

namespace WsHub
variable {Value : Type}

/-- No connection holds more topics than the limit. -/
def WithinBudget (limit : Nat) (h : WsHub Value) : Prop :=
  ∀ id conn, h.connections.lookup id = some conn → conn.topics.card ≤ limit

/-- A connection, while registered, may take one more topic. -/
def HasBudget (limit : Nat) (id : ConnectionId) (h : WsHub Value) : Prop :=
  ∀ conn, h.connections.lookup id = some conn → conn.topics.card < limit

/-- A topic already held is accepted and changes nothing. -/
theorem subscribeConnection_held {h : WsHub Value} {id : ConnectionId} {topic : Topic}
    {conn : Connection} (lookup : h.connections.lookup id = some conn)
    (listed : topic ∈ conn.topics) : h.subscribeConnection id topic = .ok h := by
  have same : h.connections.insert id conn = h.connections := by
    apply Finmap.ext_lookup
    intro k
    rw [FinMap.lookup_insert_eq]
    split
    · rename_i at_id
      rw [at_id, lookup]
    · rfl
  simp [subscribeConnection, lookup, listed, same]

/-- The answer while the connection may take one more topic. -/
theorem subscribeConnection_room {h : WsHub Value} {id : ConnectionId} (topic : Topic)
    (room : h.config.maxTopicsPerConnection = 0 ∨
      h.HasBudget h.config.maxTopicsPerConnection id) :
    (id ∈ h.connections → ∃ held, h.subscribeConnection id topic = .ok held) ∧
      (id ∉ h.connections → h.subscribeConnection id topic = .error .unknownConnection) := by
  constructor
  · intro registered
    obtain ⟨conn, lookup⟩ := Finmap.mem_iff.mp registered
    have allowed : ¬ (0 < h.config.maxTopicsPerConnection ∧ topic ∉ conn.topics ∧
        h.config.maxTopicsPerConnection ≤ conn.topics.card) := by
      rintro ⟨limited, _, full⟩
      rcases room with unlimited | room
      · omega
      · have spare := room conn lookup
        omega
    simp only [subscribeConnection, lookup, if_neg allowed]
    exact ⟨_, rfl⟩
  · intro gone
    simp only [subscribeConnection, Finmap.lookup_eq_none.mpr gone]

end WsHub

namespace HubTasks
variable {Value : Type}

section Machine
variable (encode : ServerMessage Value → Except WsError ByteString)

/-- A step that leaves out who may run an operation. -/
def freeStep (s : HubTasks Value) : TaskLabel Value → Option (HubTasks Value)
  | .start name op =>
    if name ∉ s.pending then
      some { s with pending := setCalls s.pending name op.calls }
    else none
  | .run name ids topics => step encode s (.run name ids topics)

/-- The interleaved hub in which any task may run any operation. -/
def freeMachine (nodeId : Uuid) (config : WebSocketConfig)
    (clusterTx : Option (Mpsc (ClusterFrame Value))) :
    Machine (HubTasks Value) (TaskLabel Value) where
  init := ⟨.new nodeId config clusterTx, ∅, ∅, []⟩
  step := freeStep encode

end Machine

/-- The call a step makes. -/
def made (s : HubTasks Value) : TaskLabel Value → Option (Call Value)
  | .start _ _ => none
  | .run name _ _ => (s.pending.lookup name).bind List.head?

/-- The step is not the first half of a `subscribe` of the connection. -/
def NoSubscribe (id : ConnectionId) (s : HubTasks Value) (l : TaskLabel Value) : Prop :=
  ∀ topic, made s l ≠ some (.subscribeConnection id topic)

section Step
variable {encode : ServerMessage Value → Except WsError ByteString} {s t : HubTasks Value}
  {l : TaskLabel Value} {ids : List ConnectionId} {topics : List Topic} {h h' : WsHub Value}
  {c : Call Value} {more : List (Call Value)} {id : ConnectionId} {limit : Nat}

/-- A step makes one call, or leaves the hub as it is. -/
theorem freeStep_cases (hs : freeStep encode s l = some t) :
    (made s l = none ∧ t.hub = s.hub) ∨
      ∃ c ids topics more, made s l = some c ∧
        exec encode ids topics s.hub c = some (t.hub, more) := by
  cases l with
  | start name op =>
    rw [freeStep] at hs
    split at hs
    · cases hs
      exact Or.inl ⟨rfl, rfl⟩
    · cases hs
  | run name ids topics =>
    obtain ⟨c, rest, h, more, found, done, rfl⟩ := run_cases hs
    exact Or.inr ⟨c, ids, topics, more, by simp [made, found], done⟩

/-- The topics of an entry after a call that subscribes it to nothing. -/
theorem exec_topics (done : exec encode ids topics h c = some (h', more))
    (other : ∀ topic, c ≠ .subscribeConnection id topic) {conn' : Connection}
    (lookup : h'.connections.lookup id = some conn') :
    conn'.topics = ∅ ∨
      ∃ conn, h.connections.lookup id = some conn ∧ conn'.topics ⊆ conn.topics := by
  rcases (exec_touch done).gains lookup with ⟨_, _, none⟩ | ⟨conn, found, _, within⟩
  · exact Or.inl none
  · exact Or.inr ⟨conn, found, fun t listed => (within t listed).resolve_right (other t)⟩

theorem exec_withinBudget (limited : 0 < limit) (same : h.config.maxTopicsPerConnection = limit)
    (within : h.WithinBudget limit) (done : exec encode ids topics h c = some (h', more)) :
    h'.WithinBudget limit := by
  intro id conn' lookup
  by_cases own : ∃ topic, c = .subscribeConnection id topic
  · obtain ⟨topic, rfl⟩ := own
    simp only [exec] at done
    split at done
    · cases done
      exact within id conn' lookup
    · rename_i held accepted
      cases done
      obtain ⟨conn, found, allowed, rfl⟩ := WsHub.subscribeConnection_ok accepted
      obtain rfl := Option.some.inj ((Finmap.lookup_insert _).symm.trans lookup)
      rw [same] at allowed
      rcases allowed limited with listed | spare
      · rw [Finset.insert_eq_of_mem listed]
        exact within id conn found
      · exact (Finset.card_insert_le topic conn.topics).trans spare
  · rcases exec_topics done (fun topic eq => own ⟨topic, eq⟩) lookup with
      none | ⟨conn, found, fewer⟩
    · rw [none]
      exact Nat.zero_le limit
    · exact (Finset.card_le_card fewer).trans (within id conn found)

theorem exec_hasBudget (limited : 0 < limit) (room : h.HasBudget limit id)
    (other : ∀ topic, c ≠ .subscribeConnection id topic)
    (done : exec encode ids topics h c = some (h', more)) : h'.HasBudget limit id := by
  intro conn' lookup
  rcases exec_topics done other lookup with none | ⟨conn, found, fewer⟩
  · rw [none]
    exact limited
  · exact (Finset.card_le_card fewer).trans_lt (room conn found)

/-- Giving up a topic that was held makes room for another one. -/
theorem exec_unsubscribe {topic : Topic} {conn : Connection} (within : h.WithinBudget limit)
    (found : h.connections.lookup id = some conn) (listed : topic ∈ conn.topics)
    (done : exec encode ids topics h (.unsubscribeConnection id topic) = some (h', more)) :
    h'.HasBudget limit id := by
  cases done
  intro conn' lookup
  simp only [WsHub.unsubscribeConnection, found] at lookup
  obtain rfl := Option.some.inj ((Finmap.lookup_insert _).symm.trans lookup)
  have fewer := Finset.card_erase_lt_of_mem listed
  exact fewer.trans_le (within id conn found)

end Step

section Runs
variable {encode : ServerMessage Value → Except WsError ByteString} {nodeId : Uuid}
  {config : WebSocketConfig} {clusterTx : Option (Mpsc (ClusterFrame Value))}
  {s t u : HubTasks Value} {l : TaskLabel Value} {id : ConnectionId} {topic : Topic}

theorem freeStep_config (hs : freeStep encode s l = some t) : t.hub.config = s.hub.config := by
  rcases freeStep_cases hs with ⟨_, same⟩ | ⟨c, ids, topics, more, _, done⟩
  · rw [same]
  · exact exec_config done

theorem reachable_withinBudget (reach : (freeMachine encode nodeId config clusterTx).Reachable s) :
    s.hub.config = config ∧ (0 < config.maxTopicsPerConnection →
      s.hub.WithinBudget config.maxTopicsPerConnection) := by
  refine reach.invariant (I := fun s => s.hub.config = config ∧
    (0 < config.maxTopicsPerConnection → s.hub.WithinBudget config.maxTopicsPerConnection)) ?_ ?_
  · exact ⟨rfl, fun _ id conn lookup => by cases lookup⟩
  · rintro s l t ⟨same, within⟩ _ hs
    refine ⟨(freeStep_config hs).trans same, fun limited => ?_⟩
    rcases freeStep_cases hs with ⟨_, kept⟩ | ⟨c, ids, topics, more, _, done⟩
    · rw [kept]
      exact within limited
    · exact exec_withinBudget limited (by rw [same]) (within limited) done

/-- Room for a topic lasts until the connection subscribes again. -/
theorem run_hasBudget {limit : Nat} (limited : 0 < limit) (room : s.hub.HasBudget limit id)
    {ls : List (TaskLabel Value)}
    (run : ((freeMachine encode nodeId config clusterTx).startingAt s).Run (NoSubscribe id) ls u) :
    u.hub.HasBudget limit id ∧ u.hub.config = s.hub.config := by
  refine run.history (I := fun _ u => u.hub.HasBudget limit id ∧ u.hub.config = s.hub.config)
    ⟨room, rfl⟩ ?_
  rintro _ v l w ⟨before, same⟩ silent hs
  refine ⟨?_, (freeStep_config hs).trans same⟩
  rcases freeStep_cases hs with ⟨_, kept⟩ | ⟨c, ids, topics, more, call, done⟩
  · rw [kept]
    exact before
  · refine exec_hasBudget limited before (fun topic eq => ?_) done
    exact silent topic (by rw [call, eq])

/-- Every connection stays within its budget. A `subscribe` to a topic that is held
goes through and changes nothing; one that is refused changes nothing and makes no
further call; without a limit only a connection that is gone is refused; and the
next `subscribe` after a topic was given up is refused only if the connection was
removed meanwhile. -/
theorem topic_budget (reach : (freeMachine encode nodeId config clusterTx).Reachable s) :
    (0 < config.maxTopicsPerConnection → s.hub.WithinBudget config.maxTopicsPerConnection) ∧
    (∀ id conn topic, s.hub.connections.lookup id = some conn → topic ∈ conn.topics →
      s.hub.subscribeConnection id topic = .ok s.hub) ∧
    (∀ id topic e, s.hub.subscribeConnection id topic = .error e → ∀ ids topics,
      exec encode ids topics s.hub (.subscribeConnection id topic) = some (s.hub, [])) ∧
    (config.maxTopicsPerConnection = 0 → ∀ id topic, id ∈ s.hub.connections →
      ∃ held, s.hub.subscribeConnection id topic = .ok held) ∧
    ∀ id conn topic l t, s.hub.connections.lookup id = some conn → topic ∈ conn.topics →
      made s l = some (.unsubscribeConnection id topic) → freeStep encode s l = some t →
      ∀ ls u, ((freeMachine encode nodeId config clusterTx).startingAt t).Run
          (NoSubscribe id) ls u →
        ∀ new, (id ∈ u.hub.connections → ∃ held, u.hub.subscribeConnection id new = .ok held) ∧
          (id ∉ u.hub.connections →
            u.hub.subscribeConnection id new = .error .unknownConnection) := by
  obtain ⟨same, within⟩ := reachable_withinBudget reach
  refine ⟨within, ?_, ?_, ?_, ?_⟩
  · intro id conn topic lookup listed
    exact WsHub.subscribeConnection_held lookup listed
  · intro id topic e refused ids topics
    simp only [exec, refused]
  · intro unlimited id topic
    exact (WsHub.subscribeConnection_room topic (Or.inl (by rw [same, unlimited]))).1
  · intro id conn topic l t lookup listed call hs ls u run new
    have reached : t.hub.config = config := (freeStep_config hs).trans same
    rcases Nat.eq_zero_or_pos config.maxTopicsPerConnection with unlimited | limited
    · have kept : u.hub.config = t.hub.config :=
        run.history (I := fun _ u => u.hub.config = t.hub.config) rfl
          fun _ _ _ _ before _ step => (freeStep_config step).trans before
      exact WsHub.subscribeConnection_room new (Or.inl (by rw [kept, reached, unlimited]))
    · have room : t.hub.HasBudget config.maxTopicsPerConnection id := by
        rcases freeStep_cases hs with ⟨none, _⟩ | ⟨c, ids, topics, more, call', done⟩
        · rw [none] at call
          cases call
        · rw [call] at call'
          obtain rfl := Option.some.inj call'
          exact exec_unsubscribe (within limited) lookup listed done
      obtain ⟨spare, kept⟩ := run_hasBudget limited room run
      exact WsHub.subscribeConnection_room new (Or.inr (by rw [kept, reached]; exact spare))

end Runs

section Examples

/-- One topic a connection, and one-frame queues. -/
def oneTopic : Machine (HubTasks Nat) (TaskLabel Nat) :=
  freeMachine WsHub.plainFrame 9 ⟨0, 1, 1⟩ none

/-- Connection 1 holds "prices" and is about to give it up; its queue is full. -/
def holding : List (TaskLabel Nat) :=
  filledQueue ++ [.start (.session 1) (.subscribe 1 "prices"), .run (.session 1) [] [],
    .run (.session 1) [] [], .start (.session 1) (.unsubscribe 1 "prices")]

/-- Connection 1 makes its next call. -/
def nextCall : TaskLabel Nat := .run (.session 1) [] []

/-- Afterwards connection 1 is evicted, and then asks for "news". -/
def asking : List (TaskLabel Nat) :=
  [.run (.session 1) [] [], .run (.session 1) [] []] ++ evicting [] ++
    [.start (.session 1) (.subscribe 1 "news")]

/-- A test for `NoSubscribe` of connection 1. -/
def silent (s : HubTasks Nat) (l : TaskLabel Nat) : Bool :=
  match made s l with
  | some (.subscribeConnection id _) => decide (id ≠ 1)
  | _ => true

theorem silent_sound (s : HubTasks Nat) (l : TaskLabel Nat) (passed : silent s l = true) :
    NoSubscribe 1 s l := by
  intro topic call
  simp [silent, call] at passed

/-- Connection 1 gives up "prices", which it holds. -/
def givesUp (s : HubTasks Nat) : Bool :=
  (s.hub.connections.lookup 1).any (fun conn => "prices" ∈ conn.topics) &&
    match made s nextCall with
    | some (.unsubscribeConnection id topic) => decide (id = 1 ∧ topic = "prices")
    | _ => false

/-- Connection 1 asks for "news" and is not registered any more. -/
def asksInVain (s : HubTasks Nat) : Bool :=
  decide (1 ∉ s.hub.connections) &&
    match made s nextCall with
    | some (.subscribeConnection id topic) => decide (id = 1 ∧ topic = "news")
    | _ => false

theorem givesUp_sound {s : HubTasks Nat} (passed : givesUp s = true) :
    (∃ conn, s.hub.connections.lookup 1 = some conn ∧ "prices" ∈ conn.topics) ∧
      made s nextCall = some (.unsubscribeConnection 1 "prices") := by
  obtain ⟨listed, call⟩ := (Bool.and_eq_true _ _).mp passed
  constructor
  · cases lookup : s.hub.connections.lookup 1 with
    | none =>
      rw [lookup] at listed
      cases listed
    | some conn =>
      rw [lookup] at listed
      exact ⟨conn, rfl, of_decide_eq_true listed⟩
  · split at call
    · rename_i id topic eq
      obtain ⟨rfl, rfl⟩ := of_decide_eq_true call
      exact eq
    · cases call

theorem asksInVain_sound {s : HubTasks Nat} (passed : asksInVain s = true) :
    1 ∉ s.hub.connections ∧ made s nextCall = some (.subscribeConnection 1 "news") := by
  obtain ⟨gone, call⟩ := (Bool.and_eq_true _ _).mp passed
  refine ⟨of_decide_eq_true gone, ?_⟩
  split at call
  · rename_i id topic eq
    obtain ⟨rfl, rfl⟩ := of_decide_eq_true call
    exact eq
  · cases call

/-- The run: up to a held topic, the step that gives it up, and then to the next
`subscribe`, made by a connection that is gone when `p` says so. -/
theorem run_asking (ls : List (TaskLabel Nat)) {p : HubTasks Nat → Bool}
    (replayed : (oneTopic.replay (fun _ _ => true) oneTopic.init holding).any (fun s =>
      givesUp s && (oneTopic.step s nextCall).any fun t =>
        ((oneTopic.startingAt t).replay silent t ls).any p) = true) :
    ∃ s t u, oneTopic.Reachable s ∧ givesUp s = true ∧ oneTopic.step s nextCall = some t ∧
      (oneTopic.startingAt t).Run (NoSubscribe 1) ls u ∧ p u = true := by
  obtain ⟨s, reach, passed⟩ := Machine.reachable_of_replay holding replayed
  obtain ⟨gives, later⟩ := (Bool.and_eq_true _ _).mp passed
  cases hs : oneTopic.step s nextCall with
  | none =>
    rw [hs] at later
    cases later
  | some t =>
    rw [hs] at later
    obtain ⟨u, run, ends⟩ := Machine.exists_run_of_replay (M := oneTopic.startingAt t)
      silent_sound (p := p) ls later
    exact ⟨s, t, u, reach, gives, hs, run, ends⟩

/-- Nobody evicts connection 1, which is granted "news" in the place of "prices". -/
theorem topic_budget_swapped :
    ∃ u : HubTasks Nat, 1 ∈ u.hub.connections ∧
      ∃ held, u.hub.subscribeConnection 1 "news" = .ok held := by
  obtain ⟨s, t, u, reach, gives, hs, run, present⟩ := run_asking [.run (.session 1) [] []]
    (p := fun u => decide (1 ∈ u.hub.connections)) (by decide)
  obtain ⟨⟨conn, lookup, listed⟩, call⟩ := givesUp_sound gives
  obtain ⟨_, _, _, _, next⟩ := topic_budget reach
  have registered := of_decide_eq_true present
  exact ⟨u, registered,
    (next 1 conn "prices" nextCall t lookup listed call hs _ u run "news").1 registered⟩

/-- After "prices" is given up the connection is evicted, so the next `subscribe`
is refused. -/
theorem next_subscribe_refused :
    ¬ ∀ s, oneTopic.Reachable s → ∀ id conn topic l t,
      s.hub.connections.lookup id = some conn → topic ∈ conn.topics →
      made s l = some (.unsubscribeConnection id topic) → oneTopic.step s l = some t →
      ∀ ls u, (oneTopic.startingAt t).Run (NoSubscribe id) ls u →
        ∀ l' new, made u l' = some (.subscribeConnection id new) →
          ∃ held, u.hub.subscribeConnection id new = .ok held := by
  intro claim
  obtain ⟨s, t, u, reach, gives, hs, run, vain⟩ := run_asking asking (p := asksInVain)
    (by decide)
  obtain ⟨⟨conn, lookup, listed⟩, call⟩ := givesUp_sound gives
  obtain ⟨gone, asks⟩ := asksInVain_sound vain
  obtain ⟨held, granted⟩ := claim s reach 1 conn "prices" nextCall t lookup listed call hs
    asking u run nextCall "news" asks
  rw [WsHub.subscribeConnection, Finmap.lookup_eq_none.mpr gone] at granted
  cases granted

end Examples

end HubTasks
end ApiBoilerplate
