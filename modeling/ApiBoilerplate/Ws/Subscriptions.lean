import ApiBoilerplate.Ws.NoIndexLeak

/-!
# Acknowledged subscriptions

A subscription stands from the moment `subscribe` returned `Ok` until a call
that undoes it starts, by which its first call on a map is meant. A standing
subscription is in both maps, whatever else happens to the topic, unless the
connection was taken out between the two halves of its `subscribe`.
-/

namespace ApiBoilerplate

open Foundation
open WsHub (Op)

namespace HubTasks
variable {Value : Type}

/-- What becomes of the standing subscriptions when a call is made. -/
def settle (standing : Finset (ConnectionId × Topic)) : Call Value →
    Finset (ConnectionId × Topic)
  | .topicsInsert topic id => insert (id, topic) standing
  | .unsubscribeConnection id topic => standing.erase (id, topic)
  | .connectionsRemove id => standing.filter (fun entry => entry.1 ≠ id)
  | _ => standing

def recordStanding (s : HubTasks Value) (l : TaskLabel Value)
    (standing : Finset (ConnectionId × Topic)) : Finset (ConnectionId × Topic) :=
  match l with
  | .start _ _ => standing
  | .run name _ _ =>
    match s.pending.lookup name with
    | some (c :: _) => settle standing c
    | _ => standing

section Machine
variable (encode : ServerMessage Value → Except WsError ByteString) (nodeId : Uuid)
  (config : WebSocketConfig) (clusterTx : Option (Mpsc (ClusterFrame Value)))

/-- The machine with the standing subscriptions kept beside it. -/
def subscribed : Machine (HubTasks Value × Finset (ConnectionId × Topic)) (TaskLabel Value) :=
  (machine encode nodeId config clusterTx).recording ∅ recordStanding

end Machine

theorem mem_settle {standing : Finset (ConnectionId × Topic)} {c : Call Value}
    {id : ConnectionId} {t : Topic} (listed : (id, t) ∈ settle standing c) :
    c = .topicsInsert t id ∨ ((id, t) ∈ standing ∧ c ≠ .unsubscribeConnection id t ∧
      c ≠ .connectionsRemove id) := by
  cases c with
  | topicsInsert topic k =>
    rcases Finset.mem_insert.mp listed with same | before
    · cases same
      exact Or.inl rfl
    · exact Or.inr ⟨before, by simp, by simp⟩
  | unsubscribeConnection k topic =>
    obtain ⟨other, before⟩ := Finset.mem_erase.mp listed
    refine Or.inr ⟨before, ?_, by simp⟩
    rintro ⟨⟩
    exact other rfl
  | connectionsRemove k =>
    obtain ⟨before, other⟩ := Finset.mem_filter.mp listed
    refine Or.inr ⟨before, by simp, ?_⟩
    rintro ⟨⟩
    exact other rfl
  | _ => exact Or.inr ⟨listed, by simp, by simp⟩

/-- Only `unsubscribe` and `unregister` put a removal from a topic in front. -/
theorem exec_removal {encode : ServerMessage Value → Except WsError ByteString}
    {ids : List ConnectionId} {topics : List Topic} {h h' : WsHub Value} {c : Call Value}
    {more : List (Call Value)} (done : exec encode ids topics h c = some (h', more))
    {t : Topic} {id : ConnectionId} (put : .topicsRemove t id ∈ more) :
    (c = .unsubscribeConnection id t ∧ more = [.topicsRemove t id, .topicsRemoveIf t]) ∨
      (c = .connectionsRemove id ∧ id ∈ h.connections ∧ id ∉ h'.connections) := by
  cases exec_made done with
  | unsubscribedGone _ | unsubscribed _ =>
    obtain ⟨rfl, rfl⟩ := by simpa using put
    exact Or.inl ⟨rfl, rfl⟩
  | @removed k conn order lookup _ =>
    obtain rfl : id = k := by
      simp only [detachCalls, List.mem_append, List.mem_flatMap] at put
      rcases put with ⟨x, _, put⟩ | put
      · exact (by simpa using put : t = x ∧ id = k).2
      · cases user : conn.userId <;> simp [user] at put
    exact Or.inr ⟨rfl, Finmap.mem_of_lookup_eq_some lookup, by simp [WsHub.connectionsRemove]⟩
  | served => simp [evictCalls] at put
  | admitted | registeredFor | subscribed | audience | delivered | passed => simp at put
  | atCapacity | registered | usersInsert | refused | topicsInsert | topicsRemove | topicsRemoveIf
  | removedGone | usersRemove | usersRemoveIf | forwarded | unencoded | countSlow | countSent
  | drained | dropped | relayed => cases put

theorem calls_no_removal (op : Op Value) (t : Topic) (id : ConnectionId) :
    .topicsRemove t id ∉ op.calls := by
  cases op with
  | publish topic payload => cases payload <;> simp [Op.calls]
  | publishToUser userId topic payload => cases payload <;> simp [Op.calls]
  | broadcast topic payload => cases payload <;> simp [Op.calls]
  | sendTo k topic payload => cases payload <;> simp [Op.calls]
  | _ => simp [Op.calls]

/-- Who still has to take `id` out of a topic: a task that has removed the
connection, or its own session in an `unsubscribe`. -/
structure Orderly (p : HubTasks Value × Finset (ConnectionId × Topic)) : Prop
    extends Sequenced p.1 where
  removing : ∀ name calls t id, p.1.pending.lookup name = some calls →
    .topicsRemove t id ∈ calls →
      (id ∈ p.1.hub.channels ∧ id ∉ p.1.hub.connections) ∨
        (name = .session id ∧ calls = [.topicsRemove t id, .topicsRemoveIf t] ∧ (id, t) ∉ p.2)

section Step
variable {encode : ServerMessage Value → Except WsError ByteString} {nodeId : Uuid}
  {config : WebSocketConfig} {clusterTx : Option (Mpsc (ClusterFrame Value))}
  {p q : HubTasks Value × Finset (ConnectionId × Topic)} {l : TaskLabel Value}

theorem step_orderly (orderly : Orderly p)
    (hs : (subscribed encode nodeId config clusterTx).step p l = some q) : Orderly q := by
  obtain ⟨s, standing⟩ := p
  obtain ⟨s', standing'⟩ := q
  obtain ⟨stepped, recorded⟩ := Machine.recording_step.mp hs
  change step encode s l = some s' at stepped
  change recordStanding s l standing = standing' at recorded
  refine ⟨step_sequenced orderly.toSequenced stepped, ?_⟩
  cases l with
  | start name op =>
    obtain ⟨_, _, rfl⟩ := start_cases stepped
    subst recorded
    intro m calls t id lookup mem
    dsimp only at lookup
    rw [lookup_setCalls] at lookup
    split_ifs at lookup with same empty
    · rw [← Option.some.inj lookup] at mem
      exact absurd mem (calls_no_removal op t id)
    · exact orderly.removing m calls t id lookup mem
  | run name ids topics =>
    obtain ⟨c, rest, h, more, found, done, rfl⟩ := run_cases stepped
    have touch := exec_touch done
    obtain rfl : standing' = settle standing c := by
      rw [← recorded, recordStanding]
      simp only [found]
    have away : ∀ {id : ConnectionId}, id ∈ s.hub.channels ∧ id ∉ s.hub.connections →
        id ∈ h.channels ∧ id ∉ h.connections := fun gone =>
      ⟨touch.channels gone.1, touch.stays_away gone.1 gone.2⟩
    intro m calls t id lookup mem
    dsimp only at lookup
    rw [lookup_setCalls] at lookup
    split_ifs at lookup with same empty
    · obtain rfl := Option.some.inj lookup
      subst same
      rcases List.mem_append.mp mem with put | later
      · rcases exec_removal done put with ⟨rfl, rfl⟩ | ⟨rfl, present, gone⟩
        · obtain ⟨rfl, one⟩ := orderly.alone m _ _ id found List.mem_cons_self rfl
          obtain rfl := (List.cons.inj one).2
          exact Or.inr ⟨rfl, rfl, by simp [settle]⟩
        · exact Or.inl ⟨touch.channels (orderly.opened id present), gone⟩
      · rcases orderly.removing m _ t id found (List.mem_cons_of_mem c later) with
          gone | ⟨_, calls, _⟩
        · exact Or.inl (away gone)
        · obtain ⟨rfl, rfl⟩ := List.cons.inj calls
          simp at later
    · rcases orderly.removing m calls t id lookup mem with gone | ⟨rfl, rfl, left⟩
      · exact Or.inl (away gone)
      · refine Or.inr ⟨rfl, rfl, fun listed => ?_⟩
        rcases mem_settle listed with rfl | ⟨before, _, _⟩
        · obtain ⟨rfl, _⟩ := orderly.alone name _ _ id found List.mem_cons_self rfl
          exact same rfl
        · exact left before

theorem reachable_orderly
    (reach : (subscribed encode nodeId config clusterTx).Reachable p) : Orderly p :=
  Machine.ReachableWhere.invariant (I := Orderly)
    ⟨init_sequenced nodeId config clusterTx, fun _ _ _ _ lookup => by cases lookup⟩
    (fun _ _ _ orderly _ hs => step_orderly orderly hs) reach

end Step

/-- The connection a round of a delivery loop looks up and sends to. -/
def visits (s : HubTasks Value) : TaskLabel Value → List (TaskName × ConnectionId)
  | .start _ _ => []
  | .run name _ _ =>
    match s.pending.lookup name with
    | some (.deliver _ _ (id :: _) _ _ :: _) => [(name, id)]
    | _ => []

/-- The delivery loop of a task has `id` still before it. -/
def Ahead (s : HubTasks Value) (name : TaskName) (id : ConnectionId) : Prop :=
  ∃ addr frame ids delivered slow rest,
    s.pending.lookup name = some (.deliver addr frame ids delivered slow :: rest) ∧ id ∈ ids

section Loop
variable {encode : ServerMessage Value → Except WsError ByteString} {s s' : HubTasks Value}
  {l : TaskLabel Value} {name : TaskName} {id : ConnectionId}

/-- A loop with `id` before it visits it next, or keeps it before it. -/
theorem ahead_step (ahead : Ahead s name id) (hs : step encode s l = some s') :
    (name, id) ∈ visits s l ∨ Ahead s' name id := by
  obtain ⟨addr, frame, ids, delivered, slow, rest, found, mem⟩ := ahead
  have kept : ∀ (owner : FinMap ConnectionId (Option Uuid)) h calls log m, m ≠ name →
      Ahead ⟨h, setCalls s.pending m calls, owner, log⟩ name id := by
    intro owner h calls log m other
    refine ⟨addr, frame, ids, delivered, slow, rest, ?_, mem⟩
    rw [lookup_setCalls, if_neg (Ne.symm other), found]
  cases l with
  | start m op =>
    obtain ⟨idle, _, rfl⟩ := start_cases hs
    refine Or.inr (kept _ _ _ _ m ?_)
    rintro rfl
    exact idle (Finmap.mem_of_lookup_eq_some found)
  | run m others topics =>
    obtain ⟨c, rest', h, more, found', done, rfl⟩ := run_cases hs
    by_cases same : m = name
    · subst same
      rw [found] at found'
      obtain ⟨rfl, rfl⟩ := List.cons.inj (Option.some.inj found')
      cases ids with
      | nil => cases mem
      | cons k ids =>
        rcases List.mem_cons.mp mem with rfl | later
        · exact Or.inl (by simp [visits, found])
        · right
          obtain ⟨n, slow', rfl⟩ : ∃ n slow', more = [.deliver addr frame ids n slow'] := by
            cases exec_made done with
            | delivered | passed => exact ⟨_, _, rfl⟩
          exact ⟨addr, frame, ids, n, slow', rest, by simp [lookup_setCalls], later⟩
    · exact Or.inr (kept _ _ _ _ m same)

theorem ahead_run {nodeId : Uuid} {config : WebSocketConfig}
    {clusterTx : Option (Mpsc (ClusterFrame Value))} (ahead : Ahead s name id)
    (ls : List (TaskLabel Value))
    (run : (machine encode nodeId config clusterTx).replay (fun _ _ => true) s ls = some s') :
    (name, id) ∈ (machine encode nodeId config clusterTx).notes visits s ls ∨
      Ahead s' name id := by
  induction ls generalizing s with
  | nil =>
    obtain rfl := Option.some.inj run
    exact Or.inr ahead
  | cons l ls ih =>
    obtain ⟨r, stepped, rest⟩ := Option.bind_eq_some_iff.mp run
    rw [Machine.notes, stepped, Option.map_some, Option.getD_some, List.mem_append]
    rcases ahead_step ahead stepped with visited | still
    · exact Or.inl (Or.inl visited)
    · exact (ih still rest).imp_left Or.inr

variable (encode) in
/-- Every publish on `t` that looks up its subscribers now attempts a delivery to
`id`: whatever runs from there on, its loop has visited `id` or has it before it. -/
def Reaches (nodeId : Uuid) (config : WebSocketConfig)
    (clusterTx : Option (Mpsc (ClusterFrame Value))) (s : HubTasks Value) (t : Topic)
    (id : ConnectionId) : Prop :=
  ∀ name topic payload frame rest ids topics s',
    s.pending.lookup name = some (.readAudience (.topic t) topic payload :: rest) →
    WsHub.eventFrame encode topic payload = .ok frame →
    step encode s (.run name ids topics) = some s' →
    ∀ ls u, (machine encode nodeId config clusterTx).replay (fun _ _ => true) s' ls = some u →
      (name, id) ∈ (machine encode nodeId config clusterTx).notes visits s' ls ∨ Ahead u name id

theorem reaches_of_filed {nodeId : Uuid} {config : WebSocketConfig}
    {clusterTx : Option (Mpsc (ClusterFrame Value))} {t : Topic}
    (filed : id ∈ s.hub.topics.members t) : Reaches encode nodeId config clusterTx s t id := by
  intro name topic payload frame rest ids topics s' found encoded stepped ls u run
  obtain ⟨c, rest', h, more, found', done, rfl⟩ := run_cases stepped
  rw [found] at found'
  obtain ⟨rfl, rfl⟩ := List.cons.inj (Option.some.inj found')
  simp only [exec, encoded] at done
  split at done
  · rename_i order
    cases done
    have listed : id ∈ ids := by
      rw [← List.mem_toFinset, order.2]
      exact filed
    exact ahead_run ⟨.topic t, frame, ids, 0, [], rest, by simp [lookup_setCalls], listed⟩ ls run
  · cases done

end Loop

/-- A subscription is in both maps, and publishes reach it. -/
structure Held (encode : ServerMessage Value → Except WsError ByteString) (nodeId : Uuid)
    (config : WebSocketConfig) (clusterTx : Option (Mpsc (ClusterFrame Value)))
    (s : HubTasks Value) (id : ConnectionId) (t : Topic) : Prop where
  filed : id ∈ s.hub.topics.members t
  entered : ∃ conn, s.hub.connections.lookup id = some conn ∧ t ∈ conn.topics
  reached : Reaches encode nodeId config clusterTx s t id

/-- No `subscribe` files its topic for a connection taken out since its first half. -/
def NotOvertaken (p : HubTasks Value × Finset (ConnectionId × Topic)) :
    TaskLabel Value → Prop
  | .start _ _ => True
  | .run name _ _ =>
    match p.1.pending.lookup name with
    | some (.topicsInsert _ id :: _) => id ∈ p.1.hub.connections
    | _ => True

theorem Touch.still_filed {h h' : WsHub Value} {c : Call Value} {more : List (Call Value)}
    (touch : Touch h c h' more) {t : Topic} {id : ConnectionId}
    (filed : id ∈ h.topics.members t) (other : c ≠ .topicsRemove t id) :
    id ∈ h'.topics.members t := by
  cases touch with
  | quiet _ topics _ _ _ _ _ => exact topics t ▸ filed
  | topicsInsert => exact (Index.mem_members_attach ..).mpr (Or.inr filed)
  | topicsRemove =>
    refine (Index.mem_members_remove ..).mpr ⟨filed, ?_⟩
    rintro ⟨rfl, rfl⟩
    exact other rfl
  | connectionsInsert _ _ => exact filed
  | usersInsert => exact filed
  | subscribed _ => exact filed
  | unsubscribed _ => exact filed
  | removed _ _ => exact filed
  | usersRemove => exact filed

section Kept
variable {encode : ServerMessage Value → Except WsError ByteString} {nodeId : Uuid}
  {config : WebSocketConfig} {clusterTx : Option (Mpsc (ClusterFrame Value))}
  {s : HubTasks Value} {standing : Finset (ConnectionId × Topic)} {name : TaskName}
  {c : Call Value} {rest more : List (Call Value)} {h : WsHub Value}
  {ids : List ConnectionId} {topics : List Topic} {id : ConnectionId} {t : Topic}

/-- A subscription that stands before and after a call is still in both maps. -/
theorem kept_entered (orderly : Orderly (s, standing))
    (found : s.pending.lookup name = some (c :: rest))
    (done : exec encode ids topics s.hub c = some (h, more)) (stands : (id, t) ∈ standing)
    (stays : c ≠ .unsubscribeConnection id t) (remains : c ≠ .connectionsRemove id)
    (held : Held encode nodeId config clusterTx s id t) :
    id ∈ h.topics.members t ∧ ∃ conn, h.connections.lookup id = some conn ∧ t ∈ conn.topics := by
  have touch := exec_touch done
  obtain ⟨conn, lookup, listed⟩ := held.entered
  have present := Finmap.mem_of_lookup_eq_some lookup
  have noRemoval : .topicsRemove t id ∉ more := by
    intro put
    rcases exec_removal done put with ⟨same, _⟩ | ⟨same, _⟩
    · exact stays same
    · exact remains same
  constructor
  · refine touch.still_filed held.filed ?_
    rintro rfl
    rcases orderly.removing name _ t id found List.mem_cons_self with ⟨_, gone⟩ | ⟨_, _, left⟩
    · exact gone present
    · exact left stands
  · rcases touch.entry (orderly.opened id present) lookup with
      ⟨conn', lookup', _, topics⟩ | ⟨topics, _⟩
    · exact ⟨conn', lookup', (topics t listed).resolve_right noRemoval⟩
    · exact absurd (topics t listed) noRemoval

end Kept

section Runs
variable {encode : ServerMessage Value → Except WsError ByteString} {nodeId : Uuid}
  {config : WebSocketConfig} {clusterTx : Option (Mpsc (ClusterFrame Value))}
  {p q : HubTasks Value × Finset (ConnectionId × Topic)} {l : TaskLabel Value}

variable (encode nodeId config clusterTx) in
/-- Every standing subscription is held. -/
def AllHeld (p : HubTasks Value × Finset (ConnectionId × Topic)) : Prop :=
  ∀ id t, (id, t) ∈ p.2 → Held encode nodeId config clusterTx p.1 id t

/-- A step keeps all standing subscriptions exactly if it files no topic for a
connection that is gone. -/
theorem step_allHeld_iff (orderly : Orderly p)
    (held : AllHeld encode nodeId config clusterTx p)
    (hs : (subscribed encode nodeId config clusterTx).step p l = some q) :
    AllHeld encode nodeId config clusterTx q ↔ NotOvertaken p l := by
  obtain ⟨s, standing⟩ := p
  obtain ⟨s', standing'⟩ := q
  obtain ⟨stepped, recorded⟩ := Machine.recording_step.mp hs
  change step encode s l = some s' at stepped
  change recordStanding s l standing = standing' at recorded
  cases l with
  | start name op =>
    obtain ⟨_, _, rfl⟩ := start_cases stepped
    subst recorded
    refine iff_of_true (fun id t stands => ?_) trivial
    obtain ⟨filed, entered, _⟩ := held id t stands
    exact ⟨filed, entered, reaches_of_filed filed⟩
  | run name ids topics =>
    obtain ⟨c, rest, h, more, found, done, rfl⟩ := run_cases stepped
    obtain rfl : standing' = settle standing c := by
      rw [← recorded, recordStanding]
      simp only [found]
    have condition : NotOvertaken (s, standing) (.run name ids topics) ↔
        ∀ id t, c = .topicsInsert t id → id ∈ s.hub.connections := by
      simp only [NotOvertaken, found]
      cases c <;> simp
    rw [condition]
    constructor
    · rintro held' id t rfl
      obtain ⟨_, ⟨conn, lookup, _⟩, _⟩ := held' id t (by simp [settle])
      cases done
      exact Finmap.mem_of_lookup_eq_some lookup
    · intro timely id t stands
      have both : id ∈ h.topics.members t ∧
          ∃ conn, h.connections.lookup id = some conn ∧ t ∈ conn.topics := by
        rcases mem_settle stands with rfl | ⟨before, stays, remains⟩
        · have awaited : s.Awaits (.topicsInsert t id) := ⟨name, _, found, List.mem_cons_self⟩
          obtain ⟨conn, lookup⟩ := Finmap.mem_iff.mp (timely id t rfl)
          cases done
          exact ⟨(Index.mem_members_attach ..).mpr (Or.inl ⟨rfl, rfl⟩), conn, lookup,
            (orderly.subscribing t id awaited).2 conn lookup⟩
        · exact kept_entered orderly found done before stays remains (held id t before)
      exact ⟨both.1, both.2, reaches_of_filed both.1⟩

/-- A run holds every acknowledged subscription in each of its states exactly when
no connection is taken out between the two halves of a `subscribe` of its own. -/
theorem no_subscription_lost_iff (ls : List (TaskLabel Value))
    (p : HubTasks Value × Finset (ConnectionId × Topic)) :
    ((subscribed encode nodeId config clusterTx).Run
        (fun p _ => AllHeld encode nodeId config clusterTx p) ls p ∧
      AllHeld encode nodeId config clusterTx p) ↔
    (subscribed encode nodeId config clusterTx).Run NotOvertaken ls p := by
  refine Machine.Run.throughout_iff ?_ (fun p l q reach held hs => ?_) ls p
  · intro id t stands
    cases stands
  · exact step_allHeld_iff (reachable_orderly reach) held hs

end Runs

section Examples

/-- The machine of the runs below: one-frame queues, no limits. -/
def oneFrame : Machine (HubTasks Nat × Finset (ConnectionId × Topic)) (TaskLabel Nat) :=
  subscribed WsHub.plainFrame 9 ⟨0, 0, 1⟩ none

/-- Connection 1 gives up "prices" while connection 2 joins it: the set is empty
when 1 has left, 2 files itself, and only then 1 looks whether to drop the set. -/
def joining : List (TaskLabel Nat) :=
  [.start (.other 0) (.register 1 none 0), .run (.other 0) [] [], .run (.other 0) [] [],
    .start (.other 0) (.register 2 none 0), .run (.other 0) [] [], .run (.other 0) [] [],
    .start (.session 1) (.subscribe 1 "prices"), .run (.session 1) [] [], .run (.session 1) [] [],
    .start (.session 1) (.unsubscribe 1 "prices"), .run (.session 1) [] [],
    .run (.session 1) [] [], .start (.session 2) (.subscribe 2 "prices"),
    .run (.session 2) [] [], .run (.session 2) [] [], .run (.session 1) [] []]

/-- A test for `NotOvertaken`. -/
def notOvertaken (p : HubTasks Nat × Finset (ConnectionId × Topic)) : TaskLabel Nat → Bool
  | .start _ _ => true
  | .run name _ _ =>
    match p.1.pending.lookup name with
    | some (.topicsInsert _ id :: _) => decide (id ∈ p.1.hub.connections)
    | _ => true

theorem notOvertaken_sound (p : HubTasks Nat × Finset (ConnectionId × Topic))
    (l : TaskLabel Nat) (passed : notOvertaken p l = true) : NotOvertaken p l := by
  cases l with
  | start _ _ => trivial
  | run name _ _ =>
    simp only [NotOvertaken]
    simp only [notOvertaken] at passed
    split
    · rename_i found
      simpa only [found, decide_eq_true_eq] using passed
    · trivial

theorem no_subscription_lost_iff_joining :
    ∃ p, oneFrame.Reachable p ∧ (2, "prices") ∈ p.2 ∧
      Held WsHub.plainFrame 9 ⟨0, 0, 1⟩ none p.1 2 "prices" := by
  obtain ⟨p, run, stands⟩ := Machine.exists_run_of_replay (M := oneFrame) notOvertaken_sound
    (p := fun p => decide ((2, "prices") ∈ p.2)) joining (by decide)
  have reach : oneFrame.Reachable p := Machine.ReachableWhere.reachable ⟨joining, run⟩
  have listed := of_decide_eq_true stands
  exact ⟨p, reach, listed, ((no_subscription_lost_iff joining p).mpr run).2 2 "prices" listed⟩

/-- Connection 1 is evicted between the two halves of its `subscribe`, which
returns `Ok` all the same. -/
theorem acknowledged_when_gone :
    ¬ ∀ p, oneFrame.Reachable p → AllHeld WsHub.plainFrame 9 ⟨0, 0, 1⟩ none p := by
  intro claim
  obtain ⟨p, reach, checked⟩ := Machine.reachable_of_replay (M := oneFrame)
    (p := fun p => decide ((1, "prices") ∈ p.2 ∧ 1 ∉ p.1.hub.connections))
    (filledQueue ++ [.start (.session 1) (.subscribe 1 "prices"),
      .run (.session 1) [] []] ++ evicting ["prices"] ++ [.run (.session 1) [] []]) (by decide)
  obtain ⟨stands, gone⟩ := of_decide_eq_true checked
  obtain ⟨_, ⟨conn, lookup, _⟩, _⟩ := claim p reach 1 "prices" stands
  exact gone (Finmap.mem_of_lookup_eq_some lookup)

end Examples

end HubTasks
end ApiBoilerplate
