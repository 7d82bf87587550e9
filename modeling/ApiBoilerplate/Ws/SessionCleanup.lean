import ApiBoilerplate.Ws.SessionTeardown

/-!
# No cleanup path is missed

With hub operations taken one at a time, no insert comes after the removal of
its connection. Whichever way a session ends, its id is then in none of the
three maps of the hub, and frames it still handles after an eviction put it
back into none of them.
-/

namespace ApiBoilerplate

open Foundation
open WsHub (Op)

/-- The calls of `register` and `subscribe`: each is the only call its task has
still to make. -/
def Call.isLast {Value : Type} : Call Value → Bool
  | .connectionsLen _ _ _ => true
  | .connectionsInsert _ _ _ => true
  | .usersInsert _ _ => true
  | .subscribeConnection _ _ => true
  | .topicsInsert _ _ => true
  | _ => false

namespace HubTasks
variable {Value : Type} {encode : ServerMessage Value → Except WsError ByteString}
  {s t : HubTasks Value}

/-- One operation is in progress at most, and its inserts are about registered
connections. -/
structure OneAtATime (s : HubTasks Value) : Prop where
  single : ∀ n m, n ∈ s.pending → m ∈ s.pending → n = m
  last : ∀ n calls c, s.pending.lookup n = some calls → c ∈ calls → c.isLast = true → calls = [c]
  topics : ∀ t id, s.Awaits (.topicsInsert t id) → id ∈ s.hub.connections
  users : ∀ u id, s.Awaits (.usersInsert u id) → id ∈ s.hub.connections

theorem last_of_calls {op : Op Value} {c : Call Value} (hc : c ∈ op.calls)
    (last : c.isLast = true) : op.calls = [c] := by
  cases op with
  | publish topic payload | publishToUser u topic payload | broadcast topic payload =>
    cases payload with
    | error e => cases hc
    | ok value =>
      rcases List.mem_cons.mp hc with rfl | hc
      · cases last
      · obtain rfl := List.mem_singleton.mp hc
        cases last
  | sendTo id topic payload =>
    cases payload with
    | error e => cases hc
    | ok value =>
      obtain rfl := List.mem_singleton.mp hc
      cases last
  | register | unregister | subscribe | unsubscribe | dispatchClusterFrame | drain
  | dropReceiver | relay =>
    obtain rfl := List.mem_singleton.mp hc
    rfl

/-- Such a call comes alone after another such call. -/
theorem last_put {ids : List ConnectionId} {topics : List Topic} {h h' : WsHub Value}
    {c d : Call Value} {more : List (Call Value)}
    (done : exec encode ids topics h c = some (h', more)) (hd : d ∈ more)
    (last : d.isLast = true) : c.isLast = true ∧ more = [d] := by
  have chain : c.isLast = true := by
    cases exec_puts done hd with
    | cleanup harmless => cases d <;> first | (cases last; done) | cases harmless
    | register | user | topic => rfl
    | audience | deliver => cases last
  refine ⟨chain, ?_⟩
  cases exec_made done with
  | admitted | registeredFor | subscribed =>
    obtain rfl := List.mem_singleton.mp hd
    rfl
  | atCapacity | registered | refused | usersInsert | topicsInsert => cases hd
  | _ => cases chain

theorem subscribed_present {h h' : WsHub Value} {c : Call Value} {more : List (Call Value)}
    (touch : Touch h c h' more) {topic : Topic} {id : ConnectionId}
    (put : .topicsInsert topic id ∈ more) : id ∈ h'.connections := by
  obtain ⟨t, rfl, _, _, known⟩ := (touch.puts put).1 id rfl
  cases touch with
  | quiet connections => rwa [connections]
  | subscribed _ => exact Finmap.mem_insert.mpr (Or.inl rfl)

theorem oneAtATime_run (one : OneAtATime s) {name : TaskName} {ids : List ConnectionId}
    {topics : List Topic} (ran : step encode s (.run name ids topics) = some t) :
    OneAtATime t := by
  obtain ⟨c, rest, h, more, found, done, rfl⟩ := run_cases ran
  have touch := exec_touch done
  have running : name ∈ s.pending := Finmap.mem_of_lookup_eq_some found
  have only : ∀ m calls, (setCalls s.pending name (more ++ rest)).lookup m = some calls →
      m = name ∧ calls = more ++ rest := by
    intro m calls lookup
    rw [lookup_setCalls] at lookup
    split_ifs at lookup with same empty
    · exact ⟨same, (Option.some.inj lookup).symm⟩
    · exact absurd (one.single m name (Finmap.mem_of_lookup_eq_some lookup) running) same
  have put : ∀ m calls d, (setCalls s.pending name (more ++ rest)).lookup m = some calls →
      d ∈ calls → d.isLast = true → d ∈ more ∧ calls = [d] := by
    intro m calls d lookup hd last
    obtain ⟨_, rfl⟩ := only m calls lookup
    rcases List.mem_append.mp hd with new | old
    · obtain ⟨chain, rfl⟩ := last_put done new last
      have alone := one.last name _ c found List.mem_cons_self chain
      obtain rfl : rest = [] := (List.cons.inj alone).2
      exact ⟨new, List.append_nil _⟩
    · have alone := one.last name _ d found (List.mem_cons_of_mem c old) last
      obtain rfl : rest = [] := (List.cons.inj alone).2
      cases old
  constructor
  · intro n m hn hm
    obtain ⟨_, first⟩ := Finmap.mem_iff.mp hn
    obtain ⟨_, second⟩ := Finmap.mem_iff.mp hm
    rw [(only _ _ first).1, (only _ _ second).1]
  · exact fun m calls d lookup hd last => (put m calls d lookup hd last).2
  · rintro topic id ⟨m, calls, lookup, hd⟩
    exact subscribed_present touch (put m calls _ lookup hd rfl).1
  · rintro u id ⟨m, calls, lookup, hd⟩
    exact ((touch.puts (put m calls _ lookup hd rfl).1).2 u id rfl).2.1

theorem oneAtATime_start (quiescent : s.Quiescent) {name : TaskName} {op : Op Value}
    (started : step encode s (.start name op) = some t) : OneAtATime t := by
  have none : ∀ m, s.pending.lookup m = none := by
    intro m
    refine Finmap.lookup_eq_none.mpr (fun present => ?_)
    have listed := Finmap.mem_keys.mpr present
    rw [quiescent] at listed
    cases listed
  simp only [step] at started
  split at started
  · rename_i ready
    obtain rfl := Option.some.inj started
    have only : ∀ m calls, (setCalls s.pending name op.calls).lookup m = some calls →
        m = name ∧ calls = op.calls := by
      intro m calls lookup
      rw [lookup_setCalls, none] at lookup
      split_ifs at lookup with same empty
      exact ⟨same, (Option.some.inj lookup).symm⟩
    constructor
    · intro n m hn hm
      obtain ⟨_, first⟩ := Finmap.mem_iff.mp hn
      obtain ⟨_, second⟩ := Finmap.mem_iff.mp hm
      rw [(only _ _ first).1, (only _ _ second).1]
    · intro m calls c lookup hc last
      obtain ⟨_, rfl⟩ := only m calls lookup
      exact last_of_calls hc last
    · rintro topic id ⟨m, calls, lookup, hc⟩
      obtain ⟨_, rfl⟩ := only m calls lookup
      have first := (mem_calls ready.2 hc).2
      simp at first
    · rintro u id ⟨m, calls, lookup, hc⟩
      obtain ⟨_, rfl⟩ := only m calls lookup
      exact absurd rfl ((mem_calls ready.2 hc).2.2 u id)
  · cases started

theorem OneAtATime.inTime (one : OneAtATime s) (l : TaskLabel Value) : s.InTime l := by
  cases l with
  | start name op => trivial
  | run name ids topics =>
    simp only [InTime]
    split
    · rename_i found
      exact Or.inl (one.topics _ _ ⟨name, _, found, List.mem_cons_self⟩)
    · rename_i found
      exact Or.inl (one.users _ _ ⟨name, _, found, List.mem_cons_self⟩)
    · trivial

/-- An operation starts with no insert. -/
theorem perform_inTime {name : TaskName} {op : Op Value} {ids : List ConnectionId}
    {topics : List Topic} (performed : s.perform encode name op ids topics = some t) :
    ∃ r, s.step encode (.start name op) = some r ∧
      r.step encode (.run name ids topics) = some t ∧ r.InTime (.run name ids topics) := by
  obtain ⟨r, started, ran⟩ := Option.bind_eq_some_iff.mp performed
  refine ⟨r, started, ran, ?_⟩
  simp only [step] at started
  split at started
  · rename_i ready
    obtain rfl := Option.some.inj started
    have first : ∀ c rest, (setCalls s.pending name op.calls).lookup name = some (c :: rest) →
        c ∈ op.calls := by
      intro c rest lookup
      rw [lookup_setCalls, if_pos rfl] at lookup
      split_ifs at lookup
      rw [Option.some.inj lookup]
      exact List.mem_cons_self
    simp only [InTime]
    split
    · rename_i found
      exact absurd rfl ((mem_calls ready.2 (first _ _ found)).2.1 _ _)
    · rename_i found
      exact absurd rfl ((mem_calls ready.2 (first _ _ found)).2.2 _ _)
    · trivial
  · cases started

/-- What a session does to its own receiver leaves the other tasks as they were. -/
theorem receiver_performed {name : TaskName} {op : Op Value} {id : ConnectionId}
    (receiver : op = .drain id ∨ op = .dropReceiver id) {ids : List ConnectionId}
    {topics : List Topic} (one : OneAtATime s) (idle : name ∉ s.pending)
    (performed : s.perform encode name op ids topics = some t) : OneAtATime t := by
  obtain ⟨c, rest, h, more, pending, calls, _, done, rfl, waiting⟩ := perform_cases performed
  obtain ⟨rfl, rfl, same⟩ : rest = [] ∧ more = [] ∧ h.connections = s.hub.connections := by
    have touch := exec_touch done
    rcases receiver with rfl | rfl
    · cases calls
      obtain ⟨g, _, split⟩ := Option.map_eq_some_iff.mp done
      cases split
      cases touch with
      | quiet connections => exact ⟨rfl, rfl, connections⟩
    · cases calls
      obtain ⟨g, _, split⟩ := Option.map_eq_some_iff.mp done
      cases split
      cases touch with
      | quiet connections => exact ⟨rfl, rfl, connections⟩
  have lookup : ∀ m, pending.lookup m = s.pending.lookup m := by
    intro m
    rw [waiting]
    split_ifs with own empty
    · rw [own]
      exact (Finmap.lookup_eq_none.mpr idle).symm
    · exact absurd rfl empty
    · rfl
  have before : ∀ m, m ∈ pending → m ∈ s.pending := by
    intro m present
    rw [← Finmap.lookup_isSome] at present ⊢
    rwa [← lookup]
  constructor
  · exact fun n m hn hm => one.single n m (before n hn) (before m hm)
  · exact fun m calls d found => one.last m calls d ((lookup m).symm.trans found)
  · rintro topic k ⟨m, calls, found, hd⟩
    rw [same]
    exact one.topics topic k ⟨m, calls, (lookup m).symm.trans found, hd⟩
  · rintro u k ⟨m, calls, found, hd⟩
    rw [same]
    exact one.users u k ⟨m, calls, (lookup m).symm.trans found, hd⟩

end HubTasks

namespace SessionRun
variable {Value : Type} {config : SessionConfig} {ctx : WsContext}
  {encode : ServerMessage Value → Except WsError ByteString}
  {parse : String → Except String (ClientMessage Value)} {s t : SessionRun Value}

/-- No operation of the hub starts before the one in progress is finished. -/
def WholeOps (s : SessionRun Value) : SessionRunLabel Value → Prop
  | .hub (.start _ _) => s.tasks.Quiescent
  | .hub (.run _ _ _) => True
  | .own event _ _ => event.callsHub = true → s.tasks.Quiescent

instance (s : SessionRun Value) (l : SessionRunLabel Value) : Decidable (s.WholeOps l) :=
  match l with
  | .hub (.start _ _) => inferInstanceAs (Decidable s.tasks.Quiescent)
  | .hub (.run _ _ _) => .isTrue trivial
  | .own event _ _ => inferInstanceAs (Decidable (event.callsHub = true → s.tasks.Quiescent))

section Runs
variable {nodeId : Uuid} {hubConfig : WebSocketConfig}
  {clusterTx : Option (Mpsc (ClusterFrame Value))}

/-- The hub under a session is one whose inserts are never late. -/
structure Timely (encode : ServerMessage Value → Except WsError ByteString) (nodeId : Uuid)
    (hubConfig : WebSocketConfig) (clusterTx : Option (Mpsc (ClusterFrame Value)))
    (tasks : HubTasks Value) : Prop where
  reached : (HubTasks.machine encode nodeId hubConfig clusterTx).ReachableWhere
    HubTasks.InTime tasks
  one : HubTasks.OneAtATime tasks

theorem timely_performed {tasks tasks' : HubTasks Value}
    (timely : Timely encode nodeId hubConfig clusterTx tasks) {name : TaskName} {op : Op Value}
    {ids : List ConnectionId} {topics : List Topic}
    (performed : tasks.perform encode name op ids topics = some tasks')
    (one : HubTasks.OneAtATime tasks') : Timely encode nodeId hubConfig clusterTx tasks' := by
  obtain ⟨r, started, ran, inTime⟩ := HubTasks.perform_inTime performed
  have idle : tasks.InTime (.start name op) := trivial
  exact ⟨(timely.reached.next idle started).next inTime ran, one⟩

theorem timely_step {l : SessionRunLabel Value}
    (timely : Timely encode nodeId hubConfig clusterTx s.tasks) (whole : s.WholeOps l)
    (stepped : step encode parse config ctx s l = some t) :
    Timely encode nodeId hubConfig clusterTx t.tasks := by
  cases step_moves stepped with
  | @started name op tasks _ _ started =>
    have idle : s.tasks.InTime (.start name op) := trivial
    exact ⟨timely.reached.next idle started, HubTasks.oneAtATime_start whole started⟩
  | @ran name ids topics tasks ran =>
    have inTime := timely.one.inTime (.run name ids topics)
    exact ⟨timely.reached.next inTime ran, HubTasks.oneAtATime_run timely.one ran⟩
  | @requested event ids topics op task tasks idle requests performed =>
    refine timely_performed timely performed ?_
    have alone : event.callsHub = true → HubTasks.OneAtATime tasks := by
      intro calls
      obtain ⟨r, started, ran, _⟩ := HubTasks.perform_inTime performed
      exact HubTasks.oneAtATime_run (HubTasks.oneAtATime_start (whole calls) started) ran
    cases requests with
    | register _ | policy _ _ | subscribe _ | unsubscribe _ | publish _ | unregister _ =>
      exact alone rfl
    | outbound _ _ =>
      exact HubTasks.receiver_performed (Or.inl rfl) timely.one idle performed
    | finish _ => exact HubTasks.receiver_performed (Or.inr rfl) timely.one idle performed
  | moved _ _ => exact timely

theorem reachable_timely
    (reach : (machine encode parse config ctx nodeId hubConfig clusterTx).ReachableWhere
      WholeOps s) : Timely encode nodeId hubConfig clusterTx s.tasks := by
  refine Machine.ReachableWhere.invariant
    (I := fun s => Timely encode nodeId hubConfig clusterTx s.tasks) ⟨⟨[], .start⟩, ?_⟩
    (fun _ _ _ timely whole stepped => timely_step timely whole stepped) reach
  constructor
  · exact fun n _ hn => absurd hn Finmap.notMem_empty
  · exact fun _ _ _ lookup => by cases lookup
  · rintro _ _ ⟨_, _, lookup, _⟩
    cases lookup
  · rintro _ _ ⟨_, _, lookup, _⟩
    cases lookup

/-- Nothing is left of the connection, and the place it took is free: a handshake
is refused only where other connections fill the hub. -/
structure CleanedUp (id : ConnectionId) (h : WsHub Value) : Prop where
  absent : id ∉ h.connections
  unmentioned : ¬ h.Mentions id
  place : ∀ fresh userId now e, (h.register fresh userId now).1 = .error e →
    0 < h.config.maxConnections ∧ h.config.maxConnections ≤ (h.connections.keys.erase id).card

theorem cleanedUp {id : ConnectionId} {tasks : HubTasks Value}
    (timely : Timely encode nodeId hubConfig clusterTx tasks) (quiescent : tasks.Quiescent)
    (absent : id ∉ tasks.hub.connections) : CleanedUp id tasks.hub := by
  obtain ⟨topics, users⟩ := HubTasks.quiescent_noIndexLeak timely.reached quiescent
  refine ⟨absent, ?_, ?_⟩
  · rintro (⟨topic, filed⟩ | ⟨u, filed⟩)
    · exact absent (topics topic id filed)
    · exact absent (users u id filed)
  · intro fresh userId now e refused
    have others : tasks.hub.connections.keys.erase id = tasks.hub.connections.keys :=
      Finset.erase_eq_of_notMem (fun listed => absent (Finmap.mem_keys.mp listed))
    have full : tasks.hub.atCapacity := by
      by_contra room
      rw [WsHub.register, if_neg room] at refused
      cases userId <;> cases refused
    rw [others]
    exact full

/-- The connection of the session was in the hub and no longer is. -/
structure Gone (ctx : WsContext) (s : SessionRun Value) : Prop where
  known : ctx.connectionId ∈ s.tasks.hub.channels
  absent : ctx.connectionId ∉ s.tasks.hub.connections

theorem gone_step {l : SessionRunLabel Value} (gone : Gone ctx s)
    (stepped : step encode parse config ctx s l = some t) : Gone ctx t := by
  cases step_moves stepped with
  | started _ _ started =>
    obtain ⟨_, _, rfl⟩ := HubTasks.start_cases started
    exact ⟨gone.known, gone.absent⟩
  | ran ran =>
    obtain ⟨c, rest, h, more, _, done, rfl⟩ := HubTasks.run_cases ran
    have touch := HubTasks.exec_touch done
    exact ⟨touch.channels gone.known, touch.stays_away gone.known gone.absent⟩
  | requested _ _ performed =>
    obtain ⟨c, rest, h, more, _, _, _, done, rfl, _⟩ := HubTasks.perform_cases performed
    have touch := HubTasks.exec_touch done
    exact ⟨touch.channels gone.known, touch.stays_away gone.known gone.absent⟩
  | moved _ _ => exact ⟨gone.known, gone.absent⟩

/-- Whenever `run` returns the hub holds nothing of the connection any more, and
after an eviction no step brings anything of it back. -/
theorem no_cleanup_missed
    (reach : (machine encode parse config ctx nodeId hubConfig clusterTx).ReachableWhere
      WholeOps s) :
    (s.task.stage = .returned → s.tasks.Quiescent → CleanedUp ctx.connectionId s.tasks.hub) ∧
    (Gone ctx s → ∀ ls t,
      ((machine encode parse config ctx nodeId hubConfig clusterTx).startingAt s).Run
        WholeOps ls t →
      ctx.connectionId ∉ t.tasks.hub.connections ∧
        (t.tasks.Quiescent → CleanedUp ctx.connectionId t.tasks.hub)) := by
  constructor
  · intro returned quiescent
    obtain ⟨_, absent⟩ := (reachable_kept reach.reachable).removed (by rw [returned]; rfl)
    exact cleanedUp (reachable_timely reach) quiescent absent
  · intro gone ls t run
    have both := run.history
      (I := fun _ t => Gone ctx t ∧ Timely encode nodeId hubConfig clusterTx t.tasks)
      ⟨gone, reachable_timely reach⟩
      (fun _ _ _ _ holds whole stepped =>
        ⟨gone_step holds.1 stepped, timely_step holds.2 whole stepped⟩)
    exact ⟨both.1.absent, fun quiescent => cleanedUp both.2 quiescent both.1.absent⟩

end Runs

section Evicted

/-- Connection 1 of user 7, on a hub with one place and queues of one frame. -/
def onePlace : Machine (SessionRun Nat) (SessionRunLabel Nat) :=
  machine WsHub.plainFrame (fun topic => .ok (.subscribe topic)) ⟨20, 60⟩ ⟨1, some 7, none⟩ 9
    ⟨1, 0, 1⟩ none

/-- The policy subscribes the connection, and two broadcasts evict it. -/
def evictedSession : List (SessionRunLabel Nat) :=
  [.own (.register 0 0) [] [], .hub (.run (.session 1) [] []), .hub (.run (.session 1) [] []),
    .own (.policy (.subscribe 1 "inbox")) [] [], .hub (.run (.session 1) [] []),
    .own (.onConnect (.ok ())) [] [], .own (.write true) [] []] ++
  [.hub (.start (.other 0) (.broadcast "news" (.ok 1))), .hub (.run (.other 0) [] []),
    .hub (.run (.other 0) [1] []), .hub (.run (.other 0) [] []), .hub (.run (.other 0) [] []),
    .hub (.run (.other 0) [] [])] ++
  [.hub (.start (.other 0) (.broadcast "news" (.ok 2))), .hub (.run (.other 0) [] []),
    .hub (.run (.other 0) [1] []), .hub (.run (.other 0) [] []), .hub (.run (.other 0) [] []),
    .hub (.run (.other 0) [] []), .hub (.run (.other 0) [] ["inbox"]),
    .hub (.run (.other 0) [] []), .hub (.run (.other 0) [] []), .hub (.run (.other 0) [] []),
    .hub (.run (.other 0) [] []), .hub (.run (.other 0) [] [])]

/-- It still asks for a topic, reads its queue to the end, and leaves. -/
def lastFrames : List (SessionRunLabel Nat) :=
  [.own (.inbound (some (.ok (.text "prices"))) 3) [] [], .own (.authorize (.ok ())) [] [],
    .own .call [] [], .own (.write true) [] [], .own .outbound [] [], .own (.write true) [] [],
    .own .outbound [] [], .own .unregister [] [], .own .onDisconnect [] [], .own .close [] [],
    .own .finish [] []]

def wholeOps (s : SessionRun Nat) (l : SessionRunLabel Nat) : Bool := decide (s.WholeOps l)

def evictedState : SessionRun Nat := onePlace.follow wholeOps evictedSession

theorem no_cleanup_missed_evicted :
    ∃ s, CleanedUp 1 s.tasks.hub ∧
      (onePlace.startingAt evictedState).Run WholeOps lastFrames s := by
  have sound : ∀ s l, wholeOps s l = true → s.WholeOps l := fun _ _ => of_decide_eq_true
  have reach : onePlace.ReachableWhere WholeOps evictedState :=
    ⟨evictedSession, Machine.run_follow sound (by decide +kernel)⟩
  have run : (onePlace.startingAt evictedState).Run WholeOps lastFrames
      ((onePlace.startingAt evictedState).follow wholeOps lastFrames) :=
    Machine.run_follow sound (by decide +kernel)
  have gone : Gone ⟨1, some 7, none⟩ evictedState := ⟨by decide +kernel, by decide +kernel⟩
  have kept := (no_cleanup_missed reach).2 gone _ _ run
  exact ⟨_, kept.2 (by decide +kernel), run⟩

end Evicted

end SessionRun
end ApiBoilerplate
