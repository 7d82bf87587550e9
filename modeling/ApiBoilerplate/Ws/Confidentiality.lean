import ApiBoilerplate.Ws.Confinement

/-!
# Topic confidentiality

No run of sessions under the shipped policy brings a frame posted to a user's
topic, or to a user, before anyone else, and no client frame brings a frame
before any other connection: whatever is enqueued was posted by a call of the
server.
-/

namespace ApiBoilerplate

open Foundation
open WsHub (Op)
open AppWsPolicy (userTopic)

/-- The operation posts this frame to this address. -/
def WsHub.Op.Posts {Value : Type} (encode : ServerMessage Value → Except WsError ByteString)
    (addr : Address) (frame : ByteString) : Op Value → Prop
  | .publish topic (.ok value) =>
    addr = .topic topic ∧ WsHub.eventFrame encode topic value = .ok frame
  | .publishToUser userId topic (.ok value) =>
    addr = .user userId ∧ WsHub.eventFrame encode topic value = .ok frame
  | .broadcast topic (.ok value) => addr = .all ∧ WsHub.eventFrame encode topic value = .ok frame
  | .sendTo id topic (.ok value) =>
    addr = .only id ∧ WsHub.eventFrame encode topic value = .ok frame
  | .dispatchClusterFrame relayed =>
    addr = relayed.address ∧ WsHub.eventFrame encode relayed.topic relayed.payload = .ok frame
  | _ => False

def Call.Posts {Value : Type} (encode : ServerMessage Value → Except WsError ByteString)
    (addr : Address) (frame : ByteString) : Call Value → Prop
  | .readAudience addr' topic value =>
    addr = addr' ∧ WsHub.eventFrame encode topic value = .ok frame
  | .deliver addr' frame' _ _ _ => addr = addr' ∧ frame = frame'
  | _ => False

namespace Sessions
variable {Value : Type}

section Source
variable {encode : ServerMessage Value → Except WsError ByteString}
  {parse : String → Except String (ClientMessage Value)} {parseStr : String → Option Uuid}
  {s t : Sessions Value} {ls : List (SessionLabel Value)}

/-- One of the server's own calls posted the frame to the address. -/
def ServerPosted (encode : ServerMessage Value → Except WsError ByteString)
    (ls : List (SessionLabel Value)) (addr : Address) (frame : ByteString) : Prop :=
  ∃ n op, SessionLabel.server n op ∈ ls ∧ op.Posts encode addr frame

/-- Whatever is being delivered, or was, comes from a call of the server. -/
structure Sourced (encode : ServerMessage Value → Except WsError ByteString)
    (ls : List (SessionLabel Value)) (s : Sessions Value) : Prop where
  calls : ∀ name calls c addr frame, s.tasks.pending.lookup name = some calls → c ∈ calls →
    c.Posts encode addr frame → ServerPosted encode ls addr frame
  log : ∀ addr id frame, (addr, id, frame) ∈ s.tasks.log → ServerPosted encode ls addr frame

theorem ServerPosted.later {addr : Address} {frame : ByteString}
    (posted : ServerPosted encode ls addr frame) (l : SessionLabel Value) :
    ServerPosted encode (ls ++ [l]) addr frame := by
  obtain ⟨n, op, listed, posts⟩ := posted
  exact ⟨n, op, List.mem_append_left _ listed, posts⟩

theorem posts_of_calls {op : Op Value} {c : Call Value} (hc : c ∈ op.calls) {addr : Address}
    {frame : ByteString} (posts : c.Posts encode addr frame) : op.Posts encode addr frame := by
  have pair : ∀ scope addr' topic value,
      c ∈ [Call.forwardToCluster scope topic value, .readAudience addr' topic value] →
      addr = addr' ∧ WsHub.eventFrame encode topic value = .ok frame := by
    intro scope addr' topic value hc
    rcases List.mem_cons.mp hc with rfl | hc
    · exact posts.elim
    · obtain rfl := List.mem_singleton.mp hc
      exact posts
  cases op with
  | publish topic payload =>
    cases payload with
    | error e => cases hc
    | ok value => exact pair _ _ _ _ hc
  | publishToUser userId topic payload =>
    cases payload with
    | error e => cases hc
    | ok value => exact pair _ _ _ _ hc
  | broadcast topic payload =>
    cases payload with
    | error e => cases hc
    | ok value => exact pair _ _ _ _ hc
  | sendTo id topic payload =>
    cases payload with
    | error e => cases hc
    | ok value =>
      obtain rfl := List.mem_singleton.mp hc
      exact posts
  | dispatchClusterFrame relayed =>
    obtain rfl := List.mem_singleton.mp hc
    exact posts
  | _ =>
    obtain rfl := List.mem_singleton.mp hc
    exact posts.elim

/-- A call that posts is none of a session's. -/
theorem Lawful.not_posts {owner : Owners} {sessions : FinMap ConnectionId (Session Value)}
    {id : ConnectionId} {c : Call Value} (lawful : Lawful owner sessions (.session id) c)
    {addr : Address} {frame : ByteString} : ¬ c.Posts encode addr frame := by
  intro posts
  cases c with
  | readAudience addr' topic value => exact lawful id rfl
  | deliver addr' frame' ids n slow => exact lawful.1 id rfl
  | _ => exact posts

theorem sourced_start (sourced : Sourced encode ls s) (name : TaskName) (op : Op Value)
    (server : ∀ c ∈ op.calls, ∀ addr frame, c.Posts encode addr frame →
      ServerPosted encode ls addr frame) :
    Sourced encode ls { s with tasks :=
      { s.tasks with pending := HubTasks.setCalls s.tasks.pending name op.calls } } := by
  refine ⟨?_, sourced.log⟩
  intro m calls c addr frame lookup hc posts
  rw [HubTasks.lookup_setCalls] at lookup
  split_ifs at lookup with same empty
  · obtain rfl := Option.some.inj lookup
    exact server c hc addr frame posts
  · exact sourced.calls m calls c addr frame lookup hc posts

theorem sourced_run (sourced : Sourced encode ls s) {name : TaskName} {c : Call Value}
    {rest more : List (Call Value)} {h : WsHub Value} {ids : List ConnectionId}
    {topics : List Topic} (found : s.tasks.pending.lookup name = some (c :: rest))
    (done : HubTasks.exec encode ids topics s.tasks.hub c = some (h, more)) :
    Sourced encode ls { s with tasks :=
      ⟨h, HubTasks.setCalls s.tasks.pending name (more ++ rest),
        HubTasks.owned s.tasks.owner c, s.tasks.log ++ HubTasks.logged s.tasks.hub c⟩ } := by
  have own : ∀ addr frame, c.Posts encode addr frame → ServerPosted encode ls addr frame :=
    fun addr frame => sourced.calls name _ c addr frame found List.mem_cons_self
  constructor
  · intro m calls d addr frame lookup hd posts
    rw [HubTasks.lookup_setCalls] at lookup
    split_ifs at lookup with same empty
    · obtain rfl := Option.some.inj lookup
      rcases List.mem_append.mp hd with put | kept
      · cases HubTasks.exec_puts done put with
        | cleanup harmless => cases d <;> first | exact posts.elim | cases harmless
        | register => exact posts.elim
        | user => exact posts.elim
        | topic => exact posts.elim
        | audience encoded order =>
          obtain ⟨rfl, rfl⟩ := posts
          exact own _ _ ⟨rfl, encoded⟩
        | deliver => exact own _ _ posts
      · exact sourced.calls name _ d addr frame found (List.mem_cons_of_mem _ kept) posts
    · exact sourced.calls m calls d addr frame lookup hd posts
  · intro addr id frame entry
    rcases List.mem_append.mp entry with old | new
    · exact sourced.log addr id frame old
    · obtain ⟨_, _, _, rfl⟩ := HubTasks.mem_logged new
      exact own addr frame ⟨rfl, rfl⟩

theorem sourced_step (confined : Confined s) (sourced : Sourced encode ls s)
    {l : SessionLabel Value}
    (stepped : step encode parse (AppWsPolicy.policy parseStr) s l = some t) :
    Sourced encode (ls ++ [l]) t := by
  have later : Sourced encode (ls ++ [l]) s :=
    ⟨fun name calls c addr frame lookup hc posts =>
      (sourced.calls name calls c addr frame lookup hc posts).later l,
      fun addr id frame entry => (sourced.log addr id frame entry).later l⟩
  have moved : ∀ sessions, Sourced encode (ls ++ [l]) { s with sessions := sessions } :=
    fun _ => ⟨later.calls, later.log⟩
  cases step_move stepped with
  | connect | accepted | rejected | text | outbound | close => exact moved _
  | @next id session op rest tasks found todo started =>
    obtain ⟨_, ops⟩ := confined.todo id session found
    obtain ⟨_, _, rfl⟩ := HubTasks.start_cases started
    have lawful : LawfulOp s.tasks.owner id session op :=
      ops op (by rw [todo]; exact List.mem_cons_self)
    have begun := sourced_start later (.session id) op
      (fun c hc addr frame posts =>
        absurd posts (lawful_session_calls found lawful hc).not_posts)
    exact ⟨begun.calls, begun.log⟩
  | @server n op tasks _ started =>
    obtain ⟨_, _, rfl⟩ := HubTasks.start_cases started
    exact sourced_start later _ op (fun c hc addr frame posts =>
      ⟨n, op, List.mem_append_right _ (List.mem_singleton.mpr rfl), posts_of_calls hc posts⟩)
  | run ran =>
    obtain ⟨c, rest, h, more, found, done, rfl⟩ := HubTasks.run_cases ran
    exact sourced_run later found done

end Source

/-- A connection is filed under the topic, or has it among its own. -/
def Subscribed (s : Sessions Value) (id : ConnectionId) (topic : Topic) : Prop :=
  id ∈ s.tasks.hub.topics.members topic ∨
    ∃ conn, s.tasks.hub.connections.lookup id = some conn ∧ topic ∈ conn.topics

/-- The connection was registered for the user, or for nobody. -/
def RegisteredFor (s : Sessions Value) (id : ConnectionId) (userId : Option Uuid) : Prop :=
  s.tasks.owner.lookup id = some userId

/-- The frame was enqueued to the connection when it was posted to the address. -/
def Enqueued (s : Sessions Value) (addr : Address) (id : ConnectionId) (frame : ByteString) :
    Prop := (addr, id, frame) ∈ s.tasks.log

section Guarantee
variable (encode : ServerMessage Value → Except WsError ByteString)
  (parse : String → Except String (ClientMessage Value)) (parseStr : String → Option Uuid)

structure Confidential (ls : List (SessionLabel Value)) (s : Sessions Value) : Prop where
  /-- Whatever a queue was ever sent has been enqueued under some address. -/
  queues : ∀ id rx, s.tasks.hub.channels.lookup id = some rx →
    ∀ frame, frame ∈ rx.sent ↔ ∃ addr, s.Enqueued addr id frame
  userTopic : ∀ u id, s.Subscribed id (userTopic u) → s.RegisteredFor id (some u)
  userTopicFrames : ∀ u id frame, s.Enqueued (.topic (AppWsPolicy.userTopic u)) id frame →
    s.RegisteredFor id (some u)
  anonymous : ∀ id topic, s.RegisteredFor id none → s.Subscribed id topic →
    AppWsPolicy.startsWith topic AppWsPolicy.publicPrefix = true
  toUser : ∀ u id frame, s.Enqueued (.user u) id frame → s.RegisteredFor id (some u)
  /-- A client frame makes no call by itself, and no call of its session reaches
  another queue, the relay queue or the log. -/
  clientFrames : ∀ id text t,
    step encode parse (AppWsPolicy.policy parseStr) s (.text id text) = some t →
    t.tasks = s.tasks
  sessionCalls : ∀ id ids topics t,
    step encode parse (AppWsPolicy.policy parseStr) s (.run (.session id) ids topics) = some t →
    (∀ k, k ≠ id → t.tasks.hub.channels.lookup k = s.tasks.hub.channels.lookup k) ∧
      t.tasks.hub.clusterTx = s.tasks.hub.clusterTx ∧ t.tasks.log = s.tasks.log
  posted : ∀ addr id frame, s.Enqueued addr id frame → ServerPosted encode ls addr frame

variable {encode parse parseStr} {nodeId : Uuid} {config : WebSocketConfig}
  {clusterTx : Option (Mpsc (ClusterFrame Value))} {ls : List (SessionLabel Value)}
  {s t : Sessions Value}

/-- Only a call of a task touches the hub and the log. -/
theorem step_tasks {policy : WsPolicy Value} {l : SessionLabel Value}
    (stepped : step encode parse policy s l = some t) :
    (t.tasks.hub = s.tasks.hub ∧ t.tasks.log = s.tasks.log) ∨
      ∃ name ids topics, l = .run name ids topics ∧
        s.tasks.step encode (.run name ids topics) = some t.tasks := by
  cases step_move stepped with
  | connect | accepted | rejected | text | outbound | close => exact Or.inl ⟨rfl, rfl⟩
  | next _ _ started | server _ started =>
    obtain ⟨_, _, rfl⟩ := HubTasks.start_cases started
    exact Or.inl ⟨rfl, rfl⟩
  | run ran => exact Or.inr ⟨_, _, _, rfl, ran⟩

theorem logComplete_step {policy : WsPolicy Value} (complete : s.tasks.LogComplete)
    {l : SessionLabel Value} (stepped : step encode parse policy s l = some t) :
    t.tasks.LogComplete := by
  rcases step_tasks stepped with ⟨hub, log⟩ | ⟨name, ids, topics, _, ran⟩
  · exact ⟨by rw [hub, log]; exact complete.sent, by rw [hub, log]; exact complete.opened⟩
  · exact HubTasks.run_logComplete complete ran

theorem run_tracked (roundTrip : ∀ u : Uuid, parseStr u.hyphenated = some u)
    {C : Sessions Value → SessionLabel Value → Prop}
    (run : (machine encode parse (AppWsPolicy.policy parseStr) nodeId config clusterTx).Run C
      ls s) : Confined s ∧ Sourced encode ls s ∧ s.tasks.LogComplete := by
  refine run.history (I := fun ls s => Confined s ∧ Sourced encode ls s ∧ s.tasks.LogComplete)
    ⟨confined_init encode nodeId config clusterTx, ⟨?_, ?_⟩, ⟨?_, ?_⟩⟩ ?_
  · intro name calls c addr frame lookup
    simp [machine, HubTasks.machine] at lookup
  · intro addr id frame entry
    simp [machine, HubTasks.machine] at entry
  · intro k rx lookup
    simp [machine, HubTasks.machine, WsHub.new] at lookup
  · intro addr k frame entry
    simp [machine, HubTasks.machine] at entry
  · rintro ls s l t ⟨confined, sourced, complete⟩ _ stepped
    exact ⟨confined_step roundTrip confined stepped, sourced_step confined sourced stepped,
      logComplete_step complete stepped⟩

theorem session_call_silent (confined : Confined s) {id : ConnectionId} {c : Call Value}
    {rest : List (Call Value)} (found : s.tasks.pending.lookup (.session id) = some (c :: rest)) :
    (∀ k, k ≠ id → c.queue ≠ some k) ∧ c.usesRelay = false ∧
      HubTasks.logged s.tasks.hub c = [] := by
  have lawful := confined.calls _ _ c found List.mem_cons_self
  cases c with
  | connectionsInsert k userId now =>
    obtain rfl := TaskName.session.inj lawful.1
    exact ⟨fun j other same => other (Option.some.inj same).symm, rfl, rfl⟩
  | drain k =>
    obtain rfl := TaskName.session.inj lawful
    exact ⟨fun j other same => other (Option.some.inj same).symm, rfl, rfl⟩
  | dropReceiver k =>
    obtain rfl := TaskName.session.inj lawful
    exact ⟨fun j other same => other (Option.some.inj same).symm, rfl, rfl⟩
  | forwardToCluster scope topic payload => exact absurd rfl (lawful id)
  | readAudience addr topic payload => exact absurd rfl (lawful id)
  | deliver addr frame ids n slow => exact absurd rfl (lawful.1 id)
  | relay => exact absurd rfl (lawful id)
  | _ => exact ⟨fun j _ same => (by cases same), rfl, rfl⟩

theorem subscribed_entitled (confined : Confined s) {id : ConnectionId} {topic : Topic}
    (subscribed : s.Subscribed id topic) : Entitled s.tasks.owner id topic := by
  rcases subscribed with filed | ⟨conn, lookup, listed⟩
  · exact confined.topics topic id filed
  · obtain ⟨owner, permitted⟩ := confined.entries id conn lookup
    exact ⟨conn.userId, owner, permitted topic listed⟩

theorem entitled_userTopic {u : Uuid} {id : ConnectionId}
    (entitled : Entitled s.tasks.owner id (AppWsPolicy.userTopic u)) :
    s.RegisteredFor id (some u) := by
  obtain ⟨userId, owner, permitted⟩ := entitled
  rw [RegisteredFor, owner, permitted.own u rfl]

/-- Whatever the sessions, their frames and the interleaving, topics stay confidential. -/
theorem topic_confidentiality (roundTrip : ∀ u : Uuid, parseStr u.hyphenated = some u)
    (run : (machine encode parse (AppWsPolicy.policy parseStr) nodeId config clusterTx).Run
      (fun _ _ => True) ls s) : Confidential encode parse parseStr ls s := by
  obtain ⟨confined, sourced, complete⟩ := run_tracked roundTrip run
  constructor
  · intro id rx lookup frame
    rw [complete.sent id rx lookup]
    exact HubTasks.mem_framesOf
  · intro u id subscribed
    exact entitled_userTopic (subscribed_entitled confined subscribed)
  · intro u id frame enqueued
    exact entitled_userTopic (confined.log _ id frame enqueued)
  · intro id topic nobody subscribed
    obtain ⟨userId, owner, permitted⟩ := subscribed_entitled confined subscribed
    rw [RegisteredFor, owner] at nobody
    exact permitted.anonymous (Option.some.inj nobody)
  · intro u id frame enqueued
    exact confined.log _ id frame enqueued
  · intro id text t stepped
    cases step_move stepped with
    | text => rfl
  · intro id ids topics t stepped
    obtain ⟨tasks, ran, rfl⟩ := Option.map_eq_some_iff.mp stepped
    obtain ⟨c, rest, h, more, found, done, rfl⟩ := HubTasks.run_cases ran
    obtain ⟨others, relay, silent⟩ := session_call_silent confined found
    refine ⟨fun k other => HubTasks.exec_channels_ne (others k other) done,
      HubTasks.exec_clusterTx relay done, ?_⟩
    change s.tasks.log ++ HubTasks.logged s.tasks.hub c = s.tasks.log
    rw [silent, List.append_nil]
  · intro addr id frame enqueued
    exact sourced.log addr id frame enqueued

end Guarantee

section Eavesdropper

/-- The one frame the anonymous client below sends. -/
def eavesdrop : String :=
  "\x7b\"type\":\"subscribe\",\"topic\":\"user.00000000-0000-0000-0000-000000000007\"\x7d"

def parseEavesdrop (text : String) : Except String (ClientMessage Nat) :=
  if text = eavesdrop then .ok (.subscribe "user.00000000-0000-0000-0000-000000000007")
  else .error "expected value at line 1 column 1"

/-- User 7 connects, an anonymous client asks for the user's topic, and the
server publishes to it. -/
def eavesdropperRun : List (SessionLabel Nat) :=
  [.connect 1 (some 7) none 0, .next 1, .run (.session 1) [] [], .run (.session 1) [] [],
    .run (.session 1) [] [], .onConnect 1, .next 1, .run (.session 1) [] [],
    .run (.session 1) [] [], .connect 2 none none 0, .next 2, .run (.session 2) [] [],
    .run (.session 2) [] [], .onConnect 2, .text 2 eavesdrop,
    .server 0 (.publish (userTopic 7) (.ok 3)), .run (.other 0) [] [], .run (.other 0) [1] [],
    .run (.other 0) [] []]

theorem topic_confidentiality_eavesdropper :
    ∃ s, Confidential WsHub.plainFrame parseEavesdrop Uuid.ofHyphenated eavesdropperRun s ∧
      s.Enqueued (.topic (userTopic 7)) 1 (userTopic 7 ++ "!!!") ∧
        ¬ s.Subscribed 2 (userTopic 7) := by
  obtain ⟨s, run, logged⟩ := Machine.exists_run
    (M := machine WsHub.plainFrame parseEavesdrop (AppWsPolicy.policy Uuid.ofHyphenated) 0
      ⟨10, 10, 10⟩ none)
    (p := fun s => decide ((.topic (userTopic 7), 1, userTopic 7 ++ "!!!") ∈ s.tasks.log ∧
      s.tasks.owner.lookup 2 = some none))
    eavesdropperRun (by decide)
  obtain ⟨enqueued, nobody⟩ := of_decide_eq_true logged
  have confidential := topic_confidentiality Uuid.ofHyphenated_hyphenated run
  refine ⟨s, confidential, enqueued, fun subscribed => ?_⟩
  have owner := confidential.userTopic 7 2 subscribed
  rw [RegisteredFor, nobody] at owner
  cases owner

end Eavesdropper

end Sessions
end ApiBoilerplate
