import ApiBoilerplate.Ws.SessionTeardown

/-!
# Events on one socket

What a session forwards is, frame by frame, what the hub queued for its
connection. A frame posted to a topic can be in that queue only if the
connection was filed under the topic, and a session has it filed only in the
operation whose response it writes next, or while the policy prepares it.
-/

namespace ApiBoilerplate

open Foundation
open WsHub (Op)

/-- The frame is the event frame of some payload; posted to a topic, the topic
it names is that one. -/
def IsEvent {Value : Type} (encode : ServerMessage Value → Except WsError ByteString)
    (addr : Address) (frame : ByteString) : Prop :=
  ∃ topic payload, encode (.event topic payload) = .ok frame ∧ ∀ t, addr = .topic t → topic = t

/-- What a call may do to one connection, if its topics are to satisfy `K`. -/
def Call.Grounds {Value : Type} (encode : ServerMessage Value → Except WsError ByteString)
    (K : Topic → Prop) (id : ConnectionId) : Call Value → Prop
  | .subscribeConnection k t => k = id → K t
  | .topicsInsert t k => k = id → K t
  | .readAudience addr topic _ => ∀ t, addr = .topic t → topic = t
  | .deliver addr frame ids _ _ =>
    id ∈ ids → IsEvent encode addr frame ∧ ∀ t, addr = .topic t → K t
  | _ => True

namespace HubTasks
variable {Value : Type} {encode : ServerMessage Value → Except WsError ByteString}
  {K : Topic → Prop} {id : ConnectionId} {s t : HubTasks Value}

/-- What was queued for a connection, with the address it was posted to. -/
def postings (log : List (Address × ConnectionId × ByteString)) (id : ConnectionId) :
    List (Address × ByteString) :=
  (log.filter (fun entry => entry.2.1 = id)).map (fun entry => (entry.1, entry.2.2))

theorem postings_append (log more : List (Address × ConnectionId × ByteString)) :
    postings (log ++ more) id = postings log id ++ postings more id := by
  simp [postings]

theorem postings_frames (log : List (Address × ConnectionId × ByteString)) :
    (postings log id).map Prod.snd = framesOf log id := by
  simp [postings, framesOf, Function.comp_def]

theorem mem_postings {log : List (Address × ConnectionId × ByteString)} {addr : Address}
    {frame : ByteString} (listed : (addr, frame) ∈ postings log id) : (addr, id, frame) ∈ log := by
  obtain ⟨⟨addr', k, frame'⟩, kept, same⟩ := List.mem_map.mp listed
  obtain ⟨entry, own⟩ := List.mem_filter.mp kept
  obtain rfl : k = id := by simpa using own
  cases same
  exact entry

/-- All topics a connection has to do with satisfy `K`. -/
structure Grounded (encode : ServerMessage Value → Except WsError ByteString)
    (K : Topic → Prop) (id : ConnectionId) (s : HubTasks Value) : Prop where
  topics : ∀ conn, s.hub.connections.lookup id = some conn → ∀ t ∈ conn.topics, K t
  members : ∀ t, id ∈ s.hub.topics.members t → K t
  calls : ∀ c, s.Awaits c → c.Grounds encode K id
  log : ∀ addr frame, (addr, id, frame) ∈ s.log →
    IsEvent encode addr frame ∧ ∀ t, addr = .topic t → K t

theorem Grounds.mono {K' : Topic → Prop} (weaker : ∀ t, K t → K' t) {c : Call Value}
    (grounds : c.Grounds encode K id) : c.Grounds encode K' id := by
  cases c with
  | subscribeConnection k t => exact fun own => weaker t (grounds own)
  | topicsInsert t k => exact fun own => weaker t (grounds own)
  | deliver addr frame ids n slow =>
    intro listed
    obtain ⟨event, topics⟩ := grounds listed
    exact ⟨event, fun t posted => weaker t (topics t posted)⟩
  | _ => exact grounds

theorem Grounded.mono {K' : Topic → Prop} (weaker : ∀ t, K t → K' t)
    (grounded : Grounded encode K id s) : Grounded encode K' id s where
  topics conn lookup t listed := weaker t (grounded.topics conn lookup t listed)
  members t filed := weaker t (grounded.members t filed)
  calls c awaited := Grounds.mono weaker (grounded.calls c awaited)
  log addr frame entry :=
    ⟨(grounded.log addr frame entry).1,
      fun t posted => weaker t ((grounded.log addr frame entry).2 t posted)⟩

/-- The operations of everyone else, and those of the session that subscribe to
nothing. -/
theorem grounds_calls {op : Op Value} {c : Call Value} (hc : c ∈ op.calls)
    (subscribes : ∀ t, op = .subscribe id t → K t) : c.Grounds encode K id := by
  cases op with
  | subscribe k t =>
    obtain rfl := List.mem_singleton.mp hc
    rintro rfl
    exact subscribes t rfl
  | publish topic payload =>
    cases payload with
    | error e => cases hc
    | ok value =>
      rcases List.mem_pair.mp hc with rfl | rfl
      · trivial
      · rintro t ⟨⟩
        rfl
  | publishToUser u topic payload | broadcast topic payload =>
    cases payload with
    | error e => cases hc
    | ok value =>
      rcases List.mem_pair.mp hc with rfl | rfl
      · trivial
      · rintro t ⟨⟩
  | sendTo k topic payload =>
    cases payload with
    | error e => cases hc
    | ok value =>
      obtain rfl := List.mem_singleton.mp hc
      rintro t ⟨⟩
  | dispatchClusterFrame frame =>
    obtain rfl := List.mem_singleton.mp hc
    intro t posted
    rw [ClusterFrame.address] at posted
    split at posted <;> cases posted
    rfl
  | register | unregister | unsubscribe | drain | dropReceiver | relay =>
    obtain rfl := List.mem_singleton.mp hc
    trivial

/-- A step that leaves the connection and the log alone. -/
theorem Grounded.still (grounded : Grounded encode K id s)
    (connections : t.hub.connections = s.hub.connections) (topics : t.hub.topics = s.hub.topics)
    (log : t.log = s.log) (awaits : ∀ d, t.Awaits d → d.Grounds encode K id) :
    Grounded encode K id t := by
  constructor
  · rw [connections]
    exact grounded.topics
  · rw [topics]
    exact grounded.members
  · exact awaits
  · rw [log]
    exact grounded.log

/-- One call keeps the topics of a connection grounded, if it is grounded itself. -/
theorem Grounded.exec (grounded : Grounded encode K id s) {ids : List ConnectionId}
    {topics : List Topic} {h : WsHub Value} {c : Call Value} {more : List (Call Value)}
    (own : c.Grounds encode K id) (done : exec encode ids topics s.hub c = some (h, more))
    (hub : t.hub = h) (log : t.log = s.log ++ logged s.hub c)
    (awaits : ∀ d, t.Awaits d → d ∈ more ∨ d.Grounds encode K id) : Grounded encode K id t := by
  have touch := exec_touch done
  subst hub
  constructor
  · intro conn' lookup topic listed
    rcases touch.gains lookup with ⟨_, _, empty⟩ | ⟨conn, before, _, gained⟩
    · rw [empty] at listed
      cases listed
    · rcases gained topic listed with old | rfl
      · exact grounded.topics conn before topic old
      · exact own rfl
  · intro topic filed
    rcases touch.topics filed with ⟨before, _⟩ | rfl
    · exact grounded.members topic before
    · exact own rfl
  · intro d awaited
    rcases awaits d awaited with put | grounds
    · cases exec_puts done put with
      | cleanup harmless => cases d <;> trivial
      | register | user => trivial
      | topic => exact own
      | @audience addr topic payload frame order encoded enumerates =>
        intro listed
        refine ⟨⟨topic, payload, encoded, own⟩, ?_⟩
        rintro t rfl
        have filed : id ∈ s.hub.audience (.topic t) := by
          rw [← enumerates.2]
          exact List.mem_toFinset.mpr listed
        exact grounded.members t filed
      | deliver => exact fun listed => own (List.mem_cons_of_mem _ listed)
    · exact grounds
  · intro addr frame entry
    rw [log] at entry
    rcases List.mem_append.mp entry with old | new
    · exact grounded.log addr frame old
    · obtain ⟨rest, n, slow, rfl⟩ := mem_logged new
      exact own List.mem_cons_self

end HubTasks

namespace WsHub
variable {Value : Type}

/-- The frames taken off the queue of a connection so far. -/
def takenBy (h : WsHub Value) (id : ConnectionId) : List ByteString :=
  ((h.channels.lookup id).map Mpsc.taken).getD []

end WsHub

namespace HubTasks
variable {Value : Type} {encode : ServerMessage Value → Except WsError ByteString}
  {id : ConnectionId}

theorem exec_taken {ids : List ConnectionId} {topics : List Topic} {h h' : WsHub Value}
    {c : Call Value} {more : List (Call Value)} (other : c ≠ .drain id)
    (done : exec encode ids topics h c = some (h', more)) : h'.takenBy id = h.takenBy id := by
  by_cases moved : c.queue = some id
  · cases exec_made done with
    | registered fresh | registeredFor fresh =>
      obtain rfl := Option.some.inj moved
      simp [WsHub.takenBy, WsHub.connectionsInsert, Finmap.lookup_eq_none.mpr fresh, Mpsc.channel]
    | delivered sent =>
      obtain rfl := Option.some.inj moved
      obtain ⟨rx, found, accepted⟩ := WsHub.attempt_ok sent
      obtain ⟨room, rfl⟩ := Mpsc.trySend_ok accepted
      simp [WsHub.takenBy, found, Mpsc.push]
    | passed _ => rfl
    | drained _ _ =>
      obtain rfl := Option.some.inj moved
      exact absurd rfl other
    | dropped found =>
      obtain rfl := Option.some.inj moved
      simp [WsHub.takenBy, found, Mpsc.dropReceiver]
    | _ => cases moved
  · rw [WsHub.takenBy, WsHub.takenBy, exec_channels_ne moved done]

/-- Taking a frame off a queue is never left to a later call. -/
theorem drain_not_put {ids : List ConnectionId} {topics : List Topic} {h h' : WsHub Value}
    {c : Call Value} {more : List (Call Value)}
    (done : exec encode ids topics h c = some (h', more)) : .drain id ∉ more := by
  intro put
  cases exec_puts done put with
  | cleanup harmless => cases harmless

theorem drain_taken {ids : List ConnectionId} {topics : List Topic} {h h' : WsHub Value}
    {more : List (Call Value)} {frame : ByteString}
    (queued : SessionTask.nextFrame h id = some frame)
    (done : exec encode ids topics h (.drain id) = some (h', more)) :
    h'.takenBy id = h.takenBy id ++ [frame] := by
  cases exec_made done with
  | @drained _ rx rx' a found received =>
    obtain ⟨queue, taken, _, _⟩ := Mpsc.recv_some received
    have first : a = frame := by
      simpa [SessionTask.nextFrame, found, queue] using queued
    simp [WsHub.takenBy, found, taken, first]

end HubTasks

def Sent.frame {Value : Type} : Sent Value → Option ByteString
  | .own _ => none
  | .forwarded frame => some frame

def Stage.response {Value : Type} : Stage Value → Option (ServerMessage Value)
  | .responding _ response => some response
  | _ => none

namespace SessionRun
variable {Value : Type} {config : SessionConfig} {ctx : WsContext}
  {encode : ServerMessage Value → Except WsError ByteString}
  {parse : String → Except String (ClientMessage Value)} {s t : SessionRun Value}

/-- The frames off the queue among the frames written. -/
def forwardedOf (sent : List (Sent Value)) : List ByteString := sent.filterMap Sent.frame

/-- The frame taken off the queue and not written yet. -/
def inHand : Stage Value → List ByteString
  | .forwarding frame => [frame]
  | _ => []

/-- The topic the policy subscribes the connection to by itself. -/
def ownTopic (ctx : WsContext) : Option Topic := ctx.userId.map AppWsPolicy.userTopic

/-- The client has been told that it is subscribed, or is told next. -/
def Known (ctx : WsContext) (task : SessionTask Value) (topic : Topic) : Prop :=
  ownTopic ctx = some topic ∨ .own (.subscribed topic) ∈ task.sent ∨
    task.stage.response = some (.subscribed topic)

theorem Known.mono {task task' : SessionTask Value} (sent : ∀ f ∈ task.sent, f ∈ task'.sent)
    (told : ∀ topic, task.stage.response = some (.subscribed topic) →
      .own (.subscribed topic) ∈ task'.sent ∨ task'.stage.response = some (.subscribed topic))
    (topic : Topic) (known : Known ctx task topic) : Known ctx task' topic := by
  rcases known with own | written | next
  · exact Or.inl own
  · exact Or.inr (Or.inl (sent _ written))
  · exact Or.inr (told topic next)

/-- Each frame forwarded is the next one posted to the connection; posted to a
topic other than its own, it comes after a `subscribed` frame for that topic. -/
def EventsInOrder (encode : ServerMessage Value → Except WsError ByteString) (ctx : WsContext)
    (log : List (Address × ConnectionId × ByteString)) (sent : List (Sent Value)) : Prop :=
  ∀ before frame after, sent = before ++ .forwarded frame :: after →
    ∃ addr, (HubTasks.postings log ctx.connectionId)[(forwardedOf before).length]? =
        some (addr, frame) ∧
      IsEvent encode addr frame ∧
      ∀ topic, addr = .topic topic → ownTopic ctx ≠ some topic →
        .own (.subscribed topic) ∈ before

theorem EventsInOrder.grow {log : List (Address × ConnectionId × ByteString)}
    {sent : List (Sent Value)} (ordered : EventsInOrder encode ctx log sent)
    (more : List (Address × ConnectionId × ByteString)) :
    EventsInOrder encode ctx (log ++ more) sent := by
  intro before frame after split
  obtain ⟨addr, posted, rest⟩ := ordered before frame after split
  refine ⟨addr, ?_, rest⟩
  obtain ⟨inside, _⟩ := List.getElem?_eq_some_iff.mp posted
  rw [HubTasks.postings_append, List.getElem?_append_left inside, posted]

theorem EventsInOrder.own {log : List (Address × ConnectionId × ByteString)}
    {sent : List (Sent Value)} (ordered : EventsInOrder encode ctx log sent)
    (message : ServerMessage Value) : EventsInOrder encode ctx log (sent ++ [.own message]) := by
  intro before frame after split
  rcases Machine.split_last split with ⟨same, _⟩ | ⟨rest, earlier, _⟩
  · cases same
  · exact ordered before frame rest earlier

theorem EventsInOrder.forwarded {log : List (Address × ConnectionId × ByteString)}
    {sent : List (Sent Value)} (ordered : EventsInOrder encode ctx log sent)
    {addr : Address} {frame : ByteString}
    (posted : (HubTasks.postings log ctx.connectionId)[(forwardedOf sent).length]? =
      some (addr, frame))
    (event : IsEvent encode addr frame)
    (told : ∀ topic, addr = .topic topic → ownTopic ctx ≠ some topic →
      .own (.subscribed topic) ∈ sent) :
    EventsInOrder encode ctx log (sent ++ [.forwarded frame]) := by
  intro before frame' after split
  rcases Machine.split_last split with ⟨same, rfl⟩ | ⟨rest, earlier, _⟩
  · cases same
    exact ⟨addr, posted, event, told⟩
  · exact ordered before frame' rest earlier

/-- What the policy answers where the session awaits it. -/
def policyVerdict (policy : WsPolicy Value) (ctx : WsContext) :
    Stage Value → Option (Except String Unit)
  | .connecting => some (policy.onConnect ctx).2
  | .authorizing _ (.subscribe topic) => some (policy.authorizeSubscribe ctx topic)
  | .authorizing _ (.publish topic payload) => some (policy.authorizePublish ctx topic payload)
  | _ => none

def Stage.isConnecting : Stage Value → Bool
  | .connecting => true
  | _ => false

/-- The policy decides, and calls the hub only to prepare the connection; every
write succeeds. -/
def Ordinary (policy : WsPolicy Value) (ctx : WsContext) (s : SessionRun Value) :
    SessionRunLabel Value → Prop
  | .own (.policy op) _ _ =>
    Stage.isConnecting s.task.stage = true ∧ op ∈ (policy.onConnect ctx).1
  | .own (.onConnect verdict) _ _ => policyVerdict policy ctx s.task.stage = some verdict
  | .own (.authorize verdict) _ _ => policyVerdict policy ctx s.task.stage = some verdict
  | .own (.write ok) _ _ => ok = true
  | _ => True

def ServerMessage.isEvent : ServerMessage Value → Bool
  | .event _ _ => true
  | _ => false

/-- What the server itself answers can be written as JSON. -/
def Encodes (encode : ServerMessage Value → Except WsError ByteString) : Prop :=
  ∀ message : ServerMessage Value, ServerMessage.isEvent message = false →
    ∃ frame, encode message = .ok frame

theorem appPolicy_op {parseStr : String → Option Uuid} {op : Op Value}
    (made : op ∈ ((AppWsPolicy.policy parseStr).onConnect ctx).1) :
    ∃ topic, op = .subscribe ctx.connectionId topic ∧ ownTopic ctx = some topic := by
  simp only [AppWsPolicy.policy, AppWsPolicy.onConnect] at made
  cases user : ctx.userId with
  | none =>
    rw [user] at made
    cases made
  | some u =>
    rw [user] at made
    exact ⟨AppWsPolicy.userTopic u, List.mem_singleton.mp made, by rw [ownTopic, user]; rfl⟩

/-- What the session has forwarded against what the hub has queued. -/
structure Wired (encode : ServerMessage Value → Except WsError ByteString) (ctx : WsContext)
    (s : SessionRun Value) : Prop where
  grounded : HubTasks.Grounded encode (Known ctx s.task) ctx.connectionId s.tasks
  complete : s.tasks.LogComplete
  undrained : ¬ s.tasks.Awaits (.drain ctx.connectionId)
  taken : s.tasks.hub.takenBy ctx.connectionId = forwardedOf s.task.sent ++ inHand s.task.stage
  events : EventsInOrder encode ctx s.tasks.log s.task.sent

theorem wired_init (nodeId : Uuid) (hubConfig : WebSocketConfig)
    (clusterTx : Option (Mpsc (ClusterFrame Value))) :
    Wired encode ctx (machine encode parse config ctx nodeId hubConfig clusterTx).init where
  grounded :=
    { topics := fun conn lookup => by cases lookup
      members := fun topic filed => by
        simp [machine, HubTasks.machine, WsHub.new] at filed
      calls := fun c ⟨name, calls, lookup, _⟩ => by cases lookup
      log := fun addr frame entry => by cases entry }
  complete :=
    { sent := fun k rx lookup => by cases lookup
      opened := fun addr k frame entry => by cases entry }
  undrained := fun ⟨name, calls, lookup, _⟩ => by cases lookup
  taken := rfl
  events := fun before frame after split => by
    have lengths := congrArg List.length split
    simp [machine] at lengths

theorem drain_started {op : Op Value} {id : ConnectionId} (listed : .drain id ∈ op.calls) :
    op = .drain id := by
  cases op with
  | publish topic payload | publishToUser u topic payload | broadcast topic payload
  | sendTo k topic payload => cases payload <;> simp [WsHub.Op.calls] at listed
  | drain k =>
    cases List.mem_singleton.mp listed
    rfl
  | _ => simp [WsHub.Op.calls] at listed

theorem wired_started (wired : Wired encode ctx s) {name : TaskName} {op : Op Value}
    {tasks : HubTasks Value} (other : name ≠ .session ctx.connectionId)
    (leaves : op.leaves ctx.connectionId = true)
    (started : s.tasks.step encode (.start name op) = some tasks) :
    Wired encode ctx ⟨tasks, s.task⟩ := by
  obtain ⟨_, allowed, rfl⟩ := HubTasks.start_cases started
  have awaits : ∀ d, HubTasks.Awaits { s.tasks with
      pending := HubTasks.setCalls s.tasks.pending name op.calls } d →
      d ∈ op.calls ∨ s.tasks.Awaits d := by
    rintro d ⟨m, calls, lookup, hd⟩
    rw [HubTasks.lookup_setCalls] at lookup
    split_ifs at lookup with same empty
    · obtain rfl := Option.some.inj lookup
      exact Or.inl hd
    · exact Or.inr ⟨m, calls, lookup, hd⟩
  refine ⟨wired.grounded.still rfl rfl rfl ?_, ⟨wired.complete.sent, wired.complete.opened⟩,
    ?_, wired.taken, wired.events⟩
  · intro d awaited
    rcases awaits d awaited with new | old
    · refine HubTasks.grounds_calls new ?_
      rintro topic rfl
      exact absurd allowed other
    · exact wired.grounded.calls d old
  · intro awaited
    rcases awaits _ awaited with new | old
    · rw [drain_started new] at leaves
      simp [WsHub.Op.leaves] at leaves
    · exact wired.undrained old

theorem wired_ran (wired : Wired encode ctx s) {name : TaskName} {ids : List ConnectionId}
    {topics : List Topic} {tasks : HubTasks Value}
    (ran : s.tasks.step encode (.run name ids topics) = some tasks) :
    Wired encode ctx ⟨tasks, s.task⟩ := by
  have complete := HubTasks.run_logComplete wired.complete ran
  obtain ⟨c, rest, h, more, found, done, rfl⟩ := HubTasks.run_cases ran
  have own := wired.grounded.calls c ⟨name, _, found, List.mem_cons_self⟩
  refine ⟨wired.grounded.exec own done rfl rfl ?_, complete, ?_, ?_, wired.events.grow _⟩
  · rintro d ⟨m, calls, lookup, hd⟩
    exact (HubTasks.awaits_after found lookup hd).imp_right (wired.grounded.calls d)
  · rintro ⟨m, calls, lookup, hd⟩
    rcases HubTasks.awaits_after found lookup hd with put | old
    · exact HubTasks.drain_not_put done put
    · exact wired.undrained old
  · have other : c ≠ .drain ctx.connectionId := by
      rintro rfl
      exact wired.undrained ⟨name, _, found, List.mem_cons_self⟩
    exact (HubTasks.exec_taken other done).trans wired.taken

theorem performed_logComplete {tasks tasks' : HubTasks Value} (complete : tasks.LogComplete)
    {name : TaskName} {op : Op Value} {ids : List ConnectionId} {topics : List Topic}
    (performed : tasks.perform encode name op ids topics = some tasks') :
    tasks'.LogComplete := by
  obtain ⟨r, started, ran⟩ := Option.bind_eq_some_iff.mp performed
  obtain ⟨_, _, rfl⟩ := HubTasks.start_cases started
  have still : HubTasks.LogComplete
      { tasks with pending := HubTasks.setCalls tasks.pending name op.calls } :=
    ⟨complete.sent, complete.opened⟩
  exact HubTasks.run_logComplete still ran

/-- An operation of the session that takes nothing off its queue. -/
theorem wired_performed (wired : Wired encode ctx s) {op : Op Value} {ids : List ConnectionId}
    {topics : List Topic} {task : SessionTask Value} {tasks : HubTasks Value}
    (performed : s.tasks.perform encode (.session ctx.connectionId) op ids topics = some tasks)
    (known : ∀ topic, Known ctx s.task topic → Known ctx task topic)
    (subscribes : ∀ topic, op = .subscribe ctx.connectionId topic → Known ctx task topic)
    (stays : op ≠ .drain ctx.connectionId) (sent : task.sent = s.task.sent)
    (hand : inHand task.stage = inHand s.task.stage) : Wired encode ctx ⟨tasks, task⟩ := by
  have complete := performed_logComplete wired.complete performed
  obtain ⟨c, rest, h, more, pending, calls, _, done, rfl, waiting⟩ :=
    HubTasks.perform_cases performed
  have grounds : ∀ d ∈ c :: rest, d.Grounds encode (Known ctx task) ctx.connectionId := by
    intro d hd
    rw [← calls] at hd
    exact HubTasks.grounds_calls hd subscribes
  have undrained : .drain ctx.connectionId ∉ c :: rest := by
    intro listed
    rw [← calls] at listed
    exact stays (drain_started listed)
  refine ⟨?_, complete, ?_, ?_, ?_⟩
  · refine (wired.grounded.mono known).exec (grounds c List.mem_cons_self) done rfl rfl ?_
    intro d awaited
    rcases HubTasks.awaits_performed waiting awaited with put | later | old
    · exact Or.inl put
    · exact Or.inr (grounds d (List.mem_cons_of_mem _ later))
    · exact Or.inr (HubTasks.Grounds.mono known (wired.grounded.calls d old))
  · intro awaited
    rcases HubTasks.awaits_performed waiting awaited with put | later | old
    · exact HubTasks.drain_not_put done put
    · exact undrained (List.mem_cons_of_mem _ later)
    · exact wired.undrained old
  · have other : c ≠ .drain ctx.connectionId := by
      rintro rfl
      exact undrained List.mem_cons_self
    rw [HubTasks.exec_taken other done, wired.taken, sent, hand]
  · rw [sent]
    exact wired.events.grow _

/-- The outbound branch takes the next frame. -/
theorem wired_drained (wired : Wired encode ctx s) {ids : List ConnectionId}
    {topics : List Topic} {frame : ByteString} {tasks : HubTasks Value}
    (performed : s.tasks.perform encode (.session ctx.connectionId) (.drain ctx.connectionId)
      ids topics = some tasks)
    (selecting : s.task.stage = .selecting)
    (queued : SessionTask.nextFrame s.tasks.hub ctx.connectionId = some frame) :
    Wired encode ctx ⟨tasks, { s.task with stage := .forwarding frame }⟩ := by
  have complete := performed_logComplete wired.complete performed
  obtain ⟨c, rest, h, more, pending, calls, _, done, rfl, waiting⟩ :=
    HubTasks.perform_cases performed
  cases calls
  have known : ∀ topic, Known ctx s.task topic →
      Known ctx { s.task with stage := .forwarding frame } topic := by
    refine Known.mono (fun _ written => written) (fun topic next => ?_)
    rw [selecting] at next
    cases next
  refine ⟨?_, complete, ?_, ?_, wired.events.grow _⟩
  · refine (wired.grounded.mono known).exec (c := .drain ctx.connectionId) trivial done rfl rfl ?_
    intro d awaited
    rcases HubTasks.awaits_performed waiting awaited with put | ⟨⟨⟩⟩ | old
    · exact Or.inl put
    · exact Or.inr (HubTasks.Grounds.mono known (wired.grounded.calls d old))
  · intro awaited
    rcases HubTasks.awaits_performed waiting awaited with put | ⟨⟨⟩⟩ | old
    · exact HubTasks.drain_not_put done put
    · exact wired.undrained old
  · rw [HubTasks.drain_taken queued done, wired.taken, selecting]
    simp [inHand]

/-- A subscription the hub refuses changes nothing. -/
theorem refused_performed {tasks tasks' : HubTasks Value} {id : ConnectionId} {topic : Topic}
    {ids : List ConnectionId} {topics : List Topic} {e : WsError}
    (refused : tasks.hub.subscribeConnection id topic = .error e)
    (idle : .session id ∉ tasks.pending)
    (performed : tasks.perform encode (.session id) (.subscribe id topic) ids topics =
      some tasks') :
    tasks'.hub = tasks.hub ∧ tasks'.log = tasks.log ∧
      ∀ m, tasks'.pending.lookup m = tasks.pending.lookup m := by
  obtain ⟨c, rest, h, more, pending, calls, _, done, rfl, waiting⟩ :=
    HubTasks.perform_cases performed
  cases calls
  simp only [HubTasks.exec, refused] at done
  cases done
  refine ⟨rfl, List.append_nil _, fun m => ?_⟩
  change pending.lookup m = _
  rw [waiting]
  split_ifs with same empty
  · rw [same]
    exact (Finmap.lookup_eq_none.mpr idle).symm
  · exact absurd rfl empty
  · rfl

theorem wired_requested {parseStr : String → Option Uuid} (wired : Wired encode ctx s)
    {event : SessionEvent Value} {op : Op Value} {ids : List ConnectionId} {topics : List Topic}
    {task : SessionTask Value} {tasks : HubTasks Value}
    (ordinary : Ordinary (AppWsPolicy.policy parseStr) ctx s (.own event ids topics))
    (idle : .session ctx.connectionId ∉ s.tasks.pending)
    (requests : s.task.Requests ctx s.tasks.hub event op task)
    (performed : s.tasks.perform encode (.session ctx.connectionId) op ids topics = some tasks) :
    Wired encode ctx ⟨tasks, task⟩ := by
  have quiet : ∀ {stage : Stage Value} {instant : Nat}, s.task.stage.response = none →
      ∀ topic, Known ctx s.task topic → Known ctx ⟨stage, instant, s.task.sent⟩ topic := by
    intro stage instant silent
    refine Known.mono (fun _ written => written) (fun topic next => ?_)
    rw [silent] at next
    cases next
  cases requests with
  | register here =>
    refine wired_performed wired performed (quiet (by rw [here]; rfl)) (by simp) (by simp) rfl ?_
    rw [here]
    dsimp only
    split <;> rfl
  | policy awaits leaves =>
    obtain ⟨topic, rfl, own⟩ := appPolicy_op ordinary.2
    refine wired_performed wired performed (fun _ known => known) ?_ (by simp) rfl rfl
    rintro _ ⟨⟩
    exact Or.inl own
  | outbound here queued => exact wired_drained wired performed here queued
  | @subscribe text topic here =>
    have known : ∀ t, Known ctx s.task t → Known ctx
        { s.task with stage := .responding (.text text) (SessionTask.subscribeResponse topic
          (s.tasks.hub.subscribeConnection ctx.connectionId topic)) } t :=
      quiet (by rw [here]; rfl)
    cases answer : s.tasks.hub.subscribeConnection ctx.connectionId topic with
    | ok held =>
      rw [answer] at known
      refine wired_performed wired performed known ?_ (by simp) rfl (by rw [here]; rfl)
      rintro _ ⟨⟩
      exact Or.inr (Or.inr rfl)
    | error e =>
      rw [answer] at known
      obtain ⟨hub, log, pending⟩ := refused_performed answer idle performed
      have awaits : ∀ d, tasks.Awaits d → s.tasks.Awaits d := by
        rintro d ⟨m, calls, lookup, hd⟩
        exact ⟨m, calls, (pending m).symm.trans lookup, hd⟩
      refine ⟨(wired.grounded.mono known).still (by rw [hub]) (by rw [hub]) log ?_,
        performed_logComplete wired.complete performed,
        fun awaited => wired.undrained (awaits _ awaited), ?_, ?_⟩
      · exact fun d awaited =>
          HubTasks.Grounds.mono known (wired.grounded.calls d (awaits d awaited))
      · change tasks.hub.takenBy _ = _
        rw [hub, wired.taken, here]
        rfl
      · change EventsInOrder encode ctx tasks.log _
        rw [log]
        exact wired.events
  | unsubscribe here | publish here =>
    exact wired_performed wired performed (quiet (by rw [here]; rfl)) (by simp) (by simp) rfl
      (by rw [here]; rfl)
  | @unregister stage leaves =>
    have stages : s.task.stage.response = none ∧ inHand s.task.stage = [] ∧ inHand stage = [] := by
      cases before : s.task.stage <;> rw [before] at leaves <;> cases leaves <;>
        exact ⟨rfl, rfl, rfl⟩
    exact wired_performed wired performed (quiet stages.1) (by simp) (by simp) rfl
      (stages.2.2.trans stages.2.1.symm)
  | finish here =>
    exact wired_performed wired performed (quiet (by rw [here]; rfl)) (by simp) (by simp) rfl
      (by rw [here]; rfl)

theorem send_ok {message : ServerMessage Value} {frame : ByteString}
    (encoded : encode message = .ok frame) :
    SessionTask.send encode message true = (true, [.own message]) := by
  simp [SessionTask.send, encoded]

/-- A write that succeeds: what was written, and the session selects again. -/
inductive Writes (config : SessionConfig) (ctx : WsContext)
    (encode : ServerMessage Value → Except WsError ByteString) :
    Stage Value → List (Sent Value) → Prop where
  | welcome : Writes config ctx encode .welcoming [.own (SessionTask.welcome config ctx)]
  | event {frame : ByteString} :
      Writes config ctx encode (.forwarding frame) [.forwarded frame]
  | response {request : AggregatedMessage} {response : ServerMessage Value} {frame : ByteString} :
      encode response = .ok frame →
      Writes config ctx encode (.responding request response) [.own response]
  | lost {request : AggregatedMessage} {response : ServerMessage Value} {e : WsError} :
      encode response = .error e → Writes config ctx encode (.responding request response) []
  | pong {bytes : List UInt8} : Writes config ctx encode (.ponging bytes) []
  | ping : Writes config ctx encode .pinging []

theorem written_writes (encodes : Encodes encode) {before after : Stage Value}
    {out : List (Sent Value)}
    (done : SessionTask.written config ctx encode true before = some (after, out)) :
    after = .selecting ∧ Writes config ctx encode before out := by
  cases before with
  | welcoming =>
    obtain ⟨frame, encoded⟩ := encodes (SessionTask.welcome config ctx) rfl
    simp only [SessionTask.written, send_ok encoded] at done
    cases done
    exact ⟨rfl, .welcome⟩
  | forwarding frame =>
    cases done
    exact ⟨rfl, .event⟩
  | responding request response =>
    simp only [SessionTask.written] at done
    cases encoded : encode response with
    | ok frame =>
      rw [send_ok encoded] at done
      cases done
      exact ⟨rfl, .response encoded⟩
    | error e =>
      simp only [SessionTask.send, encoded] at done
      cases done
      exact ⟨rfl, .lost encoded⟩
  | ponging bytes =>
    cases done
    exact ⟨rfl, .pong⟩
  | pinging =>
    cases done
    exact ⟨rfl, .ping⟩
  | _ => cases done

/-- The frame in hand is the next one posted to the connection. -/
theorem next_posted (wired : Wired encode ctx s) {frame : ByteString}
    (here : s.task.stage = .forwarding frame) :
    ∃ addr, (HubTasks.postings s.tasks.log ctx.connectionId)[(forwardedOf s.task.sent).length]? =
        some (addr, frame) ∧
      IsEvent encode addr frame ∧
      ∀ topic, addr = .topic topic → ownTopic ctx ≠ some topic →
        .own (.subscribed topic) ∈ s.task.sent := by
  have taken : s.tasks.hub.takenBy ctx.connectionId = forwardedOf s.task.sent ++ [frame] := by
    rw [wired.taken, here]
    rfl
  obtain ⟨rx, opened, received⟩ : ∃ rx, s.tasks.hub.channels.lookup ctx.connectionId = some rx ∧
      rx.taken = forwardedOf s.task.sent ++ [frame] := by
    rw [WsHub.takenBy] at taken
    cases lookup : s.tasks.hub.channels.lookup ctx.connectionId with
    | none => simp [lookup] at taken
    | some rx => exact ⟨rx, rfl, by simpa [lookup] using taken⟩
  have shape : (HubTasks.postings s.tasks.log ctx.connectionId).map Prod.snd =
      forwardedOf s.task.sent ++ frame :: rx.queue := by
    rw [HubTasks.postings_frames, ← wired.complete.sent _ _ opened, Mpsc.sent, received]
    simp
  have position := congrArg (fun frames => frames[(forwardedOf s.task.sent).length]?) shape
  simp only [List.getElem?_map, List.getElem?_append_right (Nat.le_refl _), Nat.sub_self]
    at position
  obtain ⟨⟨addr, frame'⟩, posted, same⟩ := Option.map_eq_some_iff.mp position
  obtain rfl : frame' = frame := same
  obtain ⟨event, known⟩ := wired.grounded.log addr frame'
    (HubTasks.mem_postings (List.mem_of_getElem? posted))
  refine ⟨addr, posted, event, fun topic at_ foreign => ?_⟩
  rcases known topic at_ with own | written | next
  · exact absurd own foreign
  · exact written
  · rw [here] at next
    cases next

theorem wired_written (encodes : Encodes encode) (wired : Wired encode ctx s)
    {stage : Stage Value} {out : List (Sent Value)}
    (done : SessionTask.written config ctx encode true s.task.stage = some (stage, out)) :
    Wired encode ctx ⟨s.tasks, { s.task with stage := stage, sent := s.task.sent ++ out }⟩ := by
  obtain ⟨rfl, writes⟩ := written_writes encodes done
  have known : (∀ topic, s.task.stage.response = some (.subscribed topic) →
      .own (.subscribed topic) ∈ out) → HubTasks.Grounded encode
        (Known ctx ⟨.selecting, s.task.lastSeen, s.task.sent ++ out⟩) ctx.connectionId s.tasks := by
    intro told
    refine wired.grounded.mono (Known.mono (fun _ old => List.mem_append_left _ old) ?_)
    exact fun topic next => Or.inl (List.mem_append_right _ (told topic next))
  have taken : forwardedOf out = inHand s.task.stage →
      s.tasks.hub.takenBy ctx.connectionId = forwardedOf (s.task.sent ++ out) ++ [] := by
    intro hand
    rw [wired.taken, ← hand]
    simp [forwardedOf]
  generalize before : s.task.stage = current at writes known taken
  cases writes with
  | welcome =>
    exact ⟨known (fun topic next => by cases next), wired.complete, wired.undrained, taken rfl,
      wired.events.own _⟩
  | event =>
    obtain ⟨addr, posted, event, told⟩ := next_posted wired before
    exact ⟨known (fun topic next => by cases next), wired.complete, wired.undrained, taken rfl,
      wired.events.forwarded posted event told⟩
  | response encoded =>
    refine ⟨known (fun topic next => ?_), wired.complete, wired.undrained, taken rfl,
      wired.events.own _⟩
    rw [Option.some.inj next]
    exact List.mem_cons_self
  | lost encoded =>
    refine ⟨known (fun topic next => ?_), wired.complete, wired.undrained, taken rfl, ?_⟩
    · obtain ⟨frame, written⟩ := encodes (.subscribed topic) rfl
      rw [← Option.some.inj next, encoded] at written
      cases written
    · rw [List.append_nil]
      exact wired.events
  | pong | ping =>
    refine ⟨known (fun topic next => by cases next), wired.complete, wired.undrained, taken rfl, ?_⟩
    rw [List.append_nil]
    exact wired.events

theorem inHand_received (message : AggregatedMessage) :
    inHand (SessionTask.received parse message) = [] := by
  cases message with
  | text text =>
    simp only [SessionTask.received, SessionTask.handling]
    rcases parse text with e | m
    · rfl
    · cases m <;> rfl
  | binary | ping | pong | close => rfl

theorem wired_moved (encodes : Encodes encode) {parseStr : String → Option Uuid}
    (wired : Wired encode ctx s) {event : SessionEvent Value} {ids : List ConnectionId}
    {topics : List Topic} {task : SessionTask Value}
    (ordinary : Ordinary (AppWsPolicy.policy parseStr) ctx s (.own event ids topics))
    (nexts : s.task.Nexts config ctx encode parse s.tasks.hub event task) :
    Wired encode ctx ⟨s.tasks, task⟩ := by
  have quiet : ∀ {stage : Stage Value} {instant : Nat}, s.task.stage.response = none →
      inHand s.task.stage = [] → inHand stage = [] →
      Wired encode ctx ⟨s.tasks, ⟨stage, instant, s.task.sent⟩⟩ := by
    intro stage instant silent empty empty'
    have known : ∀ topic, Known ctx s.task topic →
        Known ctx ⟨stage, instant, s.task.sent⟩ topic := by
      refine Known.mono (fun _ written => written) (fun topic next => ?_)
      rw [silent] at next
      cases next
    exact ⟨wired.grounded.mono known, wired.complete, wired.undrained,
      by rw [wired.taken, empty, empty'], wired.events⟩
  cases nexts with
  | accepted here | rejected here | evicted here _ _ | ended here | protocolError here
  | authorized here | forbidden here | published here | unpublished here _ | onDisconnect here
  | close here => exact quiet (by rw [here]; rfl) (by rw [here]; rfl) rfl
  | write done =>
    obtain rfl : _ = true := ordinary
    exact wired_written encodes wired done
  | @message m now here =>
    exact quiet (by rw [here]; rfl) (by rw [here]; rfl) (inHand_received m)
  | tick here =>
    refine quiet (by rw [here]; rfl) (by rw [here]; rfl) ?_
    split <;> rfl

theorem wired_step (encodes : Encodes encode) {parseStr : String → Option Uuid}
    {l : SessionRunLabel Value} (wired : Wired encode ctx s)
    (ordinary : Ordinary (AppWsPolicy.policy parseStr) ctx s l)
    (stepped : step encode parse config ctx s l = some t) : Wired encode ctx t := by
  cases step_moves stepped with
  | started other leaves started => exact wired_started wired other leaves started
  | ran ran => exact wired_ran wired ran
  | requested idle requests performed =>
    exact wired_requested wired ordinary idle requests performed
  | moved _ nexts => exact wired_moved encodes wired ordinary nexts

end SessionRun
end ApiBoilerplate
