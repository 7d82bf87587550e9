import ApiBoilerplate.Ws.SessionEvents

/-!
# The wire protocol of a session

The client reads one welcome, one response for each of its messages, in order
and each the one its message calls for, and events in between. The proof
carries three facts along a run: how the conversation stands, that the welcome
came first, and where the events come from.
-/

namespace ApiBoilerplate

open Foundation
open WsHub (Op)

/-- A response decided on: the message it answers, the hub before and after the
step that decided, and what that step left the session to call. -/
structure Answer (Value : Type) where
  request : AggregatedMessage
  before : WsHub Value
  after : WsHub Value
  left : List (Call Value)
  response : ServerMessage Value

inductive Exchange (Value : Type) where
  /-- A text or binary message taken off the stream. -/
  | taken (message : AggregatedMessage)
  | answered (answer : Answer Value)

def Answer.exchange {Value : Type} (answer : Answer Value) : List (Exchange Value) :=
  [.taken answer.request, .answered answer]

/-- The responses of `handle_text` and of the binary branch. -/
def ServerMessage.isReply {Value : Type} : ServerMessage Value → Bool
  | .subscribed _ => true
  | .unsubscribed _ => true
  | .pong => true
  | .error code _ =>
    code = ErrorCode.badRequest ∨ code = ErrorCode.forbidden ∨
      code = ErrorCode.limitExceeded ∨ code = ErrorCode.internal
  | _ => false

def ServerMessage.isError {Value : Type} : ServerMessage Value → Bool
  | .error _ _ => true
  | _ => false

def Sent.isWelcome {Value : Type} : Sent Value → Bool
  | .own (.welcome _ _ _) => true
  | _ => false

/-- What the frame answers, if it is neither a welcome nor an event. -/
def Sent.reply {Value : Type} : Sent Value → Option (ServerMessage Value)
  | .own (.welcome _ _ _) => none
  | .own message => some message
  | .forwarded _ => none

namespace SessionRun
variable {Value : Type}

section Definitions
variable (encode : ServerMessage Value → Except WsError ByteString)
  (parse : String → Except String (ClientMessage Value)) (policy : WsPolicy Value)
  (config : SessionConfig) (ctx : WsContext)

/-- The message a label takes off the stream, if it is to be answered. -/
def taken : SessionRunLabel Value → List (Exchange Value)
  | .own (.inbound (some (.ok (.text text))) _) _ _ => [.taken (.text text)]
  | .own (.inbound (some (.ok .binary)) _) _ _ => [.taken .binary]
  | _ => []

/-- The response decided on between two states. -/
def answered (s t : SessionRun Value) : List (Exchange Value) :=
  match t.task.stage with
  | .responding request response =>
    if s.task.stage.response.isNone then
      [.answered ⟨request, s.tasks.hub, t.tasks.hub,
        (t.tasks.pending.lookup (.session ctx.connectionId)).getD [], response⟩]
    else []
  | _ => []

def exchanges (s : SessionRun Value) (l : SessionRunLabel Value) : List (Exchange Value) :=
  taken l ++ ((step encode parse config ctx s l).map (answered ctx s)).getD []

/-- What a message is answered, by the hub as it stands. -/
def replyTo (request : AggregatedMessage) (hub : WsHub Value) : Option (ServerMessage Value) :=
  match request with
  | .text text => (handleText parse policy encode ctx text hub).1
  | .binary => some SessionTask.binaryError
  | _ => none

/-- The response is the one the message calls for; an error comes of no change. -/
structure Answer.Lawful (answer : Answer Value) : Prop where
  response : replyTo encode parse policy ctx answer.request answer.before = some answer.response
  kind : answer.response.isReply = true
  unchanged : answer.response.isError = true → answer.after = answer.before ∧ answer.left = []

end Definitions

/-- The message in hand. -/
def undecided : Stage Value → List AggregatedMessage
  | .authorizing text _ => [.text text]
  | .calling text _ => [.text text]
  | .publishing text _ _ => [.text text]
  | _ => []

/-- Each message taken is answered before the next one is taken, and the
responses are written in that order; one of each may be under way. -/
def Conversation (lawful : Answer Value → Prop) (seen : List (Exchange Value))
    (sent : List (Sent Value)) (stage : Stage Value) : Prop :=
  ∃ answers : List (Answer Value), (∀ answer ∈ answers, lawful answer) ∧
    seen = answers.flatMap Answer.exchange ++ (undecided stage).map Exchange.taken ∧
    answers.map Answer.response = sent.filterMap Sent.reply ++ stage.response.toList

namespace Conversation
variable {lawful : Answer Value → Prop} {seen : List (Exchange Value)} {sent : List (Sent Value)}
  {stage stage' : Stage Value}

theorem keep (talk : Conversation lawful seen sent stage) {more : List (Sent Value)}
    (silent : more.filterMap Sent.reply = []) (inHand : undecided stage' = undecided stage)
    (response : stage'.response = stage.response) :
    Conversation lawful seen (sent ++ more) stage' := by
  obtain ⟨answers, all, exchanged, written⟩ := talk
  refine ⟨answers, all, by rw [inHand]; exact exchanged, ?_⟩
  rw [response, List.filterMap_append, silent, List.append_nil]
  exact written

theorem stay (talk : Conversation lawful seen sent stage)
    (inHand : undecided stage' = undecided stage) (response : stage'.response = stage.response) :
    Conversation lawful seen sent stage' := by
  have kept : Conversation lawful seen (sent ++ []) stage' := talk.keep rfl inHand response
  simpa using kept

theorem take (talk : Conversation lawful seen sent stage) {message : AggregatedMessage}
    (free : undecided stage = []) (quiet : stage.response = none)
    (inHand : undecided stage' = [message]) (quiet' : stage'.response = none) :
    Conversation lawful (seen ++ [.taken message]) sent stage' := by
  obtain ⟨answers, all, exchanged, written⟩ := talk
  refine ⟨answers, all, ?_, ?_⟩
  · rw [exchanged, free, inHand]
    simp
  · rw [quiet', written, quiet]

theorem answer (talk : Conversation lawful seen sent stage) (reply : Answer Value)
    (inHand : undecided stage = [reply.request]) (quiet : stage.response = none)
    (free : undecided stage' = []) (response : stage'.response = some reply.response)
    (holds : lawful reply) : Conversation lawful (seen ++ [.answered reply]) sent stage' := by
  obtain ⟨answers, all, exchanged, written⟩ := talk
  refine ⟨answers ++ [reply], ?_, ?_, ?_⟩
  · intro a listed
    rcases List.mem_append.mp listed with old | new
    · exact all a old
    · obtain rfl := List.mem_singleton.mp new
      exact holds
  · rw [exchanged, inHand, free]
    simp [Answer.exchange]
  · rw [List.map_append, written, quiet, response]
    simp

/-- A message answered in the step that takes it. -/
theorem takeAnswer (talk : Conversation lawful seen sent stage) (reply : Answer Value)
    (free : undecided stage = []) (quiet : stage.response = none)
    (free' : undecided stage' = []) (response : stage'.response = some reply.response)
    (holds : lawful reply) :
    Conversation lawful (seen ++ reply.exchange) sent stage' := by
  obtain ⟨answers, all, exchanged, written⟩ := talk
  refine ⟨answers ++ [reply], ?_, ?_, ?_⟩
  · intro a listed
    rcases List.mem_append.mp listed with old | new
    · exact all a old
    · obtain rfl := List.mem_singleton.mp new
      exact holds
  · rw [exchanged, free, free']
    simp
  · rw [List.map_append, written, quiet, response]
    simp

theorem write (talk : Conversation lawful seen sent stage) {response : ServerMessage Value}
    (free : undecided stage = []) (next : stage.response = some response)
    (reply : Sent.reply (.own response) = some response) :
    Conversation lawful seen (sent ++ [.own response]) .selecting := by
  obtain ⟨answers, all, exchanged, written⟩ := talk
  refine ⟨answers, all, by rw [exchanged, free]; rfl, ?_⟩
  rw [written, next]
  simp [reply, Stage.response]

end Conversation

/-- The session has not written its welcome yet. -/
def Stage.ungreeted : Stage Value → Bool
  | .handshake => true
  | .refused => true
  | .connecting => true
  | .welcoming => true
  | _ => false

/-- Nothing is written before the welcome, and it is written once. -/
def Greeted (config : SessionConfig) (ctx : WsContext) (stage : Stage Value)
    (sent : List (Sent Value)) : Prop :=
  if Stage.ungreeted stage then sent = []
  else ∃ rest, sent = .own (SessionTask.welcome config ctx) :: rest ∧
    ∀ f ∈ rest, f.isWelcome = false

/-- The stage carries what its message was parsed and judged to be. -/
def Sound (parse : String → Except String (ClientMessage Value)) (policy : WsPolicy Value)
    (ctx : WsContext) : Stage Value → Prop
  | .authorizing text message => parse text = .ok message
  | .calling text (.subscribe topic) =>
    parse text = .ok (.subscribe topic) ∧ policy.authorizeSubscribe ctx topic = .ok ()
  | .calling text (.unsubscribe topic) => parse text = .ok (.unsubscribe topic)
  | .calling _ _ => False
  | .publishing _ _ _ => False
  | .responding _ response => response.isReply = true
  | _ => True

structure Talking (encode : ServerMessage Value → Except WsError ByteString)
    (parse : String → Except String (ClientMessage Value)) (policy : WsPolicy Value)
    (config : SessionConfig) (ctx : WsContext) (seen : List (Exchange Value))
    (task : SessionTask Value) : Prop where
  sound : Sound parse policy ctx task.stage
  talk : Conversation (Answer.Lawful encode parse policy ctx) seen task.sent task.stage
  greeted : Greeted config ctx task.stage task.sent

section Step
variable {encode : ServerMessage Value → Except WsError ByteString}
  {parse : String → Except String (ClientMessage Value)} {parseStr : String → Option Uuid}
  {config : SessionConfig} {ctx : WsContext} {s t : SessionRun Value}
  {seen : List (Exchange Value)}

theorem Greeted.stay {stage stage' : Stage Value} {sent : List (Sent Value)}
    (greeted : Greeted config ctx stage sent)
    (same : Stage.ungreeted stage' = Stage.ungreeted stage) : Greeted config ctx stage' sent := by
  rw [Greeted, same]
  exact greeted

/-- A stage with no message in hand and no response due. -/
structure Resting (stage : Stage Value) : Prop where
  free : undecided stage = []
  quiet : stage.response = none

/-- The session moves on without talking. -/
theorem Talking.rest {policy : WsPolicy Value} {task task' : SessionTask Value}
    (talking : Talking encode parse policy config ctx seen task) (from_ : Resting task.stage)
    (to_ : Resting task'.stage) (sent : task'.sent = task.sent)
    (sound : Sound parse policy ctx task'.stage)
    (same : Stage.ungreeted task'.stage = Stage.ungreeted task.stage) :
    Talking encode parse policy config ctx seen task' where
  sound := sound
  talk := by
    rw [sent]
    exact talking.talk.stay (to_.free.trans from_.free.symm) (to_.quiet.trans from_.quiet.symm)
  greeted := by
    rw [sent]
    exact talking.greeted.stay same

/-- A message is taken off the stream. -/
theorem talking_received (idle : .session ctx.connectionId ∉ s.tasks.pending)
    (talking : Talking encode parse (AppWsPolicy.policy parseStr) config ctx seen s.task)
    (here : s.task.stage = .selecting) (message : AggregatedMessage) (now : Nat)
    (ids : List ConnectionId) (topics : List Topic) :
    Talking encode parse (AppWsPolicy.policy parseStr) config ctx
      (seen ++ (taken (.own (.inbound (some (.ok message)) now) ids topics) ++
        answered ctx s ⟨s.tasks, { s.task with
          stage := SessionTask.received parse message, lastSeen := now }⟩))
      { s.task with stage := SessionTask.received parse message, lastSeen := now } := by
  have free : undecided s.task.stage = [] := by rw [here]; rfl
  have quiet : s.task.stage.response = none := by rw [here]; rfl
  have nothing : (s.tasks.pending.lookup (.session ctx.connectionId)).getD [] = [] := by
    rw [Finmap.lookup_eq_none.mpr idle]
    rfl
  have atOnce : ∀ request response, (∀ hub, replyTo encode parse (AppWsPolicy.policy parseStr) ctx
      request hub = some response) → ServerMessage.isReply response = true →
      Talking encode parse (AppWsPolicy.policy parseStr) config ctx
        (seen ++ ([.taken request] ++
          [.answered ⟨request, s.tasks.hub, s.tasks.hub, [], response⟩]))
        { s.task with stage := .responding request response, lastSeen := now } := by
    intro request response reply kind
    refine ⟨kind, ?_, talking.greeted.stay (by rw [here]; rfl)⟩
    exact talking.talk.takeAnswer ⟨request, s.tasks.hub, s.tasks.hub, [], response⟩
      free quiet rfl rfl ⟨reply _, kind, fun _ => ⟨rfl, rfl⟩⟩
  have later : ∀ text stage, undecided stage = [.text text] → stage.response = none →
      Sound parse (AppWsPolicy.policy parseStr) ctx stage → Stage.ungreeted stage = false →
      Talking encode parse (AppWsPolicy.policy parseStr) config ctx
        (seen ++ [.taken (.text text)]) { s.task with stage := stage, lastSeen := now } := by
    intro text stage inHand quiet' sound told
    exact ⟨sound, talking.talk.take free quiet inHand quiet',
      talking.greeted.stay (by rw [here]; exact told)⟩
  have rest : ∀ stage : Stage Value, Resting stage →
      Sound parse (AppWsPolicy.policy parseStr) ctx stage → Stage.ungreeted stage = false →
      Talking encode parse (AppWsPolicy.policy parseStr) config ctx seen
        { s.task with stage := stage, lastSeen := now } :=
    fun stage to_ sound told =>
      talking.rest ⟨free, quiet⟩ to_ rfl sound (by rw [here]; exact told)
  cases message with
  | text text =>
    rcases parsed : parse text with e | m
    · simpa [SessionTask.received, SessionTask.handling, parsed, taken, answered, quiet, nothing]
        using atOnce (.text text) (.error ErrorCode.badRequest e)
          (fun hub => by simp [replyTo, handleText, parsed]) (by simp [ServerMessage.isReply])
    · cases m with
      | subscribe topic =>
        simpa [SessionTask.received, SessionTask.handling, parsed, taken, answered]
          using later text (.authorizing text (.subscribe topic)) rfl rfl parsed rfl
      | unsubscribe topic =>
        simpa [SessionTask.received, SessionTask.handling, parsed, taken, answered]
          using later text (.calling text (.unsubscribe topic)) rfl rfl parsed rfl
      | publish topic payload =>
        simpa [SessionTask.received, SessionTask.handling, parsed, taken, answered]
          using later text (.authorizing text (.publish topic payload)) rfl rfl parsed rfl
      | ping =>
        simpa [SessionTask.received, SessionTask.handling, parsed, taken, answered, quiet, nothing]
          using atOnce (.text text) .pong (fun hub => by simp [replyTo, handleText, parsed]) rfl
  | binary =>
    simpa [SessionTask.received, taken, answered, quiet, nothing]
      using atOnce .binary SessionTask.binaryError (fun hub => rfl)
        (by simp [ServerMessage.isReply, SessionTask.binaryError])
  | ping bytes =>
    simpa [taken, answered, SessionTask.received] using rest (.ponging bytes) ⟨rfl, rfl⟩ trivial rfl
  | pong =>
    simpa [taken, answered, SessionTask.received] using rest .selecting ⟨rfl, rfl⟩ trivial rfl
  | close reason =>
    simpa [taken, answered, SessionTask.received]
      using rest (.leaving reason) ⟨rfl, rfl⟩ trivial rfl

/-- A response is decided on where the message in hand is `text`. -/
theorem talking_decided {policy : WsPolicy Value} {tasks : HubTasks Value} {text : String}
    {response : ServerMessage Value}
    (talking : Talking encode parse policy config ctx seen s.task)
    (inHand : undecided s.task.stage = [.text text]) (quiet : s.task.stage.response = none)
    (told : Stage.ungreeted s.task.stage = false)
    (lawful : Answer.Lawful encode parse policy ctx ⟨.text text, s.tasks.hub, tasks.hub,
      (tasks.pending.lookup (.session ctx.connectionId)).getD [], response⟩) :
    Talking encode parse policy config ctx
      (seen ++ answered ctx s ⟨tasks, { s.task with stage := .responding (.text text) response }⟩)
      { s.task with stage := .responding (.text text) response } := by
  refine ⟨lawful.kind, ?_, talking.greeted.stay told.symm⟩
  have answer := talking.talk.answer _ inHand quiet
    (show undecided (.responding (.text text) response) = [] from rfl) rfl lawful
  simpa [answered, quiet] using answer

theorem reply_of_isReply {response : ServerMessage Value} (kind : response.isReply = true) :
    Sent.reply (.own response) = some response ∧ Sent.isWelcome (.own response) = false ∧
      ServerMessage.isEvent response = false := by
  cases response with
  | welcome | event => cases kind
  | subscribed | unsubscribed | pong | error => exact ⟨rfl, rfl, rfl⟩

theorem Greeted.append {stage : Stage Value} {sent : List (Sent Value)} {f : Sent Value}
    (greeted : Greeted config ctx stage sent) (told : Stage.ungreeted stage = false)
    (other : f.isWelcome = false) : Greeted config ctx .selecting (sent ++ [f]) := by
  rw [Greeted, told] at greeted
  obtain ⟨rest, rfl, others⟩ := greeted
  refine ⟨rest ++ [f], rfl, fun g listed => ?_⟩
  rcases List.mem_append.mp listed with old | new
  · exact others g old
  · obtain rfl := List.mem_singleton.mp new
    exact other

theorem talking_written (encodes : Encodes encode) {policy : WsPolicy Value}
    (talking : Talking encode parse policy config ctx seen s.task)
    {stage : Stage Value} {out : List (Sent Value)}
    (done : SessionTask.written config ctx encode true s.task.stage = some (stage, out)) :
    Talking encode parse policy config ctx
      (seen ++ answered ctx s ⟨s.tasks, { s.task with stage := stage, sent := s.task.sent ++ out }⟩)
      { s.task with stage := stage, sent := s.task.sent ++ out } := by
  obtain ⟨rfl, writes⟩ := written_writes encodes done
  have silent : answered ctx s
      ⟨s.tasks, { s.task with stage := .selecting, sent := s.task.sent ++ out }⟩ = [] := rfl
  rw [silent, List.append_nil]
  obtain ⟨sound, talk, greeted⟩ := talking
  generalize s.task.stage = before at sound talk greeted writes
  cases writes with
  | welcome =>
    refine ⟨trivial, talk.keep rfl rfl rfl, ⟨[], ?_, fun f none => by cases none⟩⟩
    rw [show s.task.sent = [] from greeted]
    rfl
  | event => exact ⟨trivial, talk.keep rfl rfl rfl, greeted.append rfl rfl⟩
  | response encoded =>
    obtain ⟨reply, other, _⟩ := reply_of_isReply sound
    exact ⟨trivial, talk.write rfl rfl reply, greeted.append rfl other⟩
  | lost encoded =>
    obtain ⟨_, _, own⟩ := reply_of_isReply sound
    obtain ⟨frame, written⟩ := encodes _ own
    rw [encoded] at written
    cases written
  | pong | ping =>
    refine ⟨trivial, talk.keep rfl rfl rfl, ?_⟩
    rw [List.append_nil]
    exact greeted.stay rfl

theorem talking_moved (encodes : Encodes encode) {event : SessionEvent Value}
    {ids : List ConnectionId} {topics : List Topic} {task : SessionTask Value}
    (talking : Talking encode parse (AppWsPolicy.policy parseStr) config ctx seen s.task)
    (ordinary : Ordinary (AppWsPolicy.policy parseStr) ctx s (.own event ids topics))
    (idle : .session ctx.connectionId ∉ s.tasks.pending)
    (nexts : s.task.Nexts config ctx encode parse s.tasks.hub event task) :
    Talking encode parse (AppWsPolicy.policy parseStr) config ctx
      (seen ++ (taken (.own event ids topics) ++ answered ctx s ⟨s.tasks, task⟩)) task := by
  have rest : ∀ (stage : Stage Value) {before : Stage Value}, s.task.stage = before →
      Resting before →
      Resting stage → Sound parse (AppWsPolicy.policy parseStr) ctx stage →
      Stage.ungreeted stage = Stage.ungreeted before →
      Talking encode parse (AppWsPolicy.policy parseStr) config ctx seen
        { s.task with stage := stage } :=
    fun _ _ here from_ to_ sound same =>
      talking.rest (here ▸ from_) to_ rfl sound (by rw [here]; exact same)
  cases nexts with
  | accepted here =>
    simpa [taken, answered] using rest .welcoming here ⟨rfl, rfl⟩ ⟨rfl, rfl⟩ trivial rfl
  | rejected here =>
    have verdict : policyVerdict (AppWsPolicy.policy parseStr) ctx s.task.stage =
        some (.error _) := ordinary
    rw [here] at verdict
    simp only [policyVerdict, AppWsPolicy.policy, AppWsPolicy.onConnect] at verdict
    cases user : ctx.userId <;> rw [user] at verdict <;> cases verdict
  | write done =>
    obtain rfl : _ = true := ordinary
    exact talking_written encodes talking done
  | message here => exact talking_received idle talking here _ _ ids topics
  | evicted here _ _ | ended here | protocolError here =>
    simpa [taken, answered] using rest (.leaving _) here ⟨rfl, rfl⟩ ⟨rfl, rfl⟩ trivial rfl
  | tick here =>
    split
    · simpa [taken, answered] using
        rest (.leaving _) here ⟨rfl, rfl⟩ ⟨rfl, rfl⟩ trivial rfl
    · simpa [taken, answered] using rest .pinging here ⟨rfl, rfl⟩ ⟨rfl, rfl⟩ trivial rfl
  | @authorized text message here =>
    have verdict : policyVerdict (AppWsPolicy.policy parseStr) ctx s.task.stage =
        some (.ok ()) := ordinary
    have sound := talking.sound
    rw [here] at verdict sound
    have called : Sound parse (AppWsPolicy.policy parseStr) ctx (.calling text message) := by
      cases message with
      | subscribe topic => exact ⟨sound, Option.some.inj verdict⟩
      | unsubscribe topic => exact sound
      | publish topic payload => cases Option.some.inj verdict
      | ping => cases verdict
    have step : Talking encode parse (AppWsPolicy.policy parseStr) config ctx seen
        { s.task with stage := .calling text message } :=
      ⟨called, talking.talk.stay (by rw [here]; rfl) (by rw [here]; rfl),
        talking.greeted.stay (by rw [here]; rfl)⟩
    simpa [taken, answered] using step
  | @forbidden text message reason here =>
    have verdict : policyVerdict (AppWsPolicy.policy parseStr) ctx s.task.stage =
        some (.error reason) := ordinary
    have parsed := talking.sound
    rw [here] at verdict parsed
    refine talking_decided talking (by rw [here]; rfl) (by rw [here]; rfl) (by rw [here]; rfl) ?_
    refine ⟨?_, by simp [ServerMessage.isReply], fun _ => ⟨rfl, ?_⟩⟩
    · have parsed : parse text = .ok message := parsed
      cases message with
      | subscribe topic =>
        have refused : (AppWsPolicy.policy parseStr : WsPolicy Value).authorizeSubscribe ctx topic =
            .error reason := Option.some.inj verdict
        simp [replyTo, handleText, parsed, refused]
      | publish topic payload =>
        have refused : (AppWsPolicy.policy parseStr : WsPolicy Value).authorizePublish ctx topic
            payload = .error reason := Option.some.inj verdict
        simp [replyTo, handleText, parsed, refused]
      | unsubscribe | ping => cases verdict
    · rw [Finmap.lookup_eq_none.mpr idle]
      rfl
  | published here | unpublished here _ =>
    have never := talking.sound
    rw [here] at never
    exact never.elim
  | onDisconnect here =>
    simpa [taken, answered] using rest (.closing _) here ⟨rfl, rfl⟩ ⟨rfl, rfl⟩ trivial rfl
  | close here =>
    simpa [taken, answered] using rest .finishing here ⟨rfl, rfl⟩ ⟨rfl, rfl⟩ trivial rfl

/-- Nothing is decided while the session's stage stands. -/
theorem answered_standing (tasks : HubTasks Value) : answered ctx s ⟨tasks, s.task⟩ = [] := by
  simp only [answered]
  split
  · rename_i request response here
    simp [here, Stage.response]
  · rfl

theorem subscribe_lawful {policy : WsPolicy Value} {text : String} {topic : Topic}
    {tasks : HubTasks Value} {ids : List ConnectionId} {topics : List Topic}
    (parsed : parse text = .ok (.subscribe topic))
    (allowed : policy.authorizeSubscribe ctx topic = .ok ())
    (idle : .session ctx.connectionId ∉ s.tasks.pending)
    (performed : s.tasks.perform encode (.session ctx.connectionId)
      (.subscribe ctx.connectionId topic) ids topics = some tasks) :
    Answer.Lawful encode parse policy ctx ⟨.text text, s.tasks.hub, tasks.hub,
      (tasks.pending.lookup (.session ctx.connectionId)).getD [],
      SessionTask.subscribeResponse topic
        (s.tasks.hub.subscribeConnection ctx.connectionId topic)⟩ := by
  cases answer : s.tasks.hub.subscribeConnection ctx.connectionId topic with
  | ok held =>
    refine ⟨?_, rfl, fun error => by cases error⟩
    simp [replyTo, handleText, parsed, allowed, WsHub.subscribe, answer,
      SessionTask.subscribeResponse]
  | error e =>
    obtain ⟨hub, _, pending⟩ := refused_performed answer idle performed
    refine ⟨?_, ?_, fun _ => ⟨hub, ?_⟩⟩
    · simp [replyTo, handleText, parsed, allowed, WsHub.subscribe, answer,
        SessionTask.subscribeResponse]
    · cases e <;> simp [SessionTask.subscribeResponse, subscribeError, ServerMessage.isReply]
    · rw [pending, Finmap.lookup_eq_none.mpr idle]
      rfl

theorem talking_requested {event : SessionEvent Value} {op : Op Value} {ids : List ConnectionId}
    {topics : List Topic} {task : SessionTask Value} {tasks : HubTasks Value}
    (talking : Talking encode parse (AppWsPolicy.policy parseStr) config ctx seen s.task)
    (idle : .session ctx.connectionId ∉ s.tasks.pending)
    (requests : s.task.Requests ctx s.tasks.hub event op task)
    (performed : s.tasks.perform encode (.session ctx.connectionId) op ids topics = some tasks) :
    Talking encode parse (AppWsPolicy.policy parseStr) config ctx
      (seen ++ (taken (.own event ids topics) ++ answered ctx s ⟨tasks, task⟩)) task := by
  have rest : ∀ (stage : Stage Value) (instant : Nat) {before : Stage Value},
      s.task.stage = before → Resting before → Resting stage →
      Sound parse (AppWsPolicy.policy parseStr) ctx stage →
      Stage.ungreeted stage = Stage.ungreeted before →
      Talking encode parse (AppWsPolicy.policy parseStr) config ctx seen
        ⟨stage, instant, s.task.sent⟩ :=
    fun _ _ _ here from_ to_ sound same =>
      talking.rest (here ▸ from_) to_ rfl sound (by rw [here]; exact same)
  cases requests with
  | register here =>
    split
    · simpa [taken, answered] using rest .refused _ here ⟨rfl, rfl⟩ ⟨rfl, rfl⟩ trivial rfl
    · simpa [taken, answered] using rest .connecting _ here ⟨rfl, rfl⟩ ⟨rfl, rfl⟩ trivial rfl
  | policy _ _ => simpa [taken, answered_standing] using talking
  | outbound here _ =>
    simpa [taken, answered] using rest (.forwarding _) _ here ⟨rfl, rfl⟩ ⟨rfl, rfl⟩ trivial rfl
  | subscribe here =>
    have sound := talking.sound
    rw [here] at sound
    exact talking_decided talking (by rw [here]; rfl) (by rw [here]; rfl) (by rw [here]; rfl)
      (subscribe_lawful sound.1 sound.2 idle performed)
  | @unsubscribe text topic here =>
    have sound := talking.sound
    rw [here] at sound
    have parsed : parse text = .ok (.unsubscribe topic) := sound
    refine talking_decided talking (by rw [here]; rfl) (by rw [here]; rfl) (by rw [here]; rfl) ?_
    exact ⟨by simp [replyTo, handleText, parsed], rfl, fun error => by cases error⟩
  | publish here =>
    have never := talking.sound
    rw [here] at never
    exact never.elim
  | @unregister stage leaves =>
    cases before : s.task.stage <;> rw [before] at leaves <;> cases leaves
    · simpa [taken, answered] using rest (.closing _) _ before ⟨rfl, rfl⟩ ⟨rfl, rfl⟩ trivial rfl
    · simpa [taken, answered] using rest .finishing _ before ⟨rfl, rfl⟩ ⟨rfl, rfl⟩ trivial rfl
    · simpa [taken, answered] using
        rest (.disconnecting _) _ before ⟨rfl, rfl⟩ ⟨rfl, rfl⟩ trivial rfl
  | finish here =>
    simpa [taken, answered] using rest .returned _ here ⟨rfl, rfl⟩ ⟨rfl, rfl⟩ trivial rfl

theorem talking_step (encodes : Encodes encode) {l : SessionRunLabel Value}
    (talking : Talking encode parse (AppWsPolicy.policy parseStr) config ctx seen s.task)
    (ordinary : Ordinary (AppWsPolicy.policy parseStr) ctx s l)
    (stepped : step encode parse config ctx s l = some t) :
    Talking encode parse (AppWsPolicy.policy parseStr) config ctx
      (seen ++ exchanges encode parse config ctx s l) t.task := by
  have noted : exchanges encode parse config ctx s l = taken l ++ answered ctx s t := by
    rw [exchanges, stepped]
    rfl
  rw [noted]
  cases step_moves stepped with
  | started _ _ _ | ran _ => simpa [taken, answered_standing] using talking
  | requested idle requests performed => exact talking_requested talking idle requests performed
  | moved idle nexts => exact talking_moved encodes talking ordinary idle nexts

end Step

/-- The indexes of two hubs are the same. -/
structure SameIndexes (h g : WsHub Value) : Prop where
  connections : g.connections = h.connections
  topics : g.topics = h.topics
  users : g.users = h.users

section Runs
variable {encode : ServerMessage Value → Except WsError ByteString}
  {parse : String → Except String (ClientMessage Value)} {parseStr : String → Option Uuid}
  {config : SessionConfig} {ctx : WsContext} {nodeId : Uuid} {hubConfig : WebSocketConfig}
  {clusterTx : Option (Mpsc (ClusterFrame Value))} {s t : SessionRun Value}

/-- Outside its hub operations the session leaves the indexes alone. -/
theorem quiet_indexes {event : SessionEvent Value} {ids : List ConnectionId}
    {topics : List Topic} (quiet : event.callsHub = false)
    (stepped : step encode parse config ctx s (.own event ids topics) = some t) :
    SameIndexes s.tasks.hub t.tasks.hub := by
  cases step_moves stepped with
  | requested _ requests performed =>
    obtain ⟨c, rest, h, more, _, calls, _, done, rfl, _⟩ := HubTasks.perform_cases performed
    cases requests with
    | register | policy | subscribe | unsubscribe | publish | unregister => cases quiet
    | outbound =>
      cases calls
      obtain ⟨g, drained, same⟩ := Option.map_eq_some_iff.mp done
      cases same
      simp only [WsHub.step] at drained
      split at drained
      · cases drained
      · split at drained
        · obtain ⟨pair, _, rfl⟩ := Option.map_eq_some_iff.mp drained
          exact ⟨rfl, rfl, rfl⟩
        · cases drained
    | finish =>
      cases calls
      obtain ⟨g, dropped, same⟩ := Option.map_eq_some_iff.mp done
      cases same
      obtain ⟨rx, _, rfl⟩ := Option.map_eq_some_iff.mp dropped
      exact ⟨rfl, rfl, rfl⟩
  | moved _ _ => exact ⟨rfl, rfl, rfl⟩

/-- What the client reads. -/
structure WireProtocol (encode : ServerMessage Value → Except WsError ByteString)
    (parse : String → Except String (ClientMessage Value)) (policy : WsPolicy Value)
    (config : SessionConfig) (ctx : WsContext) (seen : List (Exchange Value))
    (s : SessionRun Value) : Prop where
  welcome : s.task.sent = [] ∨ ∃ rest,
    s.task.sent = .own (SessionTask.welcome config ctx) :: rest ∧ ∀ f ∈ rest, f.isWelcome = false
  responses : Conversation (Answer.Lawful encode parse policy ctx) seen s.task.sent s.task.stage
  indexes : ∀ event ids topics t, SessionEvent.callsHub event = false →
    step encode parse config ctx s (.own event ids topics) = some t →
    SameIndexes s.tasks.hub t.tasks.hub
  events : EventsInOrder encode ctx s.tasks.log s.task.sent

theorem session_wire_protocol (encodes : Encodes encode) {ls : List (SessionRunLabel Value)}
    (run : (machine encode parse config ctx nodeId hubConfig clusterTx).Run
      (Ordinary (AppWsPolicy.policy parseStr) ctx) ls s)
    {seen : List (Exchange Value)}
    (observed : seen = (machine encode parse config ctx nodeId hubConfig clusterTx).notes
      (exchanges encode parse config ctx)
      (machine encode parse config ctx nodeId hubConfig clusterTx).init ls) :
    WireProtocol encode parse (AppWsPolicy.policy parseStr) config ctx seen s := by
  have start : Talking encode parse (AppWsPolicy.policy parseStr) config ctx []
      (machine encode parse config ctx nodeId hubConfig clusterTx).init.task :=
    ⟨trivial, ⟨[], by simp, rfl, rfl⟩, rfl⟩
  have both : Talking encode parse (AppWsPolicy.policy parseStr) config ctx
      ((machine encode parse config ctx nodeId hubConfig clusterTx).notes
        (exchanges encode parse config ctx)
        (machine encode parse config ctx nodeId hubConfig clusterTx).init ls) s.task ∧
      Wired encode ctx s :=
    run.noted (I := fun seen s => Talking encode parse (AppWsPolicy.policy parseStr) config ctx
        seen s.task ∧ Wired encode ctx s)
      ⟨start, wired_init nodeId hubConfig clusterTx⟩
      (fun seen s l t holds ordinary stepped =>
        ⟨talking_step encodes holds.1 ordinary stepped,
          wired_step encodes holds.2 ordinary stepped⟩)
  rw [← observed] at both
  obtain ⟨talking, wired⟩ := both
  refine ⟨?_, talking.talk, fun _ _ _ _ quiet stepped => quiet_indexes quiet stepped,
    wired.events⟩
  have greeted := talking.greeted
  rw [Greeted] at greeted
  split at greeted
  · exact Or.inl greeted
  · exact Or.inr greeted

end Runs

section Prices

def parsePrices (text : String) : Except String (ClientMessage Nat) :=
  if text = "prices" then .ok (.subscribe "prices") else .error "expected value"

/-- Connection 1 of user 7. -/
def priced : Machine (SessionRun Nat) (SessionRunLabel Nat) :=
  machine WsHub.plainFrame parsePrices ⟨20, 60⟩ ⟨1, some 7, none⟩ 9 ⟨0, 0, 4⟩ none

/-- A test for `Ordinary` on this connection. -/
def ordinary (s : SessionRun Nat) : SessionRunLabel Nat → Bool
  | .own (.policy op) _ _ =>
    match op with
    | .subscribe id topic => Stage.isConnecting s.task.stage && decide (id = 1) &&
      decide (topic = AppWsPolicy.userTopic 7)
    | _ => false
  | .own (.onConnect verdict) _ _ => Stage.isConnecting s.task.stage && verdict.isOk
  | .own (.authorize verdict) _ _ =>
    match s.task.stage, verdict with
    | .authorizing _ (.subscribe topic), .ok () =>
      (AppWsPolicy.authorizeSubscribe Uuid.ofHyphenated ⟨1, some 7, none⟩ topic).isOk
    | _, _ => false
  | .own (.write ok) _ _ => ok
  | _ => true

theorem ordinary_sound (s : SessionRun Nat) (l : SessionRunLabel Nat)
    (checked : ordinary s l = true) :
    Ordinary (AppWsPolicy.policy Uuid.ofHyphenated) ⟨1, some 7, none⟩ s l := by
  cases l with
  | hub l => trivial
  | own event ids topics =>
    cases event with
    | policy op =>
      cases op with
      | subscribe id topic =>
        simp only [ordinary, Bool.and_eq_true, decide_eq_true_eq] at checked
        obtain ⟨⟨here, rfl⟩, rfl⟩ := checked
        exact ⟨here, List.mem_singleton.mpr rfl⟩
      | _ => cases checked
    | onConnect verdict =>
      simp only [ordinary, Bool.and_eq_true] at checked
      cases stage : s.task.stage with
      | connecting =>
        rcases verdict with e | ⟨⟩
        · cases checked.2
        · simp only [Ordinary, stage, policyVerdict]
          rfl
      | _ => simp [stage, Stage.isConnecting] at checked
    | authorize verdict =>
      simp only [ordinary] at checked
      split at checked
      · rename_i text topic here
        simp only [Ordinary, here, policyVerdict, AppWsPolicy.policy]
        generalize AppWsPolicy.authorizeSubscribe Uuid.ofHyphenated _ topic = answer at checked ⊢
        cases answer with
        | ok => rfl
        | error e => cases checked
      · cases checked
    | write ok => exact checked
    | _ => trivial

/-- The client subscribes; before it is told, the server publishes; then it sends
two messages that are no commands. -/
def pricesRun : List (SessionRunLabel Nat) :=
  [.own (.register 0 0) [] [], .hub (.run (.session 1) [] []), .hub (.run (.session 1) [] []),
    .own (.policy (.subscribe 1 (AppWsPolicy.userTopic 7))) [] [], .hub (.run (.session 1) [] []),
    .own (.onConnect (.ok ())) [] [], .own (.write true) [] []] ++
  [.own (.inbound (some (.ok (.text "prices"))) 3) [] [], .own (.authorize (.ok ())) [] [],
    .own .call [] [], .hub (.run (.session 1) [] []),
    .hub (.start (.other 0) (.publish "prices" (.ok 3))), .hub (.run (.other 0) [] []),
    .hub (.run (.other 0) [1] []), .hub (.run (.other 0) [] []),
    .own (.write true) [] [], .own .outbound [] [], .own (.write true) [] []] ++
  [.own (.inbound (some (.ok (.text "?"))) 5) [] [], .own (.write true) [] [],
    .own (.inbound (some (.ok .binary)) 6) [] [], .own (.write true) [] []]

def pricesEnd : SessionRun Nat := priced.follow ordinary pricesRun

/-- Five frames, the third of them the event. -/
example : pricesEnd.task.sent.map Sent.frame = [none, none, some "prices!!!", none, none] := by
  decide +kernel

theorem session_wire_protocol_prices :
    WireProtocol WsHub.plainFrame parsePrices (AppWsPolicy.policy Uuid.ofHyphenated) ⟨20, 60⟩
      ⟨1, some 7, none⟩ (priced.notes
        (exchanges WsHub.plainFrame parsePrices ⟨20, 60⟩ ⟨1, some 7, none⟩) priced.init pricesRun)
      pricesEnd := by
  have run : priced.Run (Ordinary (AppWsPolicy.policy Uuid.ofHyphenated) ⟨1, some 7, none⟩)
      pricesRun pricesEnd := Machine.run_follow ordinary_sound (by decide +kernel)
  have encodes : Encodes WsHub.plainFrame := by
    intro message own
    cases message with
    | event topic payload => cases own
    | welcome | subscribed | unsubscribed | pong | error => exact ⟨_, rfl⟩
  exact session_wire_protocol encodes run rfl

end Prices

end SessionRun
end ApiBoilerplate
