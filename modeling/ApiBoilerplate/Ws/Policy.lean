import ApiBoilerplate.Ws.HubTasks

/-!
# Policies and client frames

A policy decides what a connection may do; the hub itself does not. The
application's policy reserves `user.<id>` for its user and leaves anonymous
connections the topics under `public.`. A client frame is parsed, put to the
policy, and becomes at most one call on the hub and one response.
-/

namespace ApiBoilerplate

open Foundation
open WsHub (Op)

/-- What a policy sees of one connection. -/
structure WsContext where
  connectionId : ConnectionId
  userId : Option Uuid
  email : Option String
  deriving DecidableEq

def WsContext.isAuthenticated (ctx : WsContext) : Bool := ctx.userId.isSome

/-- The application's rules. On a new connection a policy may call the hub
before it accepts or rejects. -/
structure WsPolicy (Value : Type) where
  onConnect : WsContext → List (Op Value) × Except String Unit
  authorizeSubscribe : WsContext → Topic → Except String Unit
  authorizePublish : WsContext → Topic → Value → Except String Unit

namespace AppWsPolicy

def publicPrefix : String := "public."
def userPrefix : String := "user."

def startsWith (topic start : String) : Bool := start.toList.isPrefixOf topic.toList

def stripPrefix (topic start : String) : Option String :=
  if startsWith topic start then some (String.ofList (topic.toList.drop start.toList.length))
  else none

/-- The topic reserved for a user. -/
def userTopic (userId : Uuid) : Topic := userPrefix ++ userId.hyphenated

variable {Value : Type}

def onConnect (ctx : WsContext) : List (Op Value) × Except String Unit :=
  match ctx.userId with
  | some userId => ([.subscribe ctx.connectionId (userTopic userId)], .ok ())
  | none => ([], .ok ())

def authorizeSubscribe (parseStr : String → Option Uuid) (ctx : WsContext) (topic : Topic) :
    Except String Unit :=
  if topic = "" then .error "Topic must not be empty"
  else if startsWith topic publicPrefix then .ok ()
  else match stripPrefix topic userPrefix with
    | some rawId =>
      match ctx.userId with
      | none => .error "Authentication required for user topics"
      | some userId =>
        match parseStr rawId with
        | some id =>
          if id = userId then .ok () else .error "Cannot subscribe to another user's topic"
        | none => .error "Malformed user topic"
    | none =>
      if ctx.isAuthenticated then .ok ()
      else .error ("Authentication required to subscribe to '" ++ topic ++ "'")

def authorizePublish (_ctx : WsContext) (_topic : Topic) (_payload : Value) :
    Except String Unit := .error "Clients may not publish on this server"

/-- The shipped policy, given how a UUID is read. -/
def policy (parseStr : String → Option Uuid) : WsPolicy Value where
  onConnect := onConnect
  authorizeSubscribe := authorizeSubscribe parseStr
  authorizePublish := authorizePublish

/-- What a connection of a user, or of nobody, may be subscribed to. -/
structure Permitted (userId : Option Uuid) (topic : Topic) : Prop where
  own : ∀ u, topic = userTopic u → userId = some u
  anonymous : userId = none → startsWith topic publicPrefix = true

theorem stripPrefix_append (start rest : String) :
    stripPrefix (start ++ rest) start = some rest := by
  have chars : (start ++ rest).toList = start.toList ++ rest.toList := String.toList_append
  have starts : startsWith (start ++ rest) start = true := by
    rw [startsWith, List.isPrefixOf_iff_prefix, chars]
    exact List.prefix_append _ _
  rw [stripPrefix, if_pos starts, chars, List.drop_left, String.ofList_toList]

theorem stripPrefix_userTopic (u : Uuid) :
    stripPrefix (userTopic u) userPrefix = some u.hyphenated := stripPrefix_append ..

theorem userPrefix_not_public (rest : String) :
    startsWith (userPrefix ++ rest) publicPrefix = false := by
  have chars : (userPrefix ++ rest).toList = userPrefix.toList ++ rest.toList :=
    String.toList_append
  rw [startsWith, chars]
  rfl

theorem userTopic_not_public (u : Uuid) : startsWith (userTopic u) publicPrefix = false :=
  userPrefix_not_public _

theorem userTopic_injective {u v : Uuid} (same : userTopic u = userTopic v) : u = v := by
  have raw := stripPrefix_userTopic u
  rw [same, stripPrefix_userTopic] at raw
  exact (Uuid.hyphenated_injective (Option.some.inj raw)).symm

theorem permitted_own (u : Uuid) : Permitted (some u) (userTopic u) where
  own v same := by rw [userTopic_injective same]
  anonymous none := by cases none

/-- The policy permits nothing more. -/
theorem authorizeSubscribe_permitted {parseStr : String → Option Uuid}
    (roundTrip : ∀ u : Uuid, parseStr u.hyphenated = some u) {ctx : WsContext} {topic : Topic}
    (allowed : authorizeSubscribe parseStr ctx topic = .ok ()) : Permitted ctx.userId topic := by
  unfold authorizeSubscribe at allowed
  split at allowed
  · cases allowed
  · split at allowed
    · rename_i open_
      refine ⟨fun u same => ?_, fun _ => open_⟩
      rw [same, userTopic_not_public] at open_
      cases open_
    · split at allowed
      · rename_i rawId stripped
        split at allowed
        · cases allowed
        · rename_i userId user
          split at allowed
          · rename_i id parsed
            split at allowed
            · rename_i own
              refine ⟨fun u same => ?_, fun none => ?_⟩
              · rw [same, stripPrefix_userTopic] at stripped
                obtain rfl := Option.some.inj stripped
                rw [roundTrip u] at parsed
                obtain rfl := Option.some.inj parsed
                rw [user, own]
              · rw [user] at none
                cases none
            · cases allowed
          · cases allowed
      · rename_i plain
        split at allowed
        · rename_i signedIn
          refine ⟨fun u same => ?_, fun none => ?_⟩
          · rw [same, stripPrefix_userTopic] at plain
            cases plain
          · rw [WsContext.isAuthenticated, none] at signedIn
            cases signedIn
        · cases allowed

end AppWsPolicy

section ClientFrames
variable {Value : Type} (parse : String → Except String (ClientMessage Value))
  (policy : WsPolicy Value)

/-- The answer to a refused subscription. -/
def subscribeError : WsError → ServerMessage Value
  | .topicLimit limit => .error ErrorCode.limitExceeded (WsError.topicLimit limit).text
  | e => .error ErrorCode.internal e.text

/-- One text frame: the response written to the client's own socket, if any,
and the hub afterwards. -/
def handleText (encode : ServerMessage Value → Except WsError ByteString) (ctx : WsContext)
    (text : String) (hub : WsHub Value) : Option (ServerMessage Value) × WsHub Value :=
  match parse text with
  | .error e => (some (.error ErrorCode.badRequest e), hub)
  | .ok (.subscribe topic) =>
    match policy.authorizeSubscribe ctx topic with
    | .error reason => (some (.error ErrorCode.forbidden reason), hub)
    | .ok () =>
      match hub.subscribe ctx.connectionId topic with
      | (.ok (), hub) => (some (.subscribed topic), hub)
      | (.error e, hub) => (some (subscribeError e), hub)
  | .ok (.unsubscribe topic) =>
    (some (.unsubscribed topic), hub.unsubscribe ctx.connectionId topic)
  | .ok (.publish topic payload) =>
    match policy.authorizePublish ctx topic payload with
    | .error reason => (some (.error ErrorCode.forbidden reason), hub)
    | .ok () =>
      match hub.publish encode topic (.ok payload) with
      | (.ok _, hub) => (none, hub)
      | (.error e, hub) => (some (.error ErrorCode.internal e.text), hub)
  | .ok .ping => (some .pong, hub)

/-- The operation on the hub that a text frame leads to. -/
def textOps (ctx : WsContext) (text : String) : List (Op Value) :=
  match parse text with
  | .error _ => []
  | .ok (.subscribe topic) =>
    match policy.authorizeSubscribe ctx topic with
    | .error _ => []
    | .ok () => [.subscribe ctx.connectionId topic]
  | .ok (.unsubscribe topic) => [.unsubscribe ctx.connectionId topic]
  | .ok (.publish topic payload) =>
    match policy.authorizePublish ctx topic payload with
    | .error _ => []
    | .ok () => [.publish topic (.ok payload)]
  | .ok .ping => []

end ClientFrames

end ApiBoilerplate
