import ApiBoilerplate.Uuid

/-!
# Frames of the WebSocket transport

Frames between a client and the server, errors of the hub, and frames relayed
between instances. JSON values are opaque here, so they are a type parameter;
encoding and parsing belong to the JSON library and are passed in where needed.
-/

namespace ApiBoilerplate

abbrev ConnectionId := Uuid
abbrev Topic := String
abbrev ByteString := String

inductive WsError where
  | serialization (error : String)
  | connectionLimit (limit : Nat)
  | topicLimit (limit : Nat)
  | unknownConnection
  deriving DecidableEq, Repr

def WsError.text : WsError → String
  | .serialization e => "Failed to serialise websocket payload: " ++ e
  | .connectionLimit limit =>
    "Connection limit reached (" ++ toString limit ++ " connections on this instance)"
  | .topicLimit limit =>
    "Subscription limit reached (" ++ toString limit ++ " topics per connection)"
  | .unknownConnection => "Connection is no longer registered"

inductive ClientMessage (Value : Type) where
  | subscribe (topic : Topic)
  | unsubscribe (topic : Topic)
  | publish (topic : Topic) (payload : Value)
  | ping

inductive ServerMessage (Value : Type) where
  | welcome (connectionId : Uuid) (userId : Option Uuid) (heartbeatIntervalSeconds : UInt64)
  | subscribed (topic : Topic)
  | unsubscribed (topic : Topic)
  | event (topic : Topic) (payload : Value)
  | pong
  | error (code message : String)

namespace ErrorCode
def badRequest : String := "BAD_REQUEST"
def forbidden : String := "FORBIDDEN"
def limitExceeded : String := "LIMIT_EXCEEDED"
def internal : String := "INTERNAL"
end ErrorCode

inductive ClusterScope where
  | topic
  | user (userId : Uuid)
  | all
  deriving DecidableEq, Repr

/-- One event relayed between instances; `node` is the instance it came from. -/
structure ClusterFrame (Value : Type) where
  node : Uuid
  scope : ClusterScope
  topic : Topic
  payload : Value
  deriving DecidableEq

end ApiBoilerplate
