/-
  Protocol/Message.lean --- the messages between clients and the hub.

  A client sends one of six messages; the hub answers a subscription change
  with a confirmation and a bad message with an error.  On the wire a message
  is a JSON object whose `type` member names it, followed by its fields in
  order; a measurement's fields stand beside `type` directly.

  Reading a message (`ClientMessage.parse`, `ServerMessage.parse`) checks the
  `type` member as soon as it is read, buffers the other members, and then
  reads the fields from them; a message without fields accepts and ignores any
  members.
-/
import TopicHub.Json.Read
import TopicHub.Telemetry.Codec

set_option autoImplicit false

namespace TopicHub.Protocol

open TopicHub.Json
open TopicHub.Telemetry

/-- A message from a client. -/
inductive ClientMessage where
  | subscribe (topics : List String)
  | unsubscribe (topics : List String)
  | measurement (reading : Measurement)
  | clearData
  | changeInterval (interval : Nat)
  | updateThresholds (thresholds : List Threshold)

/-- A message from the hub to a client. -/
inductive ServerMessage where
  | subscribed (topics : List String)
  | unsubscribed (topics : List String)
  | error (message : String)

/-- The kinds of client message. -/
inductive ClientKind where
  | subscribe
  | unsubscribe
  | measurement
  | clearData
  | changeInterval
  | updateThresholds
  deriving DecidableEq, Repr

/-- The name of a kind on the wire. -/
def ClientKind.name : ClientKind → String
  | .subscribe => "subscribe"
  | .unsubscribe => "unsubscribe"
  | .measurement => "measurement"
  | .clearData => "clear_data"
  | .changeInterval => "change_interval"
  | .updateThresholds => "update_thresholds"

/-- All kinds, in the order they are listed. -/
def ClientKind.all : List ClientKind :=
  [.subscribe, .unsubscribe, .measurement, .clearData, .changeInterval, .updateThresholds]

/-- The kind a name on the wire stands for. -/
def ClientKind.ofName (name : String) : Except Mismatch ClientKind :=
  variantNamed ClientKind.all ClientKind.name name

/-- The kind of a client message. -/
def ClientMessage.kind : ClientMessage → ClientKind
  | .subscribe _ => .subscribe
  | .unsubscribe _ => .unsubscribe
  | .measurement _ => .measurement
  | .clearData => .clearData
  | .changeInterval _ => .changeInterval
  | .updateThresholds _ => .updateThresholds

/-- A client message as JSON. -/
def ClientMessage.toJson (m : ClientMessage) : Json :=
  .obj <| ("type", .str m.kind.name) ::
    match m with
    | .subscribe ts | .unsubscribe ts => [("topics", .ofStrings ts)]
    | .measurement r => r.members
    | .clearData => []
    | .changeInterval n => [("interval", .num (.unsigned n))]
    | .updateThresholds ts => [("thresholds", .arr (ts.map Threshold.toJson))]

/-- The kinds of hub message. -/
inductive ServerKind where
  | subscribed
  | unsubscribed
  | error
  deriving DecidableEq, Repr

/-- The name of a kind on the wire. -/
def ServerKind.name : ServerKind → String
  | .subscribed => "subscribed"
  | .unsubscribed => "unsubscribed"
  | .error => "error"

/-- All kinds, in the order they are listed. -/
def ServerKind.all : List ServerKind := [.subscribed, .unsubscribed, .error]

/-- The kind a name on the wire stands for. -/
def ServerKind.ofName (name : String) : Except Mismatch ServerKind :=
  variantNamed ServerKind.all ServerKind.name name

/-- The kind of a hub message. -/
def ServerMessage.kind : ServerMessage → ServerKind
  | .subscribed _ => .subscribed
  | .unsubscribed _ => .unsubscribed
  | .error _ => .error

/-- A hub message as JSON. -/
def ServerMessage.toJson (m : ServerMessage) : Json :=
  .obj <| ("type", .str m.kind.name) ::
    match m with
    | .subscribed ts | .unsubscribed ts => [("topics", .ofStrings ts)]
    | .error message => [("message", .str message)]

/-- The text of a client message. -/
def ClientMessage.render (m : ClientMessage) : String := m.toJson.render

/-- The text of a hub message. -/
def ServerMessage.render (m : ServerMessage) : String := m.toJson.render

/-- The fields of a message of kind `k`, read from the buffered rest of it. -/
def ClientKind.body (k : ClientKind) : Decoder ClientMessage := fun rest =>
  match k with
  | .subscribe =>
    ClientMessage.subscribe <$>
      Decoder.oneField "ClientMessage" "Subscribe" "topics" (Decoder.list Decoder.string) rest
  | .unsubscribe =>
    ClientMessage.unsubscribe <$>
      Decoder.oneField "ClientMessage" "Unsubscribe" "topics" (Decoder.list Decoder.string) rest
  | .measurement => ClientMessage.measurement <$> Measurement.decoder .buffered rest
  | .clearData => (fun _ => ClientMessage.clearData) <$> Decoder.noFields rest
  | .changeInterval =>
    ClientMessage.changeInterval <$>
      Decoder.oneField "ClientMessage" "ChangeInterval" "interval" Decoder.u32 rest
  | .updateThresholds =>
    ClientMessage.updateThresholds <$>
      Decoder.oneField "ClientMessage" "UpdateThresholds" "thresholds"
        (Decoder.list (Threshold.decoder .buffered)) rest

/-- How a client message's head is read. -/
def clientTag : TagRule ClientKind :=
  ⟨"type", "internally tagged enum ClientMessage", ClientKind.ofName⟩

/-- Reads a client message from its text. -/
def ClientMessage.parse (text : String) : Except Error ClientMessage :=
  readTagged clientTag ClientKind.body text

/-- The fields of a hub message of kind `k`, read from the buffered rest of it. -/
def ServerKind.body (k : ServerKind) : Decoder ServerMessage := fun rest =>
  match k with
  | .subscribed =>
    ServerMessage.subscribed <$>
      Decoder.oneField "ServerMessage" "Subscribed" "topics" (Decoder.list Decoder.string) rest
  | .unsubscribed =>
    ServerMessage.unsubscribed <$>
      Decoder.oneField "ServerMessage" "Unsubscribed" "topics" (Decoder.list Decoder.string) rest
  | .error => ServerMessage.error <$> Decoder.oneField "ServerMessage" "Error" "message" Decoder.string rest

/-- How a hub message's head is read. -/
def serverTag : TagRule ServerKind :=
  ⟨"type", "internally tagged enum ServerMessage", ServerKind.ofName⟩

/-- Reads a hub message from its text. -/
def ServerMessage.parse (text : String) : Except Error ServerMessage :=
  readTagged serverTag ServerKind.body text

end TopicHub.Protocol
