/-
  Hub/Server.lean --- the hub as its clients see it.

  A `Server` is the broker together with the dashboard.  Its operations change
  the state and say which frames went to which connections: the dashboard's
  changes are broadcast on the dashboard topic, and a client's message is
  handled as it asks.

  Handling a message: subscribing or unsubscribing changes the topic index for
  each topic in order and is confirmed to the sender with the same list; a
  measurement is stored and the window broadcast; clearing, a new interval and
  new thresholds are applied and broadcast.  A message that cannot be read, or
  thresholds that are refused, get an error reply.  A reply goes to the
  sender's connection whether or not it is available.
-/
import TopicHub.Hub.Broker
import TopicHub.Hub.Dashboard
import TopicHub.Protocol.Message

set_option autoImplicit false

namespace TopicHub.Hub

open TopicHub.Telemetry
open TopicHub.Protocol

/-- The broker and the dashboard. -/
structure Server where
  broker : Broker
  dashboard : Dashboard

/-- What an operation of the server did: the frames it handed over, or the
fault that stopped it. -/
abbrev Outcome := Except HubFault (List Send)

namespace Server

/-- A server without connections, topics, readings or thresholds, keeping
`capacity` recent readings. -/
def empty (capacity : Nat) : Server := ⟨Broker.empty, Dashboard.empty capacity⟩

/-- Broadcasts a dashboard event. -/
def announce (s : Server) (links : ConnId → Link) (e : DashboardEvent) : Outcome :=
  s.broker.broadcast links dashboardTopic DashboardEvent.toValue e

/-- Stores a reading under `id`, received at `at_`, and broadcasts the window. -/
def recordMeasurement (s : Server) (links : ConnId → Link) (m : Measurement) (id : String)
    (at_ : Timestamp) : Server × Outcome :=
  let (d, e) := s.dashboard.record (m.toLog id at_)
  let s' := { s with dashboard := d }
  (s', s'.announce links e)

/-- Drops all readings and broadcasts that. -/
def clearData (s : Server) (links : ConnId → Link) : Server × Outcome :=
  let (d, e) := s.dashboard.clear
  let s' := { s with dashboard := d }
  (s', s'.announce links e)

/-- Broadcasts a new reporting interval. -/
def changeInterval (s : Server) (links : ConnId → Link) (interval : Nat) : Outcome :=
  s.announce links (.intervalChanged interval)

/-- Puts thresholds in force and broadcasts them; a refused batch changes
nothing, and a stored batch whose evaluation fails is not broadcast. -/
def updateThresholds (s : Server) (links : ConnId → Link) (batch : List Threshold) :
    Server × Outcome :=
  let (d, e) := s.dashboard.updateThresholds batch
  let s' := { s with dashboard := d }
  match e with
  | .error f => (s', .error f)
  | .ok e => (s', s'.announce links e)

/-- A reply to the sender. -/
def reply (links : ConnId → Link) (conn : ConnId) (m : ServerMessage) : Send :=
  ⟨conn, m.render, (links conn).accepts⟩

/-- The frames of an outcome, or an error reply with `text` when it failed. -/
def sentOr (links : ConnId → Link) (conn : ConnId) (o : Outcome) (text : HubFault → String) :
    List Send :=
  match o with
  | .ok sends => sends
  | .error f => [reply links conn (.error (text f))]

/-- Handles a message from the client `client` on connection `conn`.  `id`
and `at_` are given to a reading it stores. -/
def handle (s : Server) (links : ConnId → Link) (conn : ConnId) (client : String) (text : String)
    (id : String) (at_ : Timestamp) : Server × List Send :=
  match ClientMessage.parse text with
  | .error e => (s, [reply links conn (.error ("invalid message: " ++ e.message))])
  | .ok (.subscribe topics) =>
    ({ s with broker := s.broker.subscribe client topics }, [reply links conn (.subscribed topics)])
  | .ok (.unsubscribe topics) =>
    ({ s with broker := s.broker.unsubscribe client topics }, [reply links conn (.unsubscribed topics)])
  | .ok (.measurement m) =>
    let (s', o) := s.recordMeasurement links m id at_
    (s', sentOr links conn o fun _ => "failed to broadcast measurement")
  | .ok .clearData =>
    let (s', o) := s.clearData links
    (s', sentOr links conn o fun _ => "failed to broadcast data deletion")
  | .ok (.changeInterval n) =>
    (s, sentOr links conn (s.changeInterval links n) fun _ => "failed to broadcast interval change")
  | .ok (.updateThresholds ts) =>
    let (s', o) := s.updateThresholds links ts
    (s', sentOr links conn o fun f => "failed to update thresholds: " ++ f.message)

end Server

end TopicHub.Hub
