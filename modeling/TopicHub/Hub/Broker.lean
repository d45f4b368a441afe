/-
  Hub/Broker.lean --- connections, topics, and frames sent to a topic.

  The broker holds the registry of connections and the topic index.  Opening
  and closing connections changes only the registry; joining and leaving
  topics changes only the index.

  A broadcast takes a payload of any type with the serializer that builds
  its map value, writes it as a frame (`Naming.camelCaseJson`) and hands the
  frame to the registered connection of each member of the topic whose
  connection is available; a topic without members sends nothing and does not
  write the payload at all, so a payload that cannot be written is no fault
  there.  What a connection says when used is the caller's `Link`; a
  broadcast reports each frame handed over and whether it was taken, and
  changes nothing in the broker.
-/
import TopicHub.Hub.Registry
import TopicHub.Hub.Topics
import TopicHub.Naming.CamelCase

set_option autoImplicit false

namespace TopicHub.Hub

open TopicHub.Json

/-- What a connection says when the hub uses it. -/
structure Link where
  /-- it may be sent frames -/
  available : Bool
  /-- a frame sent to it is taken -/
  accepts : Bool

/-- A frame handed to a connection, and whether the connection took it. -/
structure Send where
  conn : ConnId
  text : String
  accepted : Bool

/-- The number of frames that were taken. -/
def delivered (sends : List Send) : Nat := (sends.filter (·.accepted)).length

/-- The registry of connections and the topic index. -/
structure Broker where
  registry : Registry
  topics : TopicIndex

namespace Broker

/-- No connections and no topics. -/
def empty : Broker := ⟨Registry.empty, TopicIndex.empty⟩

/-- A connection was opened for a client; returns the connection it replaced. -/
def openConnection (b : Broker) (conn : ConnId) (client : String) : Broker × Option ConnId :=
  let (r, evicted) := b.registry.register conn client
  ({ b with registry := r }, evicted)

/-- A connection of a client was closed; says whether it was registered. -/
def closeConnection (b : Broker) (conn : ConnId) (client : String) : Broker × Bool :=
  let (r, removed) := b.registry.unregister conn client
  ({ b with registry := r }, removed)

/-- A member joins a topic. -/
def addToTopic (b : Broker) (topic member : String) : Broker × MembershipChange :=
  let (ix, change) := b.topics.add topic member
  ({ b with topics := ix }, change)

/-- A member leaves a topic. -/
def removeFromTopic (b : Broker) (topic member : String) : Broker × MembershipChange :=
  let (ix, change) := b.topics.remove topic member
  ({ b with topics := ix }, change)

/-- A client joins each topic, in order. -/
def subscribe (b : Broker) (client : String) (topics : List String) : Broker :=
  topics.foldl (fun b t => (b.addToTopic t client).1) b

/-- A client leaves each topic, in order. -/
def unsubscribe (b : Broker) (client : String) (topics : List String) : Broker :=
  topics.foldl (fun b t => (b.removeFromTopic t client).1) b

/-- The frames a broadcast of `text` to `members` hands over: one to the
registered connection of each member whose connection is available. -/
def fanOut (b : Broker) (links : ConnId → Link) (text : String) (members : List String) : List Send :=
  members.filterMap fun m =>
    match b.registry.sockets.get? m with
    | some c => let l := links c; if l.available then some ⟨c, text, l.accepts⟩ else none
    | none => none

/-- Sends `payload` to every member of `topic`, written as a frame of the map
value `toValue` builds. -/
def broadcast {α : Type} (b : Broker) (links : ConnId → Link) (topic : String)
    (toValue : α → Except Mismatch Json) (payload : α) : Except HubFault (List Send) :=
  let members := b.topics.membersOf topic
  if members.isEmpty then .ok []
  else
    match Naming.camelCaseJson toValue payload with
    | .error m => .error (.serialization m.message)
    | .ok text => .ok (b.fanOut links text members.toList)

end Broker

end TopicHub.Hub
