/-
  Suite/Broker.lean --- scenarios of the registry, the topic index and
  broadcasts.

  Each scenario is a `Bool`: it drives the broker from empty and says whether
  every expectation held.  Together they pin down that a client has at most
  one registered connection and a connection at most one client, that the
  two maps of the topic index mirror each other and never keep an empty set,
  that membership outlives connections, and that a broadcast reaches exactly
  the available registered members and writes its payload in camel case.
-/
import TopicHub.Suite.Support

set_option autoImplicit false

namespace TopicHub.Suite

open TopicHub.Hub
open TopicHub.Json

namespace Broker

/-- Opening a connection registers it both ways. -/
def onOpenRegistersClient : Bool :=
  let s := Mock.healthy "socket-1"
  let (b, _) := Hub.Broker.empty.openConnection s.id "client-1"
  okIs (b.registry.socketFor "client-1") s.id && okIs (b.registry.clientFor s.id) "client-1"

/-- Closing the connection removes it both ways. -/
def onCloseRemovesConnection : Bool :=
  let s := Mock.healthy "socket-1"
  let (b, _) := Hub.Broker.empty.openConnection s.id "client-2"
  let (b, _) := b.closeConnection s.id "client-2"
  failsWith (b.registry.socketFor "client-2") HubFault.isNotFound &&
    failsWith (b.registry.clientFor s.id) HubFault.isNotFound &&
    b.registry.isEmpty && b.registry.clients.isEmpty

/-- The fault of an unknown client names it. -/
def socketLookupErrorNamesClient : Bool :=
  failsWith (Hub.Broker.empty.registry.socketFor "ghost-client") fun f =>
    hasText f.message "Could not find socket for clientId" && hasText f.message "ghost-client"

/-- An unknown connection has no client. -/
def clientLookupFailsForUnknownSocket : Bool :=
  let s := Mock.healthy "socket-1"
  failsWith (Hub.Broker.empty.registry.clientFor s.id) (· == .clientIdNotFound s.id)

/-- A second connection of a client replaces the first. -/
def onOpenReplacesOldConnection : Bool :=
  let old := Mock.healthy "old"
  let new := Mock.healthy "new"
  let (b, _) := Hub.Broker.empty.openConnection old.id "client-old"
  let (b, _) := b.openConnection new.id "client-old"
  okIs (b.registry.socketFor "client-old") new.id && !succeeds (b.registry.clientFor old.id) &&
    b.registry.clients.size == 1

/-- Closing a replaced connection leaves its replacement registered. -/
def closeOfEvictedConnectionKeepsNewRegistration : Bool :=
  let old := Mock.healthy "old"
  let new := Mock.healthy "new"
  let (b, _) := Hub.Broker.empty.openConnection old.id "client-x"
  let (b, _) := b.openConnection new.id "client-x"
  let (b, _) := b.closeConnection old.id "client-x"
  okIs (b.registry.socketFor "client-x") new.id && okIs (b.registry.clientFor new.id) "client-x"

/-- A connection opened again for another client leaves the first. -/
def sameSocketReopenedUnderNewIdDropsOldMapping : Bool :=
  let s := Mock.healthy "socket"
  let (b, _) := Hub.Broker.empty.openConnection s.id "first"
  let (b, _) := b.openConnection s.id "second"
  !succeeds (b.registry.socketFor "first") && okIs (b.registry.clientFor s.id) "second"

/-- The two maps of the registry mirror each other. -/
def snapshotsMirrorEachOther : Bool :=
  let a := Mock.healthy "a"
  let c := Mock.healthy "b"
  let (b, _) := Hub.Broker.empty.openConnection a.id "a"
  let (b, _) := b.openConnection c.id "b"
  b.registry.sockets.size == 2 &&
    b.registry.sockets.toList.all fun (client, conn) => b.registry.clients.get? conn == some client

/-- Joining a topic is seen from both sides. -/
def addToTopicTracksMembership : Bool :=
  let (b, _) := Hub.Broker.empty.addToTopic "updates" "client-3"
  (b.topics.topicsOf "client-3").contains "updates" && (b.topics.membersOf "updates").contains "client-3"

/-- Joining twice is joining once. -/
def addToTopicIsIdempotent : Bool :=
  let (b, _) := Hub.Broker.empty.addToTopic "updates" "client-3"
  let (b, _) := b.addToTopic "updates" "client-3"
  (b.topics.membersOf "updates").size == 1 && (b.topics.topicsOf "client-3").size == 1

/-- Leaving a topic is seen from both sides. -/
def removeFromTopicRemovesCleanly : Bool :=
  let (b, _) := Hub.Broker.empty.addToTopic "notifications" "client-4"
  let (b, _) := b.removeFromTopic "notifications" "client-4"
  (b.topics.topicsOf "client-4").isEmpty && (b.topics.membersOf "notifications").isEmpty

/-- A topic whose last member left is gone. -/
def removeLastMemberDropsTopicKey : Bool :=
  let (b, _) := Hub.Broker.empty.addToTopic "news" "client-9"
  let (b, _) := b.removeFromTopic "news" "client-9"
  !b.topics.containsTopic "news" && !(b.topics.topicsSnapshot.any (·.1 == "news"))

/-- A topic stays while it has members. -/
def removeKeepsTopicWhileOtherMembersRemain : Bool :=
  let (b, _) := Hub.Broker.empty.addToTopic "shared-topic" "client-10"
  let (b, _) := b.addToTopic "shared-topic" "client-11"
  let (b, _) := b.removeFromTopic "shared-topic" "client-10"
  let remaining := b.topics.membersOf "shared-topic"
  remaining.contains "client-11" && !remaining.contains "client-10" && b.topics.containsTopic "shared-topic"

/-- A member that left its last topic is gone. -/
def removeLastTopicDropsMemberKey : Bool :=
  let (b, _) := Hub.Broker.empty.addToTopic "weather" "client-12"
  let (b, _) := b.removeFromTopic "weather" "client-12"
  !b.topics.containsMember "client-12" && !(b.topics.membersSnapshot.any (·.1 == "client-12"))

/-- A member stays while it has topics. -/
def removeKeepsMemberWithOtherTopics : Bool :=
  let (b, _) := Hub.Broker.empty.addToTopic "sensors" "client-13"
  let (b, _) := b.addToTopic "humidity" "client-13"
  let (b, _) := b.removeFromTopic "sensors" "client-13"
  let remaining := b.topics.topicsOf "client-13"
  !remaining.contains "sensors" && remaining.contains "humidity" && b.topics.containsMember "client-13"

/-- Leaving what one is not in changes nothing. -/
def removeFromTopicTwiceIsNoop : Bool :=
  let (b, _) := Hub.Broker.empty.addToTopic "dust" "client-14"
  let (b, _) := b.removeFromTopic "dust" "client-14"
  let (b, _) := b.removeFromTopic "dust" "client-14"
  let (b, _) := b.removeFromTopic "never-existed" "nobody"
  b.topics.topicsSnapshot.isEmpty && b.topics.membersSnapshot.isEmpty

/-- Unknown topics and members have empty sets. -/
def unknownLookupsReturnEmptySets : Bool :=
  (Hub.Broker.empty.topics.topicsOf "unknown").isEmpty && (Hub.Broker.empty.topics.membersOf "unknown").isEmpty

/-- Membership is kept while the client's connections come and go, and a
broadcast reaches its current connection only. -/
def membershipSurvivesConnectionChurn : Bool :=
  let first := Mock.healthy "first"
  let second := Mock.healthy "second"
  let member := "client-persistent"
  let joined (b : Hub.Broker) : Bool := (b.topics.topicsOf member).contains "subscribed-topic"
  let (b, _) := Hub.Broker.empty.addToTopic "subscribed-topic" member
  let ok1 := joined b
  let (b, _) := b.openConnection first.id member
  let ok2 := joined b
  let (b, _) := b.closeConnection first.id member
  let ok3 := joined b
  let (b, _) := b.openConnection second.id member
  let ok4 := joined b
  match b.broadcast (linksOf [first, second]) "subscribed-topic" Except.ok (.obj [("Msg", .str "back")]) with
  | .ok sends => ok1 && ok2 && ok3 && ok4 && (sentTo sends first.id).isEmpty && (sentTo sends second.id).length == 1
  | .error _ => false

/-- Joining a topic logs the current state. -/
def addToTopicLogsCurrentState : Bool :=
  let (_, _, events) := Hub.Broker.empty.addToTopicLogged "mutant-topic" "client-8"
  let logs := logText events
  hasText logs "Current state" && hasText logs "mutant-topic"

/-- Joining and leaving each log the current state once. -/
def removeFromTopicLogsCurrentState : Bool :=
  let (b, _, e1) := Hub.Broker.empty.addToTopicLogged "dust" "client-14"
  let (_, _, e2) := b.removeFromTopicLogged "dust" "client-14"
  countText (logText (e1 ++ e2)) "Current state" == 2

/-- Each change of membership reports the counts right after it. -/
def membershipChangesReportCountsOfTheirOwnMutation : Bool :=
  let ix := TopicIndex.empty
  let (ix, c1) := ix.add "dust" "a"
  let (ix, c2) := ix.add "noise" "a"
  let (ix, c3) := ix.add "noise" "a"
  let (ix, c4) := ix.add "noise" "b"
  let (ix, c5) := ix.remove "noise" "a"
  let (ix, c6) := ix.remove "dust" "a"
  let (ix, c7) := ix.remove "dust" "a"
  c1 == ⟨true, ⟨1, 1⟩⟩ && c2.stats == ⟨2, 1⟩ && !c3.changed && c4.stats == ⟨2, 2⟩ &&
    c5.changed && c5.stats == ⟨2, 2⟩ && c6.stats == ⟨1, 1⟩ && !c7.changed && ix.stats == c6.stats

/-- A broadcast reaches an online member. -/
def broadcastSendsIfClientOnline : Bool :=
  let s := Mock.healthy "socket"
  let (b, _) := Hub.Broker.empty.openConnection s.id "client-5"
  let (b, _) := b.addToTopic "broadcast" "client-5"
  match b.broadcast (linksOf [s]) "broadcast" Except.ok (.obj [("Msg", .str "Hello")]) with
  | .ok sends =>
    let sent := sentTo sends s.id
    delivered sends == 1 && sent.length == 1 && sent.all (hasText · "Hello")
  | .error _ => false

/-- A broadcast skips members without a connection or with an unavailable one. -/
def broadcastOnlyReachesAvailableConnectedMembers : Bool :=
  let a := Mock.healthy "a"
  let c := Mock.unavailable "b"
  let (b, _) := Hub.Broker.empty.openConnection a.id "A"
  let (b, _) := b.openConnection c.id "B"
  let b := ["A", "B", "C"].foldl (fun b m => (b.addToTopic "t" m).1) b
  match b.broadcast (linksOf [a, c]) "t" Except.ok (.obj [("n", .num (.unsigned 1))]) with
  | .ok sends => delivered sends == 1 && (sentTo sends a.id).length == 1 && (sentTo sends c.id).isEmpty
  | .error _ => false

/-- A broadcast to a topic nobody is in sends nothing and warns. -/
def broadcastToUnknownTopicWarnsAndSendsNothing : Bool :=
  let s := Mock.healthy "socket"
  let (b, _) := Hub.Broker.empty.openConnection s.id "client-6"
  match b.broadcastLogged (linksOf [s]) "nobody-here" Except.ok (.obj [("x", .num (.unsigned 1))]) with
  | (.ok sends, events) => delivered sends == 0 && (sentTo sends s.id).isEmpty && hasText (logText events) "No topic found"
  | (.error _, _) => false

/-- A refused frame does not keep the others from being sent. -/
def failedSendDoesNotStopOtherMembers : Bool :=
  let broken := Mock.failingOne "broken"
  let healthy := Mock.healthy "healthy"
  let (b, _) := Hub.Broker.empty.openConnection broken.id "broken"
  let (b, _) := b.openConnection healthy.id "healthy"
  let (b, _) := b.addToTopic "t" "broken"
  let (b, _) := b.addToTopic "t" "healthy"
  match b.broadcast (linksOf [broken, healthy]) "t" Except.ok (.obj [("x", .num (.unsigned 1))]) with
  | .ok sends => delivered sends == 1 && (sentTo sends healthy.id).length == 1
  | .error _ => false

/-- A broadcast writes top-level keys in camel case and logs each send. -/
def broadcastUsesCamelCaseAndLogsSend : Bool :=
  let s := Mock.healthy "socket"
  let (b, _) := Hub.Broker.empty.openConnection s.id "client-7"
  let (b, _) := b.addToTopic "alerts" "client-7"
  let alert : Json := .obj [("AlertLevel", .str "High"), ("SensorId", .num (.unsigned 42))]
  match b.broadcastLogged (linksOf [s]) "alerts" Except.ok alert with
  | (.ok sends, events) =>
    let sent := sentTo sends s.id
    sent.length == 1 &&
      sent.all (fun t => hasText t "\"alertLevel\"" && hasText t "\"sensorId\"" &&
        !hasText t "AlertLevel" && !hasText t "SensorId") &&
      hasText (logText events) "Sent message to client client-7"
  | (.error _, _) => false

/-- A payload that cannot be written is a fault and changes nothing. -/
def serializationFailurePropagatesWithoutTouchingState : Bool :=
  let s := Mock.healthy "socket"
  let (b, _) := Hub.Broker.empty.openConnection s.id "client"
  let (b, _) := b.addToTopic "t" "client"
  -- a payload whose serializer refuses it
  let unwritable : Unit → Except Mismatch Json := fun _ => .error (.custom "boom")
  failsWith (b.broadcast (linksOf [s]) "t" unwritable ()) (fun f => match f with
      | .serialization _ => true
      | _ => false) &&
    (b.topics.membersOf "t").contains "client" && succeeds (b.registry.socketFor "client")

/-- Keys in their camel case. -/
def camelCaseConversion : Bool :=
  Naming.toCamelCase "SensorId" == "sensorId" && Naming.toCamelCase "sensor_id" == "sensorId" &&
    Naming.toCamelCase "ID" == "id" && Naming.toCamelCase "URLValue" == "urlValue" &&
    Naming.toCamelCase "eventType" == "eventType" && Naming.toCamelCase "x" == "x"

/-- Keys of nested maps are left as they are. -/
def camelCaseJsonLeavesMapKeysUntouched : Bool :=
  let latest : Json := .obj [("ABC-1", .num (.unsigned 1)), ("Device_A", .num (.unsigned 2)), ("device_a", .num (.unsigned 3))]
  okIs (Naming.camelFrame (.obj [("Latest", latest)])) "\x7b\"latest\":\x7b\"ABC-1\":1,\"Device_A\":2,\"device_a\":3\x7d\x7d"

/-- Nested objects are written as they are. -/
def camelCaseJsonKeepsNestedObjectsAsSerialized : Bool :=
  let payload : Json := .obj [("EventType", .str "Reading"),
    ("Logs", .arr [.obj [("device_id", .str "d1"), ("AirQuality", .num (.unsigned 3))]])]
  match Naming.camelFrame payload with
  | .ok text =>
    match TopicHub.Json.read text with
    | .ok v =>
      let log := ((v.field? "logs").bind Json.getArr?).bind List.head?
      (v.field? "eventType").bind Json.getStr? == some "Reading" &&
        (log.bind (·.field? "device_id")).bind Json.getStr? == some "d1" &&
        (log.bind (·.field? "AirQuality")).bind Json.getNat? == some 3
    | .error _ => false
  | .error _ => false

/-- Two keys with one camel case are refused, naming it. -/
def camelCaseJsonRejectsCollidingFields : Bool :=
  failsWith (Naming.camelFrame (.obj [("Device_A", .num (.unsigned 1)), ("deviceA", .num (.unsigned 2))]))
    fun m => hasText m.message "deviceA"

/-- A payload with colliding keys is sent to nobody. -/
def broadcastOfCollidingFieldsSendsNothing : Bool :=
  let s := Mock.healthy "socket"
  let (b, _) := Hub.Broker.empty.openConnection s.id "client"
  let (b, _) := b.addToTopic "t" "client"
  failsWith (b.broadcast (linksOf [s]) "t" Except.ok (.obj [("SensorId", .num (.unsigned 1)), ("sensor_id", .num (.unsigned 2))]))
    fun f => match f with
      | .serialization _ => true
      | _ => false

/-- Many members joining one topic are all kept. -/
def concurrentAddsAreNotLost : Bool :=
  let b := (List.range 64).foldl (fun b i => (b.addToTopic "t" ("member-" ++ toString i)).1) Hub.Broker.empty
  (b.topics.membersOf "t").size == 64 && b.topics.membersSnapshot.length == 64

/-- After many joins and leaves the two maps of the index mirror each other. -/
def concurrentTasksKeepMapsMirrored : Bool :=
  let step (b : Hub.Broker) (i : Nat) : Hub.Broker :=
    let member := "member-" ++ toString (i % 8)
    let topic := "topic-" ++ toString (i % 3)
    (List.range 50).foldl (fun b _ =>
      let b := (b.addToTopic topic member).1
      let b := (b.removeFromTopic topic member).1
      (b.addToTopic topic member).1) b
  let b := (List.range 32).foldl step Hub.Broker.empty
  let topics := b.topics.topicsSnapshot
  let members := b.topics.membersSnapshot
  topics.all (fun (t, ms) => !ms.isEmpty && ms.all fun m => ((members.lookup m).getD []).contains t) &&
    members.all (fun (m, ts) => !ts.isEmpty && ts.all fun t => ((topics.lookup t).getD []).contains m)

/-- Subscribing joins each topic; unsubscribing leaves each. -/
def subscriptionServiceAppliesEachTopic : Bool :=
  let b := Hub.Broker.empty.subscribe "client-1" ["topicA", "topicB"]
  let ok1 := (b.topics.topicsOf "client-1").size == 2
  let b := b.unsubscribe "client-1" ["topicA"]
  let topics := b.topics.topicsOf "client-1"
  ok1 && !topics.contains "topicA" && topics.contains "topicB"

/-- Subscribing to no topics changes nothing. -/
def subscriptionServiceEmptyListIsNoop : Bool :=
  let b := (Hub.Broker.empty.subscribe "client-3" []).unsubscribe "client-3" []
  b.topics.topicsSnapshot.isEmpty

end Broker

end TopicHub.Suite
