/-
  Hub/Journal.lean --- what the broker logs.

  Joining or leaving a topic logs, at debug level, the change when there was
  one and then the current state: every topic with its members, as the
  program's debug form writes a map of sets.  A broadcast to a topic without
  members warns that there is no such topic; otherwise each frame taken is
  logged at debug level and each frame refused is warned about.  Each event
  is its level and its line: the message, then its fields as `name=value`.
-/
import TopicHub.Hub.Broker
import TopicHub.Logging.Level
import TopicHub.Text.Debug

set_option autoImplicit false

namespace TopicHub.Hub

open TopicHub.Logging
open TopicHub.Json

/-- A logged event: its level and line. -/
abbrev LogEvent := Level × String

/-- A set of names in the debug form. -/
def debugSet (xs : List String) : String :=
  "\x7b" ++ ", ".intercalate (xs.map Text.debugQuote) ++ "\x7d"

/-- The topics of an index with their members, in the debug form of a map. -/
def debugTopics (ix : TopicIndex) : String :=
  "\x7b" ++ ", ".intercalate (ix.topicsSnapshot.map fun (t, ms) => Text.debugQuote t ++ ": " ++ debugSet ms) ++ "\x7d"

/-- The events of a change of membership, given the index after it. -/
def membershipEvents (verb : String) (topic member : String) (change : MembershipChange) (after : TopicIndex) :
    List LogEvent :=
  (if change.changed then
    [(.debug, verb ++ " topic_id=" ++ Text.debugQuote topic ++ " member_id=" ++ Text.debugQuote member)]
  else []) ++
  [(.debug, "Current state: " ++ debugTopics after ++ " topics=" ++ toString change.stats.topics ++
    " members=" ++ toString change.stats.members)]

namespace Broker

/-- A member joins a topic, with the events logged. -/
def addToTopicLogged (b : Broker) (topic member : String) : Broker × MembershipChange × List LogEvent :=
  let (b', change) := b.addToTopic topic member
  (b', change, membershipEvents "Added member to topic" topic member change b'.topics)

/-- A member leaves a topic, with the events logged. -/
def removeFromTopicLogged (b : Broker) (topic member : String) : Broker × MembershipChange × List LogEvent :=
  let (b', change) := b.removeFromTopic topic member
  (b', change, membershipEvents "Removed member from topic" topic member change b'.topics)

/-- The events of a broadcast to `topic` that handed over `sends`. -/
def broadcastEvents (b : Broker) (topic : String) (sends : List Send) : List LogEvent :=
  if (b.topics.membersOf topic).isEmpty then
    [(.warn, "No topic found: " ++ topic ++ " topic_id=" ++ Text.debugQuote topic)]
  else
    sends.map fun s =>
      let member := match b.registry.clientFor s.conn with
        | .ok m => m
        | .error _ => ""
      if s.accepted then (.debug, "Sent message to client " ++ member ++ " topic_id=" ++ Text.debugQuote topic)
      else (.warn, "Failed to send message: " ++ (HubFault.connectionClosed s.conn).message ++
        " topic_id=" ++ Text.debugQuote topic ++ " client_id=" ++ member)

/-- Sends `payload` to every member of `topic`, with the events logged. -/
def broadcastLogged {α : Type} (b : Broker) (links : ConnId → Link) (topic : String)
    (toValue : α → Except Mismatch Json) (payload : α) : Except HubFault (List Send) × List LogEvent :=
  match b.broadcast links topic toValue payload with
  | .ok sends => (.ok sends, b.broadcastEvents topic sends)
  | .error f => (.error f, [])

end Broker

end TopicHub.Hub
