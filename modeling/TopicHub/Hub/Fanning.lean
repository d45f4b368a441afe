/-
  Hub/Fanning.lean --- a broadcast taken one member at a time.

  `Broker.broadcast` answers a broadcast as one call.  Taken as it runs, a
  broadcast is a sequence of steps, each made under the lock it needs and
  none held in between: the members of the topic are read once
  (`Broker.startBroadcast`), and then each member has a turn in which its
  connection is looked up in the registry as it is at that moment, checked
  for availability and handed the frame (`Fanning.advance`).  Between any two
  of these steps the broker may answer any other call.

  A `Turn` is either such a call or the broadcast's next member turn; a list
  of turns is one interleaving, and `Broker.interleave` runs it from a broker
  and a broadcast under way.  The calls among the turns, in order, are
  `Turn.calls`.
-/
import TopicHub.Hub.Operation

set_option autoImplicit false

namespace TopicHub.Hub

open TopicHub.Json

/-- A broadcast under way: the frame, the members still to be visited, the
frames handed over so far, and how many of them were taken. -/
structure Fanning where
  text : String
  pending : List String
  sent : List Send
  count : Nat

namespace Broker

/-- The frame one member's turn hands over: to the member's registered
connection, when it is available. -/
def sendTo (b : Broker) (links : ConnId → Link) (text : String) (member : String) : Option Send :=
  match b.registry.sockets.get? member with
  | some c => let l := links c; if l.available then some ⟨c, text, l.accepts⟩ else none
  | none => none

/-- The start of a broadcast: the members of the topic are read once; a topic
without members ends the broadcast at once, and otherwise the payload is
written as a frame, from the map value `toValue` builds, before any member is
visited. -/
def startBroadcast {α : Type} (b : Broker) (topic : String) (toValue : α → Except Mismatch Json)
    (payload : α) : Except HubFault Fanning :=
  let members := b.topics.membersOf topic
  if members.isEmpty then .ok ⟨"", [], [], 0⟩
  else
    match Naming.camelCaseJson toValue payload with
    | .error m => .error (.serialization m.message)
    | .ok text => .ok ⟨text, members.toList, [], 0⟩

end Broker

namespace Fanning

/-- The next member's turn, against the broker as it is now: the member leaves
the pending list, and its frame, if any, is handed over and counted when
taken.  A broadcast with no member left is over and stays as it is. -/
def advance (f : Fanning) (b : Broker) (links : ConnId → Link) : Fanning :=
  match f.pending with
  | [] => f
  | m :: rest =>
    match b.sendTo links f.text m with
    | some s =>
      { f with pending := rest, sent := f.sent ++ [s],
               count := if s.accepted then f.count + 1 else f.count }
    | none => { f with pending := rest }

end Fanning

/-- One step of an interleaving: another call on the broker, or the next
member turn of the broadcast, made with what the connections say then. -/
inductive Turn where
  | call (op : Op)
  | next (links : ConnId → Link)

namespace Turn

/-- The call a turn makes on the broker, if it is one. -/
def op? : Turn → Option Op
  | .call op => some op
  | .next _ => none

/-- The calls among the turns, in order. -/
def calls (turns : List Turn) : List Op := turns.filterMap op?

/-- The broker and the broadcast after one turn; each call is applied whole. -/
def apply : Broker × Fanning → Turn → Broker × Fanning
  | (b, f), .call op => (b.perform op, f)
  | (b, f), .next links => (b, f.advance b links)

end Turn

/-- The broker and the broadcast after each turn of an interleaving, in order. -/
def Broker.interleave (b : Broker) (f : Fanning) (turns : List Turn) : Broker × Fanning :=
  turns.foldl Turn.apply (b, f)

end TopicHub.Hub
