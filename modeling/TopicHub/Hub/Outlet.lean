/-
  Hub/Outlet.lean --- the sending end of a connection.

  The frames for a connection go into a queue that the connection's writer
  drains; sending only adds to the queue and never waits.  A connection is
  available while it is not marked closed and its writer still reads the
  queue; a frame sent after the writer stopped reading is refused with
  `connectionClosed`.  Identities come from an `IdSupply`, which never hands
  out the same identity twice.
-/
import TopicHub.Hub.Broker

set_option autoImplicit false

namespace TopicHub.Hub

/-- A source of connection identities: the count of those handed out. -/
structure IdSupply where
  given : Nat

/-- A supply that has handed out nothing. -/
def IdSupply.start : IdSupply := ⟨0⟩

/-- A new identity, and the supply after it. -/
def IdSupply.fresh (s : IdSupply) : ConnId × IdSupply :=
  (⟨"conn-" ++ toString s.given⟩, ⟨s.given + 1⟩)

/-- The sending end of a connection. -/
structure Outlet where
  id : ConnId
  /-- the transport marked the connection closed -/
  markedClosed : Bool
  /-- the connection's writer still reads the queue -/
  reading : Bool
  /-- frames not yet read by the writer, oldest first -/
  queue : List String

namespace Outlet

/-- A connection with a fresh identity, open and read. -/
def new (id : ConnId) : Outlet := ⟨id, false, true, []⟩

/-- The transport saw the connection's writer stop. -/
def markClosed (o : Outlet) : Outlet := { o with markedClosed := true }

/-- The writer stops reading the queue. -/
def stopReading (o : Outlet) : Outlet := { o with reading := false }

/-- The connection may be sent frames. -/
def isAvailable (o : Outlet) : Bool := !o.markedClosed && o.reading

/-- Sends a text frame: it is queued, or refused when nothing reads the queue. -/
def send (o : Outlet) (text : String) : Except HubFault Outlet :=
  if o.reading then .ok { o with queue := o.queue ++ [text] } else .error (.connectionClosed o.id)

/-- The writer takes the oldest frame. -/
def take? (o : Outlet) : Option (String × Outlet) :=
  match o.queue with
  | [] => none
  | t :: rest => some (t, { o with queue := rest })

/-- What the connection says when the hub uses it. -/
def link (o : Outlet) : Link := ⟨o.isAvailable, o.reading⟩

end Outlet

end TopicHub.Hub
