/-
  Fault.lean --- the faults of the hub.

  A client or connection that is not registered, a connection that no longer
  takes frames, a metric that readings do not have, and a payload that cannot
  be written as a frame.  `HubFault.message` gives each its text.
-/

set_option autoImplicit false

namespace TopicHub

/-- The identity of a connection, as its text. -/
structure ConnId where
  text : String
  deriving DecidableEq, Repr, Hashable

instance : Ord ConnId := ⟨fun a b => compare a.text b.text⟩

/-- What went wrong in the hub. -/
inductive HubFault where
  /-- no connection is registered for the client -/
  | socketNotFound (client : String)
  /-- no client is registered for the connection -/
  | clientIdNotFound (conn : ConnId)
  /-- the connection no longer takes frames -/
  | connectionClosed (conn : ConnId)
  /-- readings have no such metric -/
  | unknownMetric (metric : String)
  /-- the payload could not be written as a frame -/
  | serialization (detail : String)
  deriving DecidableEq, Repr

/-- The text of a fault. -/
def HubFault.message : HubFault → String
  | .socketNotFound client => "Could not find socket for clientId: " ++ client
  | .clientIdNotFound conn => "Could not find clientId for socket: " ++ conn.text
  | .connectionClosed conn => "connection " ++ conn.text ++ " is closed"
  | .unknownMetric metric => "Unknown metric: " ++ metric
  | .serialization detail => "failed to serialize payload: " ++ detail

/-- The fault says that a lookup found nothing. -/
def HubFault.isNotFound : HubFault → Bool
  | .socketNotFound _ | .clientIdNotFound _ => true
  | _ => false

end TopicHub
