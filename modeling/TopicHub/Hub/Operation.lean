/-
  Hub/Operation.lean --- the calls a broker answers, as data.

  Every call the hub makes on its broker is an `Op`: a connection opened or
  closed for a client, or a `Request` that opens and closes nothing (joining
  or leaving a topic, a broadcast, a lookup).  `Broker.perform` applies one
  call and `Broker.run` a sequence of them, in order.  A broadcast and the
  lookups only read the broker, so they leave it as it was; what they answer
  is given by `Broker.broadcast` and the lookups themselves.
-/
import TopicHub.Hub.Broker

set_option autoImplicit false

namespace TopicHub.Hub

open TopicHub.Json

/-- A call on the broker that opens and closes no connection. -/
inductive Request where
  /-- a member joins a topic -/
  | addToTopic (topic member : String)
  /-- a member leaves a topic -/
  | removeFromTopic (topic member : String)
  /-- a payload is sent to the members of a topic, written from the map value
  `toValue` builds -/
  | broadcast {α : Type} (links : ConnId → Link) (topic : String) (toValue : α → Except Mismatch Json)
      (payload : α)
  /-- the connection of a client -/
  | socketFor (client : String)
  /-- the client of a connection -/
  | clientFor (conn : ConnId)
  /-- the topics of a member -/
  | topicsFor (member : String)
  /-- the members of a topic -/
  | membersFor (topic : String)

/-- A call on the broker. -/
inductive Op where
  /-- a connection was opened for a client -/
  | openConnection (conn : ConnId) (client : String)
  /-- a connection of a client was closed -/
  | closeConnection (conn : ConnId) (client : String)
  /-- any other call -/
  | request (r : Request)

namespace Broker

/-- The broker after answering a request. -/
def serve (b : Broker) : Request → Broker
  | .addToTopic topic member => (b.addToTopic topic member).1
  | .removeFromTopic topic member => (b.removeFromTopic topic member).1
  | .broadcast .. | .socketFor _ | .clientFor _ | .topicsFor _ | .membersFor _ => b

/-- The broker after a call. -/
def perform (b : Broker) : Op → Broker
  | .openConnection conn client => (b.openConnection conn client).1
  | .closeConnection conn client => (b.closeConnection conn client).1
  | .request r => b.serve r

/-- The broker after each call of `ops`, in order. -/
def run (b : Broker) (ops : List Op) : Broker := ops.foldl perform b

/-- A relation between brokers and the states of an abstract machine that
every call keeps, taking both sides through the same call, holds after every
run of calls. -/
theorem run_simulates {α : Type} (rel : Broker → α → Prop) (next : α → Op → α)
    (hstep : ∀ b a op, rel b a → rel (b.perform op) (next a op)) (ops : List Op) :
    ∀ (b : Broker) (a : α), rel b a → rel (b.run ops) (ops.foldl next a) := by
  induction ops with
  | nil => exact fun _ _ h => h
  | cons op rest ih => exact fun b a h => ih (b.perform op) (next a op) (hstep b a op h)

end Broker

end TopicHub.Hub
