/-
  Hub/Registry.lean --- which connection each client is using.

  The registry pairs client ids with connections, and keeps the pairing from
  both sides: `sockets` from client to connection and `clients` from
  connection to client.  Registering a connection for a client replaces the
  client's earlier connection (which is returned, as evicted, unless it is the
  same one) and drops the connection's earlier client, so each client has at
  most one connection and each connection at most one client.  Unregistering
  removes exactly the given pair, from each side where it is present.
-/
import Std.Data.TreeMap
import TopicHub.Fault

set_option autoImplicit false

namespace TopicHub.Hub

open Std

/-- The pairing of clients and connections, from both sides. -/
structure Registry where
  /-- each client's connection -/
  sockets : TreeMap String ConnId compare
  /-- each connection's client -/
  clients : TreeMap ConnId String compare

namespace Registry

/-- No client and no connection. -/
def empty : Registry := ⟨∅, ∅⟩

/-- Pairs `conn` with `client`; returns the client's earlier connection when it
was another one. -/
def register (r : Registry) (conn : ConnId) (client : String) : Registry × Option ConnId :=
  -- the connection's earlier client loses it, if it still points to it
  let sockets :=
    match r.clients.get? conn with
    | some previous =>
      if previous ≠ client ∧ r.sockets.get? previous = some conn then r.sockets.erase previous
      else r.sockets
    | none => r.sockets
  let evicted := sockets.get? client
  let sockets := sockets.insert client conn
  let clients :=
    match evicted with
    | some old => if old ≠ conn then r.clients.erase old else r.clients
    | none => r.clients
  let clients := clients.insert conn client
  (⟨sockets, clients⟩, evicted.filter (· ≠ conn))

/-- Removes the pair of `conn` and `client` from each side where it is present;
says whether anything was removed. -/
def unregister (r : Registry) (conn : ConnId) (client : String) : Registry × Bool :=
  let forward := r.sockets.get? client == some conn
  let reverse := r.clients.get? conn == some client
  let sockets := if forward then r.sockets.erase client else r.sockets
  let clients := if reverse then r.clients.erase conn else r.clients
  (⟨sockets, clients⟩, forward || reverse)

/-- The connection of a client. -/
def socketFor (r : Registry) (client : String) : Except HubFault ConnId :=
  match r.sockets.get? client with
  | some c => .ok c
  | none => .error (.socketNotFound client)

/-- The client of a connection. -/
def clientFor (r : Registry) (conn : ConnId) : Except HubFault String :=
  match r.clients.get? conn with
  | some c => .ok c
  | none => .error (.clientIdNotFound conn)

/-- The number of clients with a connection. -/
def size (r : Registry) : Nat := r.sockets.size

/-- No client has a connection. -/
def isEmpty (r : Registry) : Bool := r.sockets.isEmpty

end Registry

end TopicHub.Hub
