/-
  Hub/Session.lean --- the hub serving its WebSocket connections.

  Every accepted connection runs a handler of its own.  After the handshake
  the handler takes the client id that the request's query names, or makes
  one up, gives the connection a fresh identity and opens it in the broker.
  It then reads frames, handling each text frame as a client message and
  skipping binary, ping and pong frames, until a close frame, a read error or
  the end of the stream; and then it closes the connection in the broker,
  whichever way the reading ended.  A connection whose handshake fails never
  reaches the broker, so it has no activity here.

  Handlers run concurrently, so the hub moves one `Activity` at a time: a
  connection arrives, a handler reads what its connection yields next, or
  some other caller makes a request of the broker.  `Gateway.step` reports the
  sessions it opens and closes, as the hub logs them.
-/
import TopicHub.Hub.Operation
import TopicHub.Hub.Outlet
import TopicHub.Hub.Server
import TopicHub.Protocol.Handshake

set_option autoImplicit false

namespace TopicHub.Hub

open TopicHub.Telemetry
open TopicHub.Protocol

/-- What reading a connection yields next. -/
inductive Incoming where
  /-- a text frame -/
  | text (text : String)
  /-- a close frame -/
  | close
  /-- a binary, ping or pong frame -/
  | skipped
  /-- a read error -/
  | failure

/-- A handler past its handshake: its connection and the client id it serves. -/
structure Session where
  conn : ConnId
  client : String
  deriving DecidableEq, Repr

/-- A session opened or closed, as the hub logs it. -/
inductive Lifecycle where
  | opened (s : Session)
  | closed (s : Session)
  deriving DecidableEq, Repr

/-- The session a log line is about. -/
def Lifecycle.session : Lifecycle → Session
  | .opened s | .closed s => s

namespace Session

/-- One pass of the read loop over `next` (none at the end of the stream):
the server after handling it, or none when the loop ends. -/
def receive (sess : Session) (s : Server) (links : ConnId → Link) (id : String) (at_ : Timestamp) :
    Option Incoming → Option Server
  | some (.text text) => some (s.handle links sess.conn sess.client text id at_).1
  | some .skipped => some s
  | some .close | some .failure | none => none

end Session

/-- The hub as its connections meet it: the server, the supply of connection
identities, and the handlers running, oldest first. -/
structure Gateway where
  server : Server
  supply : IdSupply
  live : List Session

/-- What happens next in the hub. -/
inductive Activity where
  /-- a connection completed its handshake; `query` is its request's query and
  `drawn` the identifier drawn for it in case the query names no client -/
  | arrive (query : Option String) (drawn : String)
  /-- the handler of `conn` read `next`, none at the end of the stream; a
  message is handled with `links`, and a reading it stores gets `id` and `at_` -/
  | read (conn : ConnId) (next : Option Incoming) (links : ConnId → Link) (id : String)
      (at_ : Timestamp)
  /-- another caller's request to the broker -/
  | call (r : Request)

namespace Gateway

/-- The hub before any connection, keeping `capacity` recent readings. -/
def start (capacity : Nat) : Gateway := ⟨Server.empty capacity, IdSupply.start, []⟩

/-- The client id of a connection: the one its query names, or one made from
`drawn`. -/
def clientOf (query : Option String) (drawn : String) : String :=
  (clientIdFromQuery query).getD ("client-" ++ drawn)

/-- A handler gives its connection a fresh identity and opens it. -/
def connect (h : Gateway) (query : Option String) (drawn : String) : Gateway × List Lifecycle :=
  let (conn, supply) := h.supply.fresh
  let sess : Session := ⟨conn, clientOf query drawn⟩
  let (b, _) := h.server.broker.openConnection sess.conn sess.client
  (⟨{ h.server with broker := b }, supply, h.live ++ [sess]⟩, [.opened sess])

/-- A handler whose read loop ended closes its connection. -/
def disconnect (h : Gateway) (sess : Session) : Gateway × List Lifecycle :=
  let (b, _) := h.server.broker.closeConnection sess.conn sess.client
  (⟨{ h.server with broker := b }, h.supply, h.live.erase sess⟩, [.closed sess])

/-- The hub after one activity, with the sessions it opened or closed. -/
def step (h : Gateway) : Activity → Gateway × List Lifecycle
  | .arrive query drawn => h.connect query drawn
  | .read conn next links id at_ =>
    match h.live.find? (·.conn == conn) with
    | none => (h, [])
    | some sess =>
      match sess.receive h.server links id at_ next with
      | some server => ({ h with server }, [])
      | none => h.disconnect sess
  | .call r => ({ h with server := { h.server with broker := h.server.broker.serve r } }, [])

/-- The hub after each activity in order, with everything it reported. -/
def run (h : Gateway) : List Activity → Gateway × List Lifecycle
  | [] => (h, [])
  | a :: rest =>
    let (h₁, log₁) := h.step a
    let (h₂, log₂) := h₁.run rest
    (h₂, log₁ ++ log₂)

end Gateway

end TopicHub.Hub
