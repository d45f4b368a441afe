/-
  Net/Dial.lean --- opening connections in a given network.

  `Network` says what the surroundings answer when a program connects to a
  host or listens on it.  `Network.isolated` has no route anywhere and no
  name service: a host that does not resolve by itself (`Net/Address`) fails
  to resolve, connecting to any address fails with "network is unreachable",
  and any address can be listened on.

  `dialSocket` opens a WebSocket client connection to a URL the way a
  WebSocket client library does: the URL must be a URI with a host, the port
  is the URI's own or the scheme's (`ws` 80, `wss` 443), and only then is a
  TCP connection tried.  Each step names its own fault.
-/
import TopicHub.Net.Uri
import TopicHub.Net.Address

set_option autoImplicit false

namespace TopicHub.Net

/-- An error an operating-system call ends with. -/
inductive OsError where
  | networkUnreachable
  | nameResolution
  deriving DecidableEq, Repr

/-- The text of an error, with its number where it has one. -/
def OsError.message : OsError → String
  | .networkUnreachable => "Network is unreachable (os error 101)"
  | .nameResolution => "failed to lookup address information: Temporary failure in name resolution"

/-- What the surroundings of a program answer to its socket calls. -/
structure Network where
  /-- connecting to a host and port -/
  connect : String → Nat → Except OsError Unit
  /-- listening on a host and port -/
  listen : String → Nat → Except OsError Unit

/-- A network with no route anywhere and no name service. -/
def Network.isolated : Network where
  connect host _ := if (resolve? host).isSome then .error .networkUnreachable else .error .nameResolution
  listen host _ := if (resolve? host).isSome then .ok () else .error .nameResolution

/-- Why a URL could not be opened as a WebSocket. -/
inductive DialFault where
  /-- the URL is no URI -/
  | format (f : UriFault)
  /-- the URI has no authority -/
  | noHostName
  /-- the authority has nothing after its user information -/
  | emptyHostName
  /-- no port, and a scheme other than `ws` and `wss` -/
  | unsupportedScheme
  /-- the TCP connection failed -/
  | io (e : OsError)
  deriving DecidableEq, Repr

/-- The text of a fault. -/
def DialFault.message : DialFault → String
  | .format f => "HTTP format error: " ++ f.message
  | .noHostName => "URL error: No host name in the URL"
  | .emptyHostName => "URL error: URL contains empty host name"
  | .unsupportedScheme => "URL error: URL scheme not supported"
  | .io e => "IO error: " ++ e.message

/-- The host an authority names for the request: what follows its first `@`. -/
def requestHost (authority : String) : String :=
  match authority.splitOn "@" with
  | [whole] => whole
  | _ :: rest => "@".intercalate rest
  | [] => authority

/-- The host to connect to, as the URI writes it (an IPv6 address in its
brackets). -/
def connectHost (u : Uri) : Option String := u.host?

/-- The port to connect to: the URI's, else the scheme's. -/
def connectPort (u : Uri) : Option Nat :=
  match u.port? with
  | some p => some p
  | none =>
    match u.scheme with
    | some "wss" => some 443
    | some "ws" => some 80
    | _ => none

/-- Opens a WebSocket connection to a URL: what fails first, or the host and
port a TCP connection was made to. -/
def dialSocket (net : Network) (url : String) : Except DialFault (String × Nat) := do
  let u ← (Uri.parse url).mapError .format
  if u.authority.isEmpty then throw .noHostName
  if (requestHost u.authority).isEmpty then throw .emptyHostName
  let some host := connectHost u | throw .noHostName
  let some port := connectPort u | throw .unsupportedScheme
  (net.connect host port).mapError .io
  return (host, port)

end TopicHub.Net
