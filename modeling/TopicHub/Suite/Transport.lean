/-
  Suite/Transport.lean --- scenarios of connections, messages, settings and
  logging.

  Messages are handled by the server as they come from one connection, and
  the replies that connection took are read back.  The scenarios that go
  through real sockets first open their WebSocket connections in the network
  they are run in (`Net.dialSocket`); only when that succeeds is the exchange
  itself checked, against the server's model.
-/
import TopicHub.Suite.Support
import TopicHub.Hub.Server
import TopicHub.Hub.Outlet
import TopicHub.Config.Load
import TopicHub.Protocol.Handshake
import TopicHub.Net.Dial

set_option autoImplicit false

namespace TopicHub.Suite

open TopicHub.Hub
open TopicHub.Telemetry
open TopicHub.Protocol
open TopicHub.Json
open TopicHub.Config

namespace Transport

/-- Two new connections have different identities. -/
def connectionNewHasUniqueId : Bool :=
  let (a, supply) := IdSupply.start.fresh
  let (b, _) := supply.fresh
  a != b

/-- A frame sent is queued for the writer. -/
def sendEnqueuesTextFrame : Bool :=
  let o := Outlet.new ⟨"conn"⟩
  o.isAvailable &&
    match o.send "hello" with
    | .ok o' => (o'.take?.map (·.1)) == some "hello"
    | .error _ => false

/-- A connection marked closed is not available. -/
def unavailableAfterMarkClosed : Bool := !(Outlet.new ⟨"conn"⟩).markClosed.isAvailable

/-- Without a writer, a connection is unavailable and refuses frames. -/
def sendToDroppedReceiverFails : Bool :=
  let o := (Outlet.new ⟨"conn"⟩).stopReading
  !o.isAvailable && failsWith (o.send "lost") (· == .connectionClosed o.id)

/-- The default settings. -/
def defaultSettings : Bool :=
  let s := Settings.default
  s.host == "127.0.0.1" && s.port == 8181 && s.recentLogs == 50 && s.level == "info"

/-- Without sources the defaults hold. -/
def loadConfigWithoutSourcesUsesDefaults : Bool := okIs (loadSettings [] []) Settings.default

/-- The configuration file overrides the defaults it names. -/
def loadConfigFromFileOverridesDefaults : Bool :=
  let toml := "\n            [server]\n            host = \"0.0.0.0\"\n            port = 9000\n\n" ++
    "            [dashboard]\n            recent_logs = 10\n        "
  okIs (loadSettings [("config/default.toml", toml)] []) ⟨"0.0.0.0", 9000, 10, "info"⟩

/-- The environment overrides the configuration file. -/
def envOverridesFile : Bool :=
  okIs (loadSettings [("config/default.toml", "[server]\nport = 9000\n")]
    [("AIRHUB__SERVER__PORT", "9100"), ("AIRHUB__LOGGING__LEVEL", "debug")]) ⟨"127.0.0.1", 9100, 50, "debug"⟩

/-- A port that is no number does not load. -/
def invalidEnvValueIsAnError : Bool := !succeeds (loadSettings [] [("AIRHUB__SERVER__PORT", "abc")])

/-- The client id of a query. -/
def clientIdFromQueryCases : Bool :=
  clientIdFromQuery (some "id=abc") == some "abc" && clientIdFromQuery (some "foo=1&id=dash-7") == some "dash-7" &&
    clientIdFromQuery (some "id=") == none && clientIdFromQuery (some "other=1") == none &&
    clientIdFromQuery none == none

/-- The client id of a query is decoded. -/
def clientIdFromQueryIsPercentDecoded : Bool :=
  clientIdFromQuery (some "id=a%20b") == some "a b" && clientIdFromQuery (some "id=a+b") == some "a b" &&
    clientIdFromQuery (some "x=1&id=dash%2F7%26co") == some "dash/7&co"

/-- Client messages on the wire. -/
def clientMessageWireFormat : Bool :=
  let measurement : Json := .obj [("type", .str "measurement"), ("deviceId", .str "dev-1"),
    ("temperature", .num (.float 21.5)), ("humidity", .num (.float 40.0)), ("pressure", .num (.float 1012.0)),
    ("airQuality", .num (.unsigned 1))]
  (match ClientMessage.parse measurement.render with
    | .ok (.measurement m) => m.deviceId == "dev-1"
    | _ => false) &&
  (match ClientMessage.parse "\x7b\"type\":\"clear_data\"\x7d" with
    | .ok .clearData => true
    | _ => false)

/-- The time the scenarios' readings are received at. -/
def receivedAt : Timestamp := ⟨1700000000, 0⟩

/-- A server of ten readings, and one connection's identity and link. -/
def conn : Mock := Mock.healthy "conn"

/-- Handles a message from `client` on the scenario's connection; returns
the server and the replies the connection took. -/
def handleFrom (s : Server) (client text : String) : Server × List String :=
  let (s', sends) := s.handle (linksOf [conn]) conn.id client text "log-1" receivedAt
  (s', sentTo sends conn.id)

/-- Subscribing and unsubscribing change the topics and are acknowledged. -/
def handleSubscribeAndUnsubscribe : Bool :=
  let (s, r1) := handleFrom (Server.empty 10) "test_client" "\x7b\"type\":\"subscribe\",\"topics\":[\"Dashboard\",\"Device\"]\x7d"
  let ok1 := (s.broker.topics.topicsOf "test_client").size == 2 &&
    r1.head? == some (ServerMessage.subscribed ["Dashboard", "Device"]).render
  let (s, r2) := handleFrom s "test_client" "\x7b\"type\":\"unsubscribe\",\"topics\":[\"Device\"]\x7d"
  let topics := s.broker.topics.topicsOf "test_client"
  ok1 && topics.contains dashboardTopic && !topics.contains "Device" &&
    r2.head?.any (fun t => t.startsWith "\x7b\"type\":\"unsubscribed\"")

/-- The message of a reply that is an error. -/
def errorMessage? (reply : String) : Option String :=
  match TopicHub.Json.read reply with
  | .ok j =>
    if (j.field? "type").bind Json.getStr? == some "error" then (j.field? "message").bind Json.getStr? else none
  | .error _ => none

/-- A message that is not one is answered with an error. -/
def handleInvalidMessageRepliesError : Bool :=
  let (_, replies) := handleFrom (Server.empty 10) "test_client" "\x7bnot json"
  (replies.head?.bind errorMessage?).any (·.startsWith "invalid message")

/-- A reading is stored and not answered. -/
def handleMeasurementRecordsReading : Bool :=
  let text := "\x7b\"type\":\"measurement\",\"deviceId\":\"dev-9\",\"temperature\":23.0,\"humidity\":35.0," ++
    "\"pressure\":1009.0,\"airQuality\":4\x7d"
  let (s, replies) := handleFrom (Server.empty 10) "device" text
  (s.dashboard.window.map (·.deviceId)) == ["dev-9"] && replies.isEmpty

/-- Thresholds are stored; a batch with an unknown metric is refused with an
error. -/
def handleUpdateThresholdsStoresAndRejectsUnknownMetric : Bool :=
  let good := "\x7b\"type\":\"update_thresholds\",\"thresholds\":[\x7b\"metric\":\"humidity\",\"warnMin\":20.0," ++
    "\"goodMin\":30.0,\"goodMax\":50.0,\"warnMax\":60.0\x7d]\x7d"
  let bad := "\x7b\"type\":\"update_thresholds\",\"thresholds\":[\x7b\"metric\":\"noise\",\"warnMin\":0.0," ++
    "\"goodMin\":0.0,\"goodMax\":1.0,\"warnMax\":2.0\x7d]\x7d"
  let (s, r1) := handleFrom (Server.empty 10) "admin" good
  let stored := s.dashboard.thresholdList
  let ok1 := (stored.map (·.metric)) == ["humidity"] && (stored.map (·.goodMax)) == [50.0] && r1.isEmpty
  let (s, r2) := handleFrom s "admin" bad
  ok1 && (r2.head?.bind errorMessage?).any (hasText · "Unknown metric: noise") && s.dashboard.thresholdList.length == 1

/-- The URL of a served hub in the scenarios. -/
def servedUrl : String := "ws://127.0.0.1:40000"

/-- All the WebSocket connections open in the network. -/
def dialAll (net : Net.Network) (queries : List String) : Bool :=
  queries.all fun q => succeeds (Net.dialSocket net (servedUrl ++ "/?" ++ q))

/-- A dashboard receives a device's reading, written in camel case. -/
def dashboardReceivesLiveDataEndToEnd (net : Net.Network) : Bool :=
  dialAll net ["id=dash-1", "id=device-1"] &&
    let dash := Mock.healthy "dash"
    let device := Mock.healthy "device"
    let links := linksOf [dash, device]
    let s := Server.empty 10
    let (b, _) := s.broker.openConnection dash.id "dash-1"
    let (b, _) := b.openConnection device.id "device-1"
    let s := { s with broker := b }
    let (s, acks) := s.handle links dash.id "dash-1" "\x7b\"type\":\"subscribe\",\"topics\":[\"Dashboard\"]\x7d" "log-1" receivedAt
    let reading := "\x7b\"type\":\"measurement\",\"deviceId\":\"device-1\",\"temperature\":20.5,\"humidity\":45.0," ++
      "\"pressure\":1015.0,\"airQuality\":2\x7d"
    let (_, sends) := s.handle links device.id "device-1" reading "log-1" receivedAt
    (sentTo acks dash.id).head? == some (ServerMessage.subscribed ["Dashboard"]).render &&
      (sentTo sends dash.id).head?.any fun t =>
        hasText t "\"eventType\":\"ServerBroadcastsLiveDataToDashboard\"" && hasText t "\"deviceId\":\"device-1\"" &&
          hasText t "\"airQuality\":2" && !hasText t "device_id"

/-- A percent-encoded client id is registered decoded. -/
def percentEncodedIdIsRegisteredDecodedEndToEnd (net : Net.Network) : Bool :=
  dialAll net ["id=a%20b"] &&
    let ws := Mock.healthy "ws"
    match clientIdFromQuery (some "id=a%20b") with
    | none => false
    | some client =>
      let s := Server.empty 10
      let (b, _) := s.broker.openConnection ws.id client
      let s := { s with broker := b }
      let (s, _) := s.handle (linksOf [ws]) ws.id client "\x7b\"type\":\"subscribe\",\"topics\":[\"Dashboard\"]\x7d" "log-1" receivedAt
      succeeds (s.broker.registry.socketFor "a b") && (s.broker.topics.topicsOf "a b").contains dashboardTopic

/-- A dashboard that reconnects keeps its subscription. -/
def subscriptionSurvivesReconnectEndToEnd (net : Net.Network) : Bool :=
  dialAll net ["id=dash-2", "id=dash-2", "id=admin"] &&
    let first := Mock.healthy "first"
    let second := Mock.healthy "second"
    let admin := Mock.healthy "admin"
    let links := linksOf [first, second, admin]
    let s := Server.empty 10
    let (b, _) := s.broker.openConnection first.id "dash-2"
    let s := { s with broker := b }
    let (s, _) := s.handle links first.id "dash-2" "\x7b\"type\":\"subscribe\",\"topics\":[\"Dashboard\"]\x7d" "log-1" receivedAt
    let (b, _) := s.broker.closeConnection first.id "dash-2"
    let (b, _) := b.openConnection second.id "dash-2"
    let (b, _) := b.openConnection admin.id "admin"
    let s := { s with broker := b }
    let (_, sends) := s.handle links admin.id "admin" "\x7b\"type\":\"change_interval\",\"interval\":15\x7d" "log-1" receivedAt
    (sentTo sends second.id).head?.any fun t =>
      hasText t "\"eventType\":\"ServerBroadcastsIntervalChange\"" && hasText t "\"interval\":15"

/-- Level names are read without regard to case, `info` otherwise. -/
def parseLevelIsCaseInsensitiveWithInfoFallback : Bool :=
  Logging.Level.parse "DEBUG" == .debug && Logging.Level.parse "Warning" == .warn &&
    Logging.Level.parse "verbose" == .info

/-- Setting up logging several times keeps the first logger. -/
def loggingInitAcceptsLevels : Bool := Logging.installed ["info", "debug", "warn"] == some .info

end Transport

end TopicHub.Suite
