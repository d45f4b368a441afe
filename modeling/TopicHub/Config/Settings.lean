/-
  Config/Settings.lean --- the settings of the hub and partial overrides.

  `Settings` fixes where the server listens, how many recent readings the
  dashboard keeps, and the log level.  `PartialSettings` gives any of them;
  `PartialSettings.merge` lays the given ones over a base, leaving the others.
  As JSON, partial settings are read with snake-case keys, unknown keys passed
  over and `null` meaning not given.
-/
import TopicHub.Json.Decode

set_option autoImplicit false

namespace TopicHub.Config

open TopicHub.Json

/-- The settings of the hub. -/
structure Settings where
  host : String
  port : Nat
  recentLogs : Nat
  level : String
  deriving DecidableEq, Repr

/-- The settings when nothing overrides them. -/
def Settings.default : Settings := ⟨"127.0.0.1", 8181, 50, "info"⟩

/-- Overrides of the server's address. -/
structure PartialServer where
  host : Option String
  port : Option Nat

/-- Override of the dashboard's window. -/
structure PartialDashboard where
  recentLogs : Option Nat

/-- Override of the log level. -/
structure PartialLogging where
  level : Option String

/-- Overrides of any of the settings. -/
structure PartialSettings where
  server : Option PartialServer
  dashboard : Option PartialDashboard
  logging : Option PartialLogging

/-- The given values laid over `base`. -/
def PartialSettings.merge (p : PartialSettings) (base : Settings) : Settings :=
  { host := (p.server.bind (·.host)).getD base.host
    port := (p.server.bind (·.port)).getD base.port
    recentLogs := (p.dashboard.bind (·.recentLogs)).getD base.recentLogs
    level := (p.logging.bind (·.level)).getD base.level }

/-- Settings as JSON, in the sections of the configuration. -/
def Settings.toJson (s : Settings) : Json :=
  .obj [("dashboard", .obj [("recent_logs", .num (.unsigned s.recentLogs))]),
    ("logging", .obj [("level", .str s.level)]),
    ("server", .obj [("host", .str s.host), ("port", .num (.unsigned s.port))])]

/-- Server overrides from JSON. -/
def PartialServer.decoder (o : Origin) : Decoder PartialServer :=
  let host := Decoder.option Decoder.string
  let port := Decoder.option Decoder.u16
  Decoder.struct o "struct PartialServerSettings" [.of "host" host, .of "port" port] fun fs => do
    let h ← fs.optional "host" host
    let p ← fs.optional "port" port
    .ok ⟨h, p⟩

/-- Dashboard override from JSON. -/
def PartialDashboard.decoder (o : Origin) : Decoder PartialDashboard :=
  let n := Decoder.option Decoder.usize
  Decoder.struct o "struct PartialDashboardSettings" [.of "recent_logs" n] fun fs => do
    let r ← fs.optional "recent_logs" n
    .ok ⟨r⟩

/-- Logging override from JSON. -/
def PartialLogging.decoder (o : Origin) : Decoder PartialLogging :=
  let l := Decoder.option Decoder.string
  Decoder.struct o "struct PartialLoggingSettings" [.of "level" l] fun fs => do
    let v ← fs.optional "level" l
    .ok ⟨v⟩

/-- Partial settings from JSON. -/
def PartialSettings.decoder (o : Origin) : Decoder PartialSettings :=
  let server := Decoder.option (PartialServer.decoder o)
  let dashboard := Decoder.option (PartialDashboard.decoder o)
  let logging := Decoder.option (PartialLogging.decoder o)
  Decoder.struct o "struct PartialSettings"
    [.of "server" server, .of "dashboard" dashboard, .of "logging" logging] fun fs => do
    let s ← fs.optional "server" server
    let d ← fs.optional "dashboard" dashboard
    let l ← fs.optional "logging" logging
    .ok ⟨s, d, l⟩

end TopicHub.Config
