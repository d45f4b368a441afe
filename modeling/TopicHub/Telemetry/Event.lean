/-
  Telemetry/Event.lean --- the events the dashboard topic receives.

  Four events: the window of recent readings, the deletion of all readings, a
  new reporting interval, and new thresholds with the latest reading's
  evaluations.  As JSON an event is an object whose `eventType` member names
  it, beside its fields.  Reading an event (`DashboardEvent.parse`) finds the
  `eventType` member wherever it stands, buffers the other members, and then
  reads the event's fields from them.
-/
import TopicHub.Json.Read
import TopicHub.Telemetry.Codec

set_option autoImplicit false

namespace TopicHub.Telemetry

open TopicHub.Json

/-- The topic on which dashboards receive events. -/
def dashboardTopic : String := "Dashboard"

/-- An event for the dashboards. -/
inductive DashboardEvent where
  /-- the window of recent readings, oldest first -/
  | liveData (logs : List DeviceLog)
  /-- all readings were deleted -/
  | dataCleared
  /-- devices report at a new interval -/
  | intervalChanged (interval : Nat)
  /-- the thresholds now in force, and the latest reading evaluated against them -/
  | thresholdsUpdated (thresholds : List Threshold) (evaluations : List Evaluation)

/-- The kinds of dashboard event. -/
inductive EventKind where
  | liveData
  | dataCleared
  | intervalChanged
  | thresholdsUpdated
  deriving DecidableEq, Repr

/-- The name of a kind on the wire. -/
def EventKind.name : EventKind → String
  | .liveData => "ServerBroadcastsLiveDataToDashboard"
  | .dataCleared => "AdminHasDeletedData"
  | .intervalChanged => "ServerBroadcastsIntervalChange"
  | .thresholdsUpdated => "ThresholdsBroadcastDto"

/-- All kinds, in the order they are listed. -/
def EventKind.all : List EventKind := [.liveData, .dataCleared, .intervalChanged, .thresholdsUpdated]

/-- The kind a name on the wire stands for. -/
def EventKind.ofName (name : String) : Except Mismatch EventKind :=
  variantNamed EventKind.all EventKind.name name

/-- The kind of an event. -/
def DashboardEvent.kind : DashboardEvent → EventKind
  | .liveData _ => .liveData
  | .dataCleared => .dataCleared
  | .intervalChanged _ => .intervalChanged
  | .thresholdsUpdated _ _ => .thresholdsUpdated

/-- The name of an event. -/
def DashboardEvent.name (e : DashboardEvent) : String := e.kind.name

/-- An event as JSON: its name under `eventType`, then its fields. -/
def DashboardEvent.toJson (e : DashboardEvent) : Json :=
  .obj <| ("eventType", .str e.name) ::
    match e with
    | .liveData logs => [("logs", .arr (logs.map DeviceLog.toJson))]
    | .dataCleared => []
    | .intervalChanged interval => [("interval", .num (.unsigned interval))]
    | .thresholdsUpdated ts es =>
      [("updatedThresholds", .arr (ts.map Threshold.toJson)),
        ("evaluations", .arr (es.map Evaluation.toJson))]

/-- The map value of an event, as the serializer builds it: every object's
members sorted by key.  Every event has one. -/
def DashboardEvent.toValue (e : DashboardEvent) : Except Mismatch Json := .ok e.toJson.normalize

/-- The fields of an event of kind `k`, read from the buffered rest of it. -/
def EventKind.body (k : EventKind) : Decoder DashboardEvent := fun rest =>
  match k with
  | .liveData =>
    DashboardEvent.liveData <$>
      Decoder.oneField "DashboardEvent" "ServerBroadcastsLiveDataToDashboard" "logs"
        (Decoder.list (DeviceLog.decoder .buffered)) rest
  | .dataCleared => (fun _ => DashboardEvent.dataCleared) <$> Decoder.noFields rest
  | .intervalChanged =>
    DashboardEvent.intervalChanged <$>
      Decoder.oneField "DashboardEvent" "ServerBroadcastsIntervalChange" "interval" Decoder.u32 rest
  | .thresholdsUpdated =>
    Decoder.struct .buffered "struct variant DashboardEvent::ThresholdsBroadcast"
      [.of "updatedThresholds" (Decoder.list (Threshold.decoder .buffered)),
        .of "evaluations" (Decoder.list (Evaluation.decoder .buffered))]
      (fun fs => do
        let ts ← fs.required "updatedThresholds" (Decoder.list (Threshold.decoder .buffered))
        let es ← fs.required "evaluations" (Decoder.list (Evaluation.decoder .buffered))
        .ok (.thresholdsUpdated ts es)) rest

/-- How an event's head is read. -/
def eventTag : TagRule EventKind :=
  ⟨"eventType", "internally tagged enum DashboardEvent", EventKind.ofName⟩

/-- Reads a dashboard event from its text. -/
def DashboardEvent.parse (text : String) : Except Error DashboardEvent :=
  readTagged eventTag EventKind.body text

end TopicHub.Telemetry
