/-
  Suite/Dashboard.lean --- scenarios of readings, thresholds and dashboard
  events.

  The scenarios record readings in a server whose dashboard keeps a window of
  recent ones, and check the window, the events broadcast to the dashboard
  topic (compared with the frames of the events expected), and the bands of
  the thresholds in force.
-/
import TopicHub.Suite.Support
import TopicHub.Hub.Server

set_option autoImplicit false

namespace TopicHub.Suite

open TopicHub.Hub
open TopicHub.Telemetry
open TopicHub.Json

namespace Dashboard

/-- A reading of a device at a temperature. -/
def reading (device : String) (temperature : Float) : Measurement := ⟨device, temperature, 40.0, 1013.0, 2⟩

/-- The time the scenarios' readings are received at. -/
def receivedAt : Timestamp := ⟨1700000000, 0⟩

/-- Thresholds of a metric with the bounds 10, 18, 24 and 30. -/
def threshold (metric : String) : Threshold := ⟨metric, 10.0, 18.0, 24.0, 30.0⟩

/-- The frame of a dashboard event. -/
def eventFrame (e : DashboardEvent) : Option String := (Naming.camelFrame e.toJson.normalize).toOption

/-- Thresholds as their frames, to compare lists of them. -/
def thresholdTexts (ts : List Threshold) : List String := ts.map fun t => t.toJson.render

/-- A server of `capacity` readings with one dashboard connected and
subscribed. -/
def withDashboard (capacity : Nat) (socket : Mock) : Server :=
  let s := Server.empty capacity
  let (b, _) := s.broker.openConnection socket.id "dash"
  let (b, _) := b.addToTopic dashboardTopic "dash"
  { s with broker := b }

/-- Records readings in turn, each with its own id; returns the outcomes. -/
def recordAll (s : Server) (links : ConnId → Link) (rs : List Measurement) : Server × List Outcome :=
  rs.zipIdx.foldl (fun (acc : Server × List Outcome) (m, i) =>
    let (s', o) := acc.1.recordMeasurement links m ("log-" ++ toString (i + 1)) receivedAt
    (s', acc.2 ++ [o])) (s, [])

/-- The frames a connection took over several outcomes. -/
def framesTo (c : ConnId) (outs : List Outcome) : List String :=
  outs.flatMap fun o => match o with
    | .ok sends => sentTo sends c
    | .error _ => []

/-- The outcome handed over this many frames. -/
def deliveredIs (n : Nat) (o : Outcome) : Bool :=
  match o with
  | .ok sends => delivered sends == n
  | .error _ => false

/-- Each reading sends the window of the latest ones to the dashboard. -/
def dashboardBroadcastsLiveDataWindow : Bool :=
  let socket := Mock.healthy "socket"
  let links := linksOf [socket]
  let (s, outs) := recordAll (withDashboard 2 socket) links
    [reading "dev-1" 20.0, reading "dev-1" 21.0, reading "dev-1" 22.0]
  let window := s.dashboard.window
  let sent := framesTo socket.id outs
  outs.all (deliveredIs 1) && window.length == 2 &&
    (window.map (·.temperature)) == [21.0, 22.0] && (window.getLast?.map (·.unit)) == some "Celsius" &&
    sent.length == 3 && sent[2]? == eventFrame (.liveData window) &&
    sent.getLast?.any (fun t => hasText t "\"eventType\":\"ServerBroadcastsLiveDataToDashboard\"" && hasText t "\"deviceId\"")

/-- Clearing the readings and changing the interval are announced. -/
def dashboardClearAndIntervalEvents : Bool :=
  let socket := Mock.healthy "socket"
  let links := linksOf [socket]
  let (s, o1) := (withDashboard 10 socket).recordMeasurement links (reading "dev-1" 19.5) "log-1" receivedAt
  let (s, o2) := s.clearData links
  let o3 := s.changeInterval links 30
  let sent := framesTo socket.id [o1, o2, o3]
  s.dashboard.window.isEmpty && sent[1]? == eventFrame .dataCleared && sent[2]? == eventFrame (.intervalChanged 30)

/-- Readings are kept when nobody watches. -/
def dashboardWithoutSubscribersStillRecords : Bool :=
  let (s, o) := (Server.empty 5).recordMeasurement (linksOf []) (reading "dev-2" 18.0) "log-1" receivedAt
  deliveredIs 0 o && s.dashboard.window.length == 1

/-- The bands at and around each bound. -/
def thresholdStatesAtEachBoundary : Bool :=
  let t := threshold "temperature"
  [(9.9, Band.criticalLow), (10.0, .warningLow), (17.9, .warningLow), (18.0, .good), (24.0, .good),
    (24.1, .warningHigh), (30.0, .warningHigh), (30.1, .criticalHigh)].all fun (v, b) => t.band v == b

/-- Each metric reads its value; an unknown one is a fault. -/
def metricValueReadsEachMetric : Bool :=
  let (s, _) := (Server.empty 1).recordMeasurement (linksOf []) (reading "dev-1" 21.0) "log-1" receivedAt
  match s.dashboard.window with
  | [log] =>
    okIs (log.metricValue "temperature") 21.0 && okIs (log.metricValue "humidity") 40.0 &&
      okIs (log.metricValue "pressure") 1013.0 && okIs (log.metricValue "airquality") 2.0 &&
      failsWith (log.metricValue "noise") (· == .unknownMetric "noise") &&
      !succeeds (log.evaluateAll [threshold "noise"])
  | _ => false

/-- New thresholds are announced with the latest reading evaluated. -/
def updateThresholdsBroadcastsEvaluationsOfLatestReading : Bool :=
  let socket := Mock.healthy "socket"
  let links := linksOf [socket]
  let (s, o1) := (withDashboard 10 socket).recordMeasurement links (reading "dev-1" 35.0) "log-1" receivedAt
  let humidity : Threshold := { threshold "humidity" with goodMax := 50.0, warnMax := 60.0 }
  let (s, o2) := s.updateThresholds links [threshold "temperature", humidity]
  let sent := framesTo socket.id [o1, o2]
  let expected := DashboardEvent.thresholdsUpdated [humidity, threshold "temperature"]
    [⟨"humidity", 40.0, .good⟩, ⟨"temperature", 35.0, .criticalHigh⟩]
  deliveredIs 1 o2 &&
    sent[1]?.any (fun t => hasText t "\"eventType\":\"ThresholdsBroadcastDto\"" &&
      hasText t "\"updatedThresholds\"" && hasText t "\"warnMin\"") &&
    sent[1]? == eventFrame expected &&
    thresholdTexts s.dashboard.thresholdList == thresholdTexts [humidity, threshold "temperature"]

/-- Thresholds replace those of their metric and keep the others. -/
def updateThresholdsReplacesByMetricAndKeepsOthers : Bool :=
  let links := linksOf []
  let (s, _) := (Server.empty 10).updateThresholds links [threshold "temperature", threshold "pressure"]
  let tighter : Threshold := { threshold "temperature" with warnMax := 26.0 }
  let (s, _) := s.updateThresholds links [tighter]
  thresholdTexts s.dashboard.thresholdList == thresholdTexts [threshold "pressure", tighter]

/-- Without readings there is nothing to evaluate. -/
def updateThresholdsWithoutReadingsSendsNoEvaluations : Bool :=
  let socket := Mock.healthy "socket"
  let (_, o) := (withDashboard 10 socket).updateThresholds (linksOf [socket]) [threshold "airquality"]
  (framesTo socket.id [o]).head? == eventFrame (.thresholdsUpdated [threshold "airquality"] [])

/-- A batch with an unknown metric is refused as a whole. -/
def updateThresholdsRejectsUnknownMetricAndStoresNothing : Bool :=
  let socket := Mock.healthy "socket"
  let (s, o) := (withDashboard 10 socket).updateThresholds (linksOf [socket]) [threshold "temperature", threshold "noise"]
  failsWith o (· == .unknownMetric "noise") && s.dashboard.thresholdList.isEmpty && (framesTo socket.id [o]).isEmpty

end Dashboard

end TopicHub.Suite
