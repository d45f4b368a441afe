/-
  Telemetry/Threshold.lean --- bands of good and bad values of a metric.

  A `Threshold` splits the line of a metric's values at four bounds into five
  bands: below `warnMin` is critically low, below `goodMin` low, up to
  `goodMax` good, up to `warnMax` high, and above that critically high.  The
  bounds are compared in the order of doubles (`Numeric.lt`, `Numeric.le`), so a
  NaN value falls through every test to critically high.  Nothing checks that
  the bounds ascend.

  The metrics a threshold can be set for are spelled twice, as in the
  service: once as the list `metrics` that a batch of thresholds is checked
  against, and once in `DeviceLog.metricValue`, which reads a metric's value
  from a stored reading by its name.
-/
import TopicHub.Fault
import TopicHub.Numeric.Order
import TopicHub.Telemetry.Reading

set_option autoImplicit false

namespace TopicHub.Telemetry

/-- The metrics a threshold can be set for. -/
def metrics : List String := ["temperature", "humidity", "pressure", "airquality"]

/-- The value of the metric named `metric` in a stored reading, the air-quality
index as a double; a name that is no metric is refused. -/
def DeviceLog.metricValue (log : DeviceLog) (metric : String) : Except HubFault Float :=
  match metric with
  | "temperature" => .ok log.temperature
  | "humidity" => .ok log.humidity
  | "pressure" => .ok log.pressure
  | "airquality" => .ok (Float.ofInt log.airQuality)
  | other => .error (.unknownMetric other)

/-- The bounds of a metric's bands. -/
structure Threshold where
  metric : String
  warnMin : Float
  goodMin : Float
  goodMax : Float
  warnMax : Float

/-- The band a value falls in, from lowest to highest. -/
inductive Band where
  | criticalLow
  | warningLow
  | good
  | warningHigh
  | criticalHigh
  deriving DecidableEq, Repr

/-- The name of a band. -/
def Band.name : Band → String
  | .criticalLow => "CriticalLow"
  | .warningLow => "WarningLow"
  | .good => "Good"
  | .warningHigh => "WarningHigh"
  | .criticalHigh => "CriticalHigh"

/-- All bands, from lowest to highest. -/
def Band.all : List Band := [.criticalLow, .warningLow, .good, .warningHigh, .criticalHigh]

/-- The band of a value. -/
def Threshold.band (t : Threshold) (v : Float) : Band :=
  if Numeric.lt v t.warnMin then .criticalLow
  else if Numeric.lt v t.goodMin then .warningLow
  else if Numeric.le v t.goodMax then .good
  else if Numeric.le v t.warnMax then .warningHigh
  else .criticalHigh

/-- A value of a metric and its band. -/
structure Evaluation where
  metric : String
  value : Float
  band : Band

/-- The evaluation of a value against a threshold. -/
def Threshold.evaluate (t : Threshold) (v : Float) : Evaluation := ⟨t.metric, v, t.band v⟩

/-- Evaluates a stored reading against each threshold in turn; the first
threshold of a metric that readings do not have stops it. -/
def DeviceLog.evaluateAll (log : DeviceLog) : List Threshold → Except HubFault (List Evaluation)
  | [] => .ok []
  | t :: rest => do
    let v ← log.metricValue t.metric
    let es ← log.evaluateAll rest
    .ok (t.evaluate v :: es)

end TopicHub.Telemetry
