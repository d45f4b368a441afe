/-
  Hub/Dashboard.lean --- the window of recent readings and the thresholds.

  The dashboard keeps the last `capacity` stored readings, oldest first (none
  at all when the capacity is zero), and one threshold per metric.  Each change
  yields the event that tells the dashboards about it.  A batch of thresholds
  with a metric that is not one of `metrics` is refused whole, naming the
  first such metric; otherwise each threshold replaces the one of its metric,
  in batch order, and then the latest reading, if there is one, is evaluated
  against all thresholds now in force.  The batch is stored before that
  evaluation, and stays stored if the evaluation fails.
-/
import Std.Data.TreeMap
import TopicHub.Telemetry.Event

set_option autoImplicit false

namespace TopicHub.Hub

open Std
open TopicHub.Telemetry

/-- The recent readings and the thresholds in force. -/
structure Dashboard where
  capacity : Nat
  /-- oldest first -/
  window : List DeviceLog
  /-- one per metric -/
  thresholds : TreeMap String Threshold compare

namespace Dashboard

/-- A dashboard without readings or thresholds. -/
def empty (capacity : Nat) : Dashboard := ⟨capacity, [], ∅⟩

/-- The window after a new reading: the last `capacity` readings. -/
def push (capacity : Nat) (window : List DeviceLog) (log : DeviceLog) : List DeviceLog :=
  if capacity = 0 then []
  else window.drop (window.length + 1 - capacity) ++ [log]

/-- Stores a reading; the event carries the new window. -/
def record (d : Dashboard) (log : DeviceLog) : Dashboard × DashboardEvent :=
  let window := push d.capacity d.window log
  ({ d with window }, .liveData window)

/-- Drops all readings. -/
def clear (d : Dashboard) : Dashboard × DashboardEvent := ({ d with window := [] }, .dataCleared)

/-- The thresholds in force, ordered by metric. -/
def thresholdList (d : Dashboard) : List Threshold := d.thresholds.values

/-- The latest reading. -/
def latest? (d : Dashboard) : Option DeviceLog := d.window.getLast?

/-- Puts a batch of thresholds in force: the dashboard after it, and the
event that announces it or the fault that stops it. -/
def updateThresholds (d : Dashboard) (batch : List Threshold) :
    Dashboard × Except HubFault DashboardEvent :=
  match batch.find? (fun t => !metrics.contains t.metric) with
  | some bad => (d, .error (.unknownMetric bad.metric))
  | none =>
    let d' := { d with thresholds := batch.foldl (fun m t => m.insert t.metric t) d.thresholds }
    let list := d'.thresholdList
    let evaluations := match d'.latest? with
      | some log => log.evaluateAll list
      | none => .ok []
    (d', evaluations.map (.thresholdsUpdated list))

end Dashboard

end TopicHub.Hub
