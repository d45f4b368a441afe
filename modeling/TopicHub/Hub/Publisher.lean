/-
  Hub/Publisher.lean --- the calls the dashboard publisher answers, as data.

  The publisher stores readings, drops them, announces a new reporting
  interval and puts thresholds in force; each such call ends in a broadcast
  on the dashboard topic, and carries what the connections say when that
  broadcast is sent.  `Server.publish` answers one call with the server after
  it and what its broadcast did, and `Server.publishAll` answers a sequence of
  calls in order.  A new interval changes nothing in the server, and a
  refused batch of thresholds neither changes nor broadcasts anything.
-/
import TopicHub.Hub.Server

set_option autoImplicit false

namespace TopicHub.Hub

open TopicHub.Telemetry

/-- A call on the dashboard publisher, with what the connections say when its
broadcast is sent. -/
inductive Publication where
  /-- a reading is stored under `id`, received at `at_` -/
  | record (links : ConnId → Link) (m : Measurement) (id : String) (at_ : Timestamp)
  /-- all readings are dropped -/
  | clear (links : ConnId → Link)
  /-- devices report at a new interval -/
  | interval (links : ConnId → Link) (n : Nat)
  /-- a batch of thresholds is put in force -/
  | thresholds (links : ConnId → Link) (batch : List Threshold)

namespace Server

/-- The server after a call on the publisher, and what its broadcast did. -/
def publish (s : Server) : Publication → Server × Outcome
  | .record links m id at_ => s.recordMeasurement links m id at_
  | .clear links => s.clearData links
  | .interval links n => (s, s.changeInterval links n)
  | .thresholds links batch => s.updateThresholds links batch

/-- The server after each call of `calls`, in order. -/
def publishAll (s : Server) (calls : List Publication) : Server :=
  calls.foldl (fun s c => (s.publish c).1) s

end Server

end TopicHub.Hub
