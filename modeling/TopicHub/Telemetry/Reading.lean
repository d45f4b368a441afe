/-
  Telemetry/Reading.lean --- what devices report and what the hub keeps.

  A `Measurement` is a reading as a device submits it: four values from one
  device.  A `DeviceLog` is a reading the hub has stored, with its own id, the
  unit of temperature and the time it was received.
-/
import TopicHub.Telemetry.Timestamp

set_option autoImplicit false

namespace TopicHub.Telemetry

/-- A reading as a device submits it. -/
structure Measurement where
  deviceId : String
  temperature : Float
  humidity : Float
  pressure : Float
  /-- a signed 32-bit index -/
  airQuality : Int

/-- A reading the hub has stored. -/
structure DeviceLog where
  id : String
  deviceId : String
  unit : String
  timestamp : Timestamp
  temperature : Float
  humidity : Float
  pressure : Float
  airQuality : Int

/-- The unit in which stored temperatures are given. -/
def temperatureUnit : String := "Celsius"

/-- The stored log of a measurement, with the id and time the hub gives it. -/
def Measurement.toLog (m : Measurement) (id : String) (at_ : Timestamp) : DeviceLog :=
  { id, deviceId := m.deviceId, unit := temperatureUnit, timestamp := at_,
    temperature := m.temperature, humidity := m.humidity, pressure := m.pressure,
    airQuality := m.airQuality }

end TopicHub.Telemetry
