/-
  Telemetry/Codec.lean --- readings and thresholds as JSON.

  Every record is written as an object with its fields in the order they are
  declared, under their camel-case names; doubles keep their kind, so a whole
  value is written `21.0`.  A timestamp is its RFC 3339 text and a band its
  name.  Reading accepts an object by field name or an array by position
  (`Decoder.struct`), passes over unknown members, and names the first
  mismatch.  A band is read from its name, or from an object whose one member
  has the name as key and nothing (`null` or an empty object) as value.
-/
import TopicHub.Json.Decode
import TopicHub.Telemetry.Threshold

set_option autoImplicit false

namespace TopicHub.Telemetry

open TopicHub.Json

/-- A timestamp as its RFC 3339 text. -/
def Timestamp.toJson (t : Timestamp) : Json := .str t.render

/-- The members a measurement is written with. -/
def Measurement.members (m : Measurement) : List (String × Json) :=
  [("deviceId", .str m.deviceId), ("temperature", .ofFloat m.temperature),
    ("humidity", .ofFloat m.humidity), ("pressure", .ofFloat m.pressure),
    ("airQuality", .ofInt m.airQuality)]

/-- A measurement as JSON. -/
def Measurement.toJson (m : Measurement) : Json := .obj m.members

/-- The members a stored reading is written with. -/
def DeviceLog.members (l : DeviceLog) : List (String × Json) :=
  [("id", .str l.id), ("deviceId", .str l.deviceId), ("unit", .str l.unit),
    ("timestamp", l.timestamp.toJson), ("temperature", .ofFloat l.temperature),
    ("humidity", .ofFloat l.humidity), ("pressure", .ofFloat l.pressure),
    ("airQuality", .ofInt l.airQuality)]

/-- A stored reading as JSON. -/
def DeviceLog.toJson (l : DeviceLog) : Json := .obj l.members

/-- The members a threshold is written with. -/
def Threshold.members (t : Threshold) : List (String × Json) :=
  [("metric", .str t.metric), ("warnMin", .ofFloat t.warnMin),
    ("goodMin", .ofFloat t.goodMin), ("goodMax", .ofFloat t.goodMax),
    ("warnMax", .ofFloat t.warnMax)]

/-- A threshold as JSON. -/
def Threshold.toJson (t : Threshold) : Json := .obj t.members

/-- A band as JSON: its name. -/
def Band.toJson (b : Band) : Json := .str b.name

/-- The members an evaluation is written with; the band under `state`. -/
def Evaluation.members (e : Evaluation) : List (String × Json) :=
  [("metric", .str e.metric), ("value", .ofFloat e.value), ("state", e.band.toJson)]

/-- An evaluation as JSON. -/
def Evaluation.toJson (e : Evaluation) : Json := .obj e.members

/-- What a timestamp is called when something else stands in its place. -/
def timestampExpecting : String := "an RFC 3339 formatted date and time string"

/-- A timestamp from its text. -/
def Timestamp.decoder : Decoder Timestamp
  | .str s =>
    match Timestamp.parse s with
    | .ok t => .ok t
    | .error f => .error (.custom f.message)
  | j => .error (.invalidType (Found.ofJson j) timestampExpecting)

/-- A measurement from JSON. -/
def Measurement.decoder (o : Origin) : Decoder Measurement :=
  Decoder.struct o "struct Measurement"
    [.of "deviceId" Decoder.string, .of "temperature" Decoder.float,
      .of "humidity" Decoder.float, .of "pressure" Decoder.float,
      .of "airQuality" Decoder.i32]
    fun fs => do
      let deviceId ← fs.required "deviceId" Decoder.string
      let temperature ← fs.required "temperature" Decoder.float
      let humidity ← fs.required "humidity" Decoder.float
      let pressure ← fs.required "pressure" Decoder.float
      let airQuality ← fs.required "airQuality" Decoder.i32
      .ok { deviceId, temperature, humidity, pressure, airQuality }

/-- A stored reading from JSON. -/
def DeviceLog.decoder (o : Origin) : Decoder DeviceLog :=
  Decoder.struct o "struct DeviceLog"
    [.of "id" Decoder.string, .of "deviceId" Decoder.string, .of "unit" Decoder.string,
      .of "timestamp" Timestamp.decoder, .of "temperature" Decoder.float,
      .of "humidity" Decoder.float, .of "pressure" Decoder.float,
      .of "airQuality" Decoder.i32]
    fun fs => do
      let id ← fs.required "id" Decoder.string
      let deviceId ← fs.required "deviceId" Decoder.string
      let unit ← fs.required "unit" Decoder.string
      let timestamp ← fs.required "timestamp" Timestamp.decoder
      let temperature ← fs.required "temperature" Decoder.float
      let humidity ← fs.required "humidity" Decoder.float
      let pressure ← fs.required "pressure" Decoder.float
      let airQuality ← fs.required "airQuality" Decoder.i32
      .ok { id, deviceId, unit, timestamp, temperature, humidity, pressure, airQuality }

/-- A threshold from JSON. -/
def Threshold.decoder (o : Origin) : Decoder Threshold :=
  Decoder.struct o "struct Threshold"
    [.of "metric" Decoder.string, .of "warnMin" Decoder.float, .of "goodMin" Decoder.float,
      .of "goodMax" Decoder.float, .of "warnMax" Decoder.float]
    fun fs => do
      let metric ← fs.required "metric" Decoder.string
      let warnMin ← fs.required "warnMin" Decoder.float
      let goodMin ← fs.required "goodMin" Decoder.float
      let goodMax ← fs.required "goodMax" Decoder.float
      let warnMax ← fs.required "warnMax" Decoder.float
      .ok { metric, warnMin, goodMin, goodMax, warnMax }

/-- A band from its name, or from an object of one member: the name, and nothing. -/
def Band.decoder : Decoder Band
  | .str s => variantNamed Band.all Band.name s
  | .obj [(k, v)] => do
    let b ← variantNamed Band.all Band.name k
    match v with
    | .null | .obj [] => .ok b
    | j => .error (.invalidType (Found.ofJson j) "unit")
  | .obj _ => .error (.invalidValue .map "map with a single key")
  | j => .error (.invalidType (Found.ofJson j) "string or map")

/-- An evaluation from JSON; the band is read from `state`. -/
def Evaluation.decoder (o : Origin) : Decoder Evaluation :=
  Decoder.struct o "struct ThresholdEvaluation"
    [.of "metric" Decoder.string, .of "value" Decoder.float, .of "state" Band.decoder]
    fun fs => do
      let metric ← fs.required "metric" Decoder.string
      let value ← fs.required "value" Decoder.float
      let band ← fs.required "state" Band.decoder
      .ok { metric, value, band }

end TopicHub.Telemetry
