import DepthBridge.Data.Device
import DepthBridge.Data.Message
import DepthBridge.Bridge.Node
import DepthBridge.Bus.Recording

/-!
# Bridge values as JSON

Calibration records, counters, buses, clocks and samples. A sample is a frameset or a single
frame, or one made by the fixed test camera: `fake_frameset {number, timestamp_ms}`,
`fake_video {stream, index, format, hex, number, timestamp_ms}` or
`fake_motion {stream, reading, timestamp_ms}`.

A bus is `{default_subscribers, subscribers: [{channel, count}]}`: one default subscriber per
channel unless `default_subscribers` is 0. A clock is `{start, step}`.
-/

namespace DepthBridge
namespace Data

open Json

/-- A calibration record. -/
def record (r : CalibrationRecord) : Json :=
  .obj [("width", .nat r.width.toNat), ("height", .nat r.height.toNat), ("fx", .num r.fx),
    ("fy", .num r.fy), ("ppx", .num r.ppx), ("ppy", .num r.ppy),
    ("distortion_model", .str r.distortionModel), ("d", floats r.d), ("k", floats r.k),
    ("r", floats r.r), ("p", floats r.p)]

/-- A pose record by its parts. -/
def pose (p : PoseData) : Json :=
  .obj [("translation", singles p.translation.toList), ("velocity", singles p.velocity.toList),
    ("acceleration", singles p.acceleration.toList), ("rotation", singles p.rotation.toList),
    ("angular_velocity", singles p.angularVelocity.toList),
    ("angular_acceleration", singles p.angularAcceleration.toList),
    ("tracker_confidence", .nat p.trackerConfidence.toNat), ("mapper_confidence", .nat p.mapperConfidence.toNat)]

/-- The counters. -/
def metrics (m : Metrics) : Json :=
  .obj [("framesets_processed", .nat m.framesetsProcessed), ("framesets_failed", .nat m.framesetsFailed),
    ("frames_published", .nat m.framesPublished), ("imu_published", .nat m.imuPublished),
    ("poses_published", .nat m.posesPublished), ("samples_skipped", .nat m.samplesSkipped),
    ("latency_count", .nat m.latencyCount)]

/-- The publications of a recording bus, in order. -/
def published (b : RecordingBus) : Json := .arr (b.published.map fun (c, m) => publication c m)

/-- A channel by its name. -/
def readChannel (j : Json) (key : String) : Decode Channel := do
  let name ← need j key asStr?
  match Channel.ofName? name with
  | some c => pure c
  | none => throw s!"unknown channel {name}"

/-- A recording bus with its subscriber settings. -/
def readBus (j : Json) : Decode RecordingBus := do
  let b : RecordingBus := if (← optional j "default_subscribers" asNat? 1) == 0 then RecordingBus.silent else {}
  (← optional j "subscribers" asArr? []).foldlM (fun b s => do
    return b.setSubscribers (← readChannel s "channel") (← optional s "count" asNat? 1)) b

/-- The recording bus in field `key`, one subscriber per channel when it is missing. -/
def readBusIn (j : Json) (key : String) : Decode RecordingBus :=
  match j.field? key with
  | some b => readBus b
  | none => pure {}

/-- The scripted clock in field `key`. -/
def readClockIn (j : Json) (key : String) : Decode Clock := do
  let c := (j.field? key).getD (.obj [])
  return { start := ← optional c "start" asInt? 1700000000000000000, step := ← optional c "step" asInt? 0 }

/-- A sample in one of the fields of `j`; `none` when there is none. -/
def readSample? (base : List Profile) (j : Json) : Decode (Option Sample) := do
  if let some s := j.field? "frameset" then return some (.frameset (← readFrameset base s))
  if let some f := j.field? "frame" then return some (.frame (← readFrame base f))
  if let some f := j.field? "fake_frameset" then
    return some (.frameset (Fake.frameset (← optional f "number" (asBounded? 64) 0).toUInt64
      (← optional f "timestamp_ms" asFloat? 0)))
  if let some f := j.field? "fake_video" then
    let kind ← needChoice f "stream" kindTable
    let data ← match f.field? "hex" with
      | some _ => readHex f "hex"
      | none => pure ByteArray.empty
    return some (.frame (Fake.videoFrame kind (← optional f "index" (asBounded? 8) 0).toUInt8
      (← optionalChoice f "format" formatTable (defaultFormat kind)) data
      (← optional f "number" (asBounded? 64) 0).toUInt64 (← optional f "timestamp_ms" asFloat? 0)))
  if let some f := j.field? "fake_motion" then
    let xs ← optional f "reading" asSingles? [0, 0, 0]
    return some (.frame (Fake.motionFrame (← needChoice f "stream" kindTable)
      ⟨xs.getD 0 0, xs.getD 1 0, xs.getD 2 0⟩ (← optional f "timestamp_ms" asFloat? 0)))
  return none

/-- The transform tree's transforms. -/
def transforms (ts : List Transform) : Json := .arr (ts.map transform)

/-- The pipeline's stages and point cloud texture. -/
def pipeline (p : Pipeline) : Json :=
  .obj [("stages", .arr (p.stages.map fun s => .obj [("tag", .str s.tag.name), ("enabled", .bool s.enabled)])),
    ("point_cloud", match p.pointCloud? with | some c => key c.textureKey | none => .null)]

end Data
end DepthBridge
