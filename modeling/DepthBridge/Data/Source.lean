import DepthBridge.Data.Device
import DepthBridge.Data.Bridge
import DepthBridge.Data.Error
import DepthBridge.Device.Source

/-!
# Streaming source reports

A streaming run is reported by the facts that do not depend on how long it lasts: the source's
flags around `start` and `stop`, and the first sample of each group, described frame by frame.
Color depends only on the frame number, so its first bytes and their sum are reported; the
accelerometer's reading and the gyroscope's last two axes depend only on the seed.
-/

namespace DepthBridge
namespace Data

open Json

/-- The bytes a payload carries. -/
def payloadSize : Payload → Nat
  | .video v => v.data.size
  | .motion b => b.size
  | .pose b => b.size
  | .points p => 12 * p.vertices.length

/-- The timing-free facts of a frame. -/
def sourceFrameFacts (f : Frame) : Json :=
  .obj [("stream", .str f.key.name), ("format", .str f.format.tag), ("width", .nat f.profile.width.toNat),
    ("height", .nat f.profile.height.toNat), ("frame_number", .nat f.number.toNat),
    ("domain", .str f.domain.tag), ("bytes", .nat (payloadSize f.payload)),
    ("timestamp_in_range", .bool (SourceClock.inRange f.domain f.timestampMs))]

/-- The facts of a single frame, with the extra entries `more`. -/
def frameFactsWith (f : Frame) (more : List (String × Json)) : Json :=
  match sourceFrameFacts f with
  | .obj fields => .obj (fields ++ more)
  | j => j

/-- The description of a group's first sample. -/
def firstSample : SourceGroup × Sample → String × Json
  | (g, .frameset fs) =>
    let color := ((fs.first? .color).bind Frame.video?).map (·.data)
    let bytes := (color.map ByteArray.toList).getD []
    (g.name, .obj [("frames", .arr (fs.frames.map sourceFrameFacts)),
      ("color_head", .str (Text.hexOfBytes ⟨(bytes.take 24).toArray⟩)),
      ("color_sum", .nat (bytes.foldl (fun n b => n + b.toNat) 0))])
  | (g, .frame f) =>
    let more := match g, f.payload with
      | .accel, .motion b => [("reading", singles (decodedWords b))]
      | .gyro, .motion b => [("reading_yz", singles ((decodedWords b).drop 1))]
      | .pose, .pose b =>
        match readRecord PoseData f.key b with
        | .ok p => [("confidence", .arr [.nat p.trackerConfidence.toNat, .nat p.mapperConfidence.toNat])]
        | .error _ => []
      | _, _ => []
    (g.name, frameFactsWith f more)

/-- The system clock's reading, in milliseconds since the epoch, at which requests start their
runs: a pure run cannot read the clock, so it is fixed to an instant in November 2023. -/
def requestEpochMs : Float := 1.7e12

/-- A streaming run of the source of device settings `config`, started at `requestEpochMs`:
started (twice with `second_start`), its first samples taken, then stopped twice, or dropped
with `drop_without_stop`. -/
def sourceAnswer (j : Json) : Decode Json := do
  let c ← readDeviceConfigIn j "config"
  let secondStart ← optional j "second_start" asBool? false
  let drop ← optional j "drop_without_stop" asBool? false
  match SimulatedSource.create c with
  | .error e => return deviceError e
  | .ok s0 =>
    let (s1, _) := s0.start
    let (s2, secondCalled) := if secondStart then s1.start else (s1, false)
    let (firsts, s3) := s2.firstSamples requestEpochMs
    let common := [("streaming_before", Json.bool s0.streaming), ("streaming_after_start", .bool s1.streaming),
      ("second_callback_called", .bool secondCalled), ("first", .obj (firsts.map firstSample))]
    if drop then return .obj (common ++ [("dropped", .bool true)])
    let s4 := s3.stop
    let s5 := s4.stop
    return .obj (common ++ [("streaming_after_stop", .bool s4.streaming),
      ("streaming_after_second_stop", .bool s5.streaming),
      ("emitted_covers_groups", .bool (decide (s5.emitted ≥ firsts.length)))])

end Data
end DepthBridge
