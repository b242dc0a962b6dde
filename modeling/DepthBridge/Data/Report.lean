import DepthBridge.Data.Bridge
import DepthBridge.Data.Error

/-!
# Reports

JSON summaries of single values: what a stream key names and where its messages go, the
facts of each frame of a frameset, a timestamp's readings, a device's answers to questions,
and minimal messages of each kind built from a short description.
-/

namespace DepthBridge
namespace Data

open Json

/-- A computation that may halt, its halt reported as an error. -/
def haltOr (r : Except Halt Json) : Json :=
  match r with
  | .ok v => v
  | .error h => halt h

/-- A computation that may fail with a contract error, the error reported. -/
def contractOr (r : Except ContractError Json) : Json :=
  match r with
  | .ok v => v
  | .error e => contractError e

/-- The frame names of a stream under a camera. -/
def frameNames (names : FrameNames) (k : StreamKey) : List (String × Json) :=
  [("frame_id", .str (names.frameId k)), ("optical_frame_id", .str (names.opticalFrameId k)),
   ("aligned_depth_frame_id", .str (names.alignedDepthFrameId k)),
   ("imu_optical_frame_id", .str names.imuOpticalFrameId), ("odom_frame", .str names.odomFrame)]

/-- A stream key: its names, class, frames and channels, and whether its name reads back. -/
def keyReport (names : FrameNames) (k : StreamKey) : Json :=
  let channels : List Channel := [.image k, .cameraInfo k, .alignedDepthImage k, .alignedDepthInfo k,
    .imu k, .imuInfo k, .extrinsics k]
  .obj ([("name", .str k.name), ("display", .str k.name), ("kind", .str k.kind.shortName),
    ("is_motion", .bool k.kind.isMotion), ("is_video", .bool k.kind.isVideo)] ++ frameNames names k ++
    [("channels", .arr (channels.map (.str ·.name))), ("roundtrip", .bool (StreamKey.ofName? k.name == some k))])

/-- A timestamp's seconds and text, and optionally the stamp of a number of seconds, the stamp
offset by some nanoseconds and the stamp plus a duration; the first halt wins. -/
def stampReport (s : Stamp) (secs offset : Option Float) (add : Option Nat) : Except Halt Json := do
  let mut fields : List (String × Json) := [("as_secs", .num s.toSecs), ("display", .str s.display)]
  if let some x := secs then fields := fields ++ [("from_secs", .int (Stamp.ofSecs x).nanos)]
  if let some x := offset then fields := fields ++ [("offset", .int (← s.offset x).nanos)]
  if let some n := add then fields := fields ++ [("add", .int (← s.addDuration n).nanos)]
  return .obj fields

/-- The facts of each frame; the stride of a buffer whose rows overflow halts. -/
def frameFacts (s : Frameset) : Except Halt Json :=
  Json.arr <$> s.frames.mapM fun f => do
    let stride ← match f.video? with
      | some v => Json.nat <$> v.stride
      | none => pure .null
    return .obj [("key", .str f.key.name), ("kind", .str f.kind.shortName), ("format", .str f.format.tag),
      ("is_points", .bool f.isPoints), ("is_depth_z16", .bool f.isDepthZ16),
      ("metadata_available", .bool f.metadataAvailable), ("stride", stride)]

/-- A frameset's size, time, domain, first frame of each kind, frame numbers of the streams
`gets`, and the facts of its frames. -/
def framesetReport (s : Frameset) (gets : List StreamKey) : Except Halt (List (String × Json)) := do
  return [("len", .nat s.frames.length), ("is_empty", .bool s.frames.isEmpty),
    ("timestamp_ms", match s.timestampMs? with | some t => .num t | none => .null),
    ("domain", .str s.domain.tag),
    ("first", .obj (StreamKind.all.map fun k => (k.shortName, match s.frames.findIdx? (·.kind == k) with
      | some i => .nat i | none => .null))),
    ("get", .arr (gets.map fun k => match s.get? k with | some f => .nat f.number.toNat | none => .null)),
    ("frames", ← frameFacts s)]

/-- A minimal message of a kind: every field zero, empty or false but those described (stamp,
frame, image size and encoding, number of transforms or points, texturing). -/
def readMessageSpec (o : Json) : Decode Message := do
  let stamp : Stamp := ⟨← optional o "stamp" asInt? 0⟩
  let header : Header := ⟨stamp, ← optional o "frame_id" asStr? ""⟩
  let zeros (n : Nat) : List Float := List.replicate n 0
  match ← need o "kind" asStr? with
  | "image" =>
    let width := (← optional o "width" (asBounded? 32) 0).toUInt32
    let height := (← optional o "height" (asBounded? 32) 0).toUInt32
    let encoding ← optional o "encoding" asStr? "mono8"
    return .image { header, width, height, encoding, isBigendian := false, step := 0, data := .empty }
  | "camera_info" =>
    return .cameraInfo
      { header, width := 0, height := 0, distortionModel := "", d := [], k := zeros 9, r := zeros 9, p := zeros 12 }
  | "imu" =>
    return .imu
      { header, orientation := .identity, orientationCovariance := zeros 9, angularVelocity := .zero
        angularVelocityCovariance := zeros 9, linearAcceleration := .zero, linearAccelerationCovariance := zeros 9 }
  | "odometry" =>
    return .odometry
      { header, childFrameId := "", pose := {}, poseCovariance := zeros 36, twist := {}, twistCovariance := zeros 36 }
  | "transforms" => return .transforms (List.replicate (← optional o "count" asNat? 0) ⟨stamp, .zero, .identity, "", ""⟩)
  | "point_cloud" =>
    let n ← optional o "count" asNat? 0
    let textured ← optional o "textured" asBool? false
    return .pointCloud
      { header, points := List.replicate n (0, 0, 0), colors := if textured then some (List.replicate n (0, 0, 0)) else none }
  | "imu_info" => return .imuInfo { header, data := zeros 12, noiseVariances := zeros 3, biasVariances := zeros 3 }
  | "extrinsics" => return .extrinsics { header, rotation := zeros 9, translation := zeros 3 }
  | other => throw s!"unknown message kind {other}"

/-- A device's answer to a question `q`: its name, depth unit, blocks, align blocks, options,
inertial calibration or extrinsics (profiles merged against its own). -/
def deviceAnswer (d : Device) (q : Json) : Decode Json := do
  match ← need q "q" asStr? with
  | "name" => return ok (.str d.name)
  | "depth_scale" => return ok (.num32 d.depthScale)
  | "blocks" => return ok (.arr (StageTag.canonical.map fun t =>
      .arr [.str t.name, match d.block t with | some b => .str b.name | none => .null]))
  | "align_to" => return ok (.str (d.alignTo (← needChoice q "stream" kindTable)).name)
  | "option" =>
    let o ← needChoice q "option" (DeviceOption.temperatures.map fun o => (o.name, o))
    return contractOr ((d.option o).map (ok ∘ .num32))
  | "motion_intrinsics" =>
    let p ← readProfile d.profiles q
    return contractOr ((d.motionIntrinsics p).map fun m => ok (.obj [
      ("data", .arr (m.data.map singles)), ("noise_variances", singles m.noiseVariances),
      ("bias_variances", singles m.biasVariances)]))
  | "extrinsics" =>
    let a ← readProfile d.profiles (← need q "from" some)
    let b ← readProfile d.profiles (← need q "to" some)
    return contractOr ((d.extrinsics a b).map (ok ∘ extrinsics))
  | other => throw s!"unknown query {other}"

end Data
end DepthBridge
