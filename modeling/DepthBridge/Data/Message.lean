import DepthBridge.Message
import DepthBridge.Json.Value
import DepthBridge.Text.Blank

/-!
# Messages as JSON

The data form of every bus message: an object whose `kind` names the message, with its fields
under their bus names. Doubles are JSON numbers (non-finite ones the strings `NaN`, `inf`,
`-inf`), singles are widened exactly to doubles, stamps are integer nanoseconds and image bytes
are lower-case hexadecimal.
-/

namespace DepthBridge
namespace Data

/-- A list of doubles. -/
def floats (xs : List Float) : Json := .arr (xs.map Json.num)

/-- A list of singles. -/
def singles (xs : List Float32) : Json := .arr (xs.map Json.num32)

/-- A stamp as nanoseconds. -/
def stamp (s : Stamp) : Json := .int s.nanos

/-- A header. -/
def header (h : Header) : Json := .obj [("stamp", stamp h.stamp), ("frame_id", .str h.frameId)]

/-- A vector `{x, y, z}`. -/
def vector (v : Vector3) : Json := .obj [("x", .num v.x), ("y", .num v.y), ("z", .num v.z)]

/-- A quaternion `{x, y, z, w}`. -/
def quaternion (q : Quaternion) : Json :=
  .obj [("x", .num q.x), ("y", .num q.y), ("z", .num q.z), ("w", .num q.w)]

/-- One transform. -/
def transform (t : Transform) : Json :=
  .obj [("stamp", stamp t.stamp), ("translation", vector t.translation),
    ("rotation", quaternion t.rotation), ("parent_frame", .str t.parentFrame),
    ("child_frame", .str t.childFrame)]

/-- A message with its kind first. -/
def message (m : Message) : Json :=
  let fields : List (String × Json) := match m with
    | .image i =>
      [("header", header i.header), ("width", .nat i.width.toNat), ("height", .nat i.height.toNat),
       ("encoding", .str i.encoding), ("is_bigendian", .bool i.isBigendian),
       ("step", .nat i.step.toNat), ("data", .str (Text.hexOfBytes i.data))]
    | .cameraInfo c =>
      [("header", header c.header), ("width", .nat c.width.toNat), ("height", .nat c.height.toNat),
       ("distortion_model", .str c.distortionModel), ("d", floats c.d), ("k", floats c.k),
       ("r", floats c.r), ("p", floats c.p)]
    | .imu i =>
      [("header", header i.header), ("orientation", quaternion i.orientation),
       ("orientation_covariance", floats i.orientationCovariance),
       ("angular_velocity", vector i.angularVelocity),
       ("angular_velocity_covariance", floats i.angularVelocityCovariance),
       ("linear_acceleration", vector i.linearAcceleration),
       ("linear_acceleration_covariance", floats i.linearAccelerationCovariance)]
    | .odometry o =>
      [("header", header o.header), ("child_frame_id", .str o.childFrameId),
       ("pose", .obj [("position", vector o.pose.position),
                      ("orientation", quaternion o.pose.orientation)]),
       ("pose_covariance", floats o.poseCovariance),
       ("twist", .obj [("linear", vector o.twist.linear), ("angular", vector o.twist.angular)]),
       ("twist_covariance", floats o.twistCovariance)]
    | .transforms ts => [("transforms", .arr (ts.map transform))]
    | .pointCloud p =>
      [("header", header p.header),
       ("points", .arr (p.points.map fun (x, y, z) => singles [x, y, z])),
       ("colors", match p.colors with
         | some cs => .arr (cs.map fun (r, g, b) => .arr [.nat r.toNat, .nat g.toNat, .nat b.toNat])
         | none => .null)]
    | .imuInfo i =>
      [("header", header i.header), ("data", floats i.data),
       ("noise_variances", floats i.noiseVariances), ("bias_variances", floats i.biasVariances)]
    | .extrinsics e =>
      [("header", header e.header), ("rotation", floats e.rotation),
       ("translation", floats e.translation)]
  .obj (("kind", .str m.kind) :: fields)

/-- A publication: the channel's name and the message. -/
def publication (c : Channel) (m : Message) : Json :=
  .obj [("channel", .str c.name), ("message", message m)]

end Data
end DepthBridge
