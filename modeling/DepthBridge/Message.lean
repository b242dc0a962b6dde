import DepthBridge.Stamp
import DepthBridge.Stream

/-!
# Bus messages

What the bridge publishes: images with their calibration, inertial samples, odometry, rigid
transforms between sensor frames, point clouds, and the one-shot calibration messages of the
inertial sensors and of the stereo rig. Every message but a transform list carries a header:
a stamp and the name of the frame its data is expressed in.
-/

namespace DepthBridge

/-- A vector of three coordinates. -/
structure Vec3 (α : Type) where
  x : α
  y : α
  z : α
  deriving Inhabited

/-- The zero vector. -/
def Vec3.zero {α : Type} [OfNat α 0] : Vec3 α := ⟨0, 0, 0⟩

/-- A quaternion `w + xi + yj + zk`. -/
structure Quat (α : Type) where
  x : α
  y : α
  z : α
  w : α
  deriving Inhabited

/-- A vector of three doubles. -/
abbrev Vector3 := Vec3 Float

/-- A rotation quaternion of doubles. -/
abbrev Quaternion := Quat Float

namespace Quaternion

/-- The rotation that changes nothing. -/
def identity : Quaternion := ⟨0, 0, 0, 1⟩

/-- All four components zero: no orientation known. -/
def zero : Quaternion := ⟨0, 0, 0, 0⟩

end Quaternion

/-- When and in which frame a message's data holds. -/
structure Header where
  stamp : Stamp
  frameId : String
  deriving Inhabited

/-- One image. -/
structure ImageMessage where
  header : Header
  width : UInt32
  height : UInt32
  encoding : String
  isBigendian : Bool
  step : UInt32
  data : ByteArray
  deriving Inhabited

/-- The calibration of an image: distortion coefficients, camera matrix `k` and rectification
`r` (3×3, row-major), projection `p` (3×4, row-major). -/
structure CameraInfo where
  header : Header
  width : UInt32
  height : UInt32
  distortionModel : String
  d : List Float
  k : List Float
  r : List Float
  p : List Float
  deriving Inhabited

/-- One inertial sample with the covariances of its parts. -/
structure ImuMessage where
  header : Header
  orientation : Quaternion
  orientationCovariance : List Float
  angularVelocity : Vector3
  angularVelocityCovariance : List Float
  linearAcceleration : Vector3
  linearAccelerationCovariance : List Float
  deriving Inhabited

/-- The bytes an inertial message takes in memory: the header's 8-byte stamp and 24-byte frame
name, the orientation's four doubles, two vectors of three and three covariances of nine. -/
def ImuMessage.bytes : Nat := 8 + 24 + 4 * 8 + 2 * 24 + 3 * 72

/-- The rigid motion from `parentFrame` to `childFrame` at `stamp`. -/
structure Transform where
  stamp : Stamp
  translation : Vector3
  rotation : Quaternion
  parentFrame : String
  childFrame : String
  deriving Inhabited

/-- A position and an orientation. -/
structure Pose where
  position : Vector3 := .zero
  orientation : Quaternion := .identity
  deriving Inhabited

/-- A linear and an angular velocity. -/
structure Twist where
  linear : Vector3 := .zero
  angular : Vector3 := .zero
  deriving Inhabited

/-- The tracked pose of the rig with its velocities and covariances (6×6, row-major). -/
structure Odometry where
  header : Header
  childFrameId : String
  pose : Pose
  poseCovariance : List Float
  twist : Twist
  twistCovariance : List Float
  deriving Inhabited

/-- A point of a cloud, in meters. -/
abbrev Point3 := Float32 × Float32 × Float32

/-- An RGB color. -/
abbrev Rgb := UInt8 × UInt8 × UInt8

/-- A point cloud, with one color per point when it is textured. -/
structure PointCloudMessage where
  header : Header
  points : List Point3
  colors : Option (List Rgb)
  deriving Inhabited

/-- The calibration of an inertial sensor: its 3×4 matrix row-major and its variances. -/
structure ImuInfo where
  header : Header
  data : List Float
  noiseVariances : List Float
  biasVariances : List Float
  deriving Inhabited

/-- The rigid motion from the depth sensor to another imager. -/
structure ExtrinsicsMessage where
  header : Header
  rotation : List Float
  translation : List Float
  deriving Inhabited

/-- Anything published on the bus. -/
inductive Message where
  | image (m : ImageMessage)
  | cameraInfo (m : CameraInfo)
  | imu (m : ImuMessage)
  | odometry (m : Odometry)
  | transforms (list : List Transform)
  | pointCloud (m : PointCloudMessage)
  | imuInfo (m : ImuInfo)
  | extrinsics (m : ExtrinsicsMessage)
  deriving Inhabited

namespace Message

/-- The name of the message's kind. -/
def kind : Message → String
  | .image _ => "image"
  | .cameraInfo _ => "camera_info"
  | .imu _ => "imu"
  | .odometry _ => "odometry"
  | .transforms _ => "transforms"
  | .pointCloud _ => "point_cloud"
  | .imuInfo _ => "imu_info"
  | .extrinsics _ => "extrinsics"

end Message

/-- Where a message is published. -/
inductive Channel where
  | image (key : StreamKey)
  | cameraInfo (key : StreamKey)
  | alignedDepthImage (key : StreamKey)
  | alignedDepthInfo (key : StreamKey)
  | imu (key : StreamKey)
  | syncedImu
  | odometry
  | pointCloud
  | tf
  | tfStatic
  | imuInfo (key : StreamKey)
  | extrinsics (key : StreamKey)
  deriving DecidableEq, Repr, Inhabited

namespace Channel

/-- The channel's name on the bus. -/
def name : Channel → String
  | .image k => k.name ++ "/image_raw"
  | .cameraInfo k => k.name ++ "/camera_info"
  | .alignedDepthImage k => "aligned_depth_to_" ++ k.name ++ "/image_raw"
  | .alignedDepthInfo k => "aligned_depth_to_" ++ k.name ++ "/camera_info"
  | .imu k => k.name ++ "/sample"
  | .syncedImu => "imu"
  | .odometry => "odom/sample"
  | .pointCloud => "depth/color/points"
  | .tf => "/tf"
  | .tfStatic => "/tf_static"
  | .imuInfo k => k.name ++ "/imu_info"
  | .extrinsics k => "extrinsics/" ++ StreamKind.depth.shortName ++ "_to_" ++ k.name

/-- The channel named `s`, if any. -/
def ofName? (s : String) : Option Channel :=
  if s == "imu" then some .syncedImu
  else if s == "odom/sample" then some .odometry
  else if s == "depth/color/points" then some .pointCloud
  else if s == "/tf" then some .tf
  else if s == "/tf_static" then some .tfStatic
  else
    let keyed : List (String × String × (StreamKey → Channel)) :=
      [("aligned_depth_to_", "/image_raw", .alignedDepthImage),
       ("aligned_depth_to_", "/camera_info", .alignedDepthInfo),
       ("extrinsics/depth_to_", "", .extrinsics),
       ("", "/image_raw", .image), ("", "/camera_info", .cameraInfo),
       ("", "/sample", .imu), ("", "/imu_info", .imuInfo)]
    keyed.findSome? fun (pre, post, mk) =>
      if s.startsWith pre && s.endsWith post && s.length ≥ pre.length + post.length then
        let middle := String.ofList ((s.toList.drop pre.length).take (s.length - pre.length - post.length))
        (StreamKey.ofName? middle).map mk
      else none

end Channel

end DepthBridge
