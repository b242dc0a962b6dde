import DepthBridge.Stream
import DepthBridge.Text.Blank
import DepthBridge.Error
import DepthBridge.Decimal.Layout

/-!
# Bridge configuration

Everything the bridge is told before it starts: the camera's name (the prefix of every frame
name), depth clipping, how inertial samples are combined, covariance constants, the bound of
the inertial queue, the transform tree, the ordered post-processing stages, point cloud
texturing, the temperature monitor and the simulated device. Every field has a default, so an
empty document is a complete configuration.

`DriverConfig.validate` checks the rules in a fixed order and reports the first one broken.
-/

namespace DepthBridge

/-- A post-processing stage. -/
inductive StageTag where
  | decimation | disparityStart | spatial | temporal | holeFilling | disparityEnd
  | colorizer | pointcloud
  deriving DecidableEq, Repr, Inhabited

namespace StageTag

/-- Every stage, in the order a pipeline runs them. -/
def canonical : List StageTag :=
  [.decimation, .disparityStart, .spatial, .temporal, .holeFilling, .disparityEnd,
   .colorizer, .pointcloud]

/-- The stage's name. -/
def name : StageTag → String
  | .decimation => "decimation" | .disparityStart => "disparity_start"
  | .spatial => "spatial" | .temporal => "temporal" | .holeFilling => "hole_filling"
  | .disparityEnd => "disparity_end" | .colorizer => "colorizer" | .pointcloud => "pointcloud"

/-- The stage's name in diagnostic dumps. -/
def label : StageTag → String
  | .decimation => "Decimation" | .disparityStart => "DisparityStart"
  | .spatial => "Spatial" | .temporal => "Temporal" | .holeFilling => "HoleFilling"
  | .disparityEnd => "DisparityEnd" | .colorizer => "Colorizer" | .pointcloud => "Pointcloud"

/-- The stage named `s`. -/
def ofName? (s : String) : Option StageTag := canonical.find? (·.name == s)

end StageTag

/-- How accelerometer and gyroscope samples are combined. -/
inductive ImuSyncMethod where
  | none | copy | linearInterpolation
  deriving DecidableEq, Repr, Inhabited

namespace ImuSyncMethod

/-- Every method. -/
def all : List ImuSyncMethod := [.none, .copy, .linearInterpolation]

/-- The method's name in data files. -/
def name : ImuSyncMethod → String
  | .none => "none" | .copy => "copy" | .linearInterpolation => "linear_interpolation"

/-- The method's name in diagnostic text. -/
def label : ImuSyncMethod → String
  | .none => "None" | .copy => "Copy" | .linearInterpolation => "LinearInterpolation"

/-- The method named `s`. -/
def ofName? (s : String) : Option ImuSyncMethod := all.find? (·.name == s)

end ImuSyncMethod

/-- A readable device option. -/
inductive DeviceOption where
  | asicTemperature | projectorTemperature
  deriving DecidableEq, Repr, Inhabited

namespace DeviceOption

/-- The temperatures, in the order they are read. -/
def temperatures : List DeviceOption := [.asicTemperature, .projectorTemperature]

/-- The option's name. -/
def name : DeviceOption → String
  | .asicTemperature => "asic_temperature" | .projectorTemperature => "projector_temperature"

/-- The option named `s`. -/
def ofName? (s : String) : Option DeviceOption := temperatures.find? (·.name == s)

end DeviceOption

/-- One entry of the ordered stage list. -/
structure FilterConfig where
  name : StageTag
  enabled : Bool := false
  deriving DecidableEq, Repr, Inhabited

/-- Covariance constants attached to inertial messages. -/
structure ImuCovariance where
  linearAccelCov : Float := 0.01
  angularVelocityCov : Float := 0.01
  deriving Inhabited

/-- Point cloud texturing. -/
structure PointCloudConfig where
  textureStream : StreamKind := .color
  textureIndex : UInt8 := 0
  allowNoTexturePoints : Bool := false
  deriving Inhabited

namespace PointCloudConfig

/-- The stream that colors the cloud. -/
def textureKey (c : PointCloudConfig) : StreamKey := ⟨c.textureStream, c.textureIndex⟩

end PointCloudConfig

/-- The temperature monitor. -/
structure MonitorConfig where
  enabled : Bool := true
  intervalMs : UInt64 := 10000
  deriving Inhabited

/-- The simulated device. -/
structure DeviceConfig where
  width : UInt32 := 640
  height : UInt32 := 480
  fps : UInt32 := 30
  accelHz : UInt32 := 63
  gyroHz : UInt32 := 200
  depthScale : Float32 := 0.001
  enableInfrared : Bool := true
  enablePose : Bool := false
  systemTimeDomain : Bool := false
  seed : UInt64 := 0
  deriving Inhabited

/-- The whole configuration. -/
structure DriverConfig where
  cameraName : String := "camera"
  clipDistance : Float32 := -1
  alignDepth : Bool := false
  uniteImuMethod : ImuSyncMethod := .none
  imu : ImuCovariance := {}
  imuQueueCapacity : UInt64 := 1000
  publishTf : Bool := true
  tfPublishRate : Float := 0
  publishOdomTf : Bool := true
  filters : List FilterConfig := StageTag.canonical.map fun t => ⟨t, false⟩
  pointcloud : PointCloudConfig := {}
  monitor : MonitorConfig := {}
  device : DeviceConfig := {}
  deriving Inhabited

namespace DriverConfig

/-- Whether a stage is listed and enabled. -/
def filterEnabled (c : DriverConfig) (tag : StageTag) : Bool :=
  c.filters.any fun f => f.name == tag && f.enabled

/-- The index of the first stage that repeats an earlier one. -/
def firstRepeat? (fs : List FilterConfig) : Option (Nat × StageTag) :=
  let rec go (seen : List StageTag) (i : Nat) : List FilterConfig → Option (Nat × StageTag)
    | [] => none
    | f :: rest => if seen.contains f.name then some (i, f.name) else go (f.name :: seen) (i + 1) rest
  go [] 0 fs

/-- A covariance must be finite and not negative. -/
def covarianceRule (field : String) (v : Float) : Option ContractError :=
  if !v.isFinite || v < 0 then
    some (.configValidation field
      s!"covariance must be finite and >= 0, got {Decimal.Style.plain.double v}")
  else none

/-- A device rate must be positive. -/
def rateRule (field : String) (v : UInt32) : Option ContractError :=
  if v == 0 then some (.configValidation field "rate must be > 0") else none

/-- The rules a configuration must keep, in the order they are checked, each as the error it
reports when broken: camera name, repeated stages, queue bound, covariances (linear first),
republish rate, clipping distance, monitor interval, texture stream, device resolution, device
rates, depth scale. -/
def rules (c : DriverConfig) : List (Option ContractError) :=
  let d := c.device
  [if Text.isAllBlank c.cameraName then
      some (.configValidation "camera_name" "camera_name cannot be empty")
    else none,
   match firstRepeat? c.filters with
   | some (i, tag) => some (.configValidation s!"filters[{i}].name" s!"duplicate filter '{tag.name}'")
   | none => none,
   if c.imuQueueCapacity == 0 then
      some (.configValidation "imu_queue_capacity" "imu_queue_capacity must be > 0")
    else none,
   covarianceRule "imu.linear_accel_cov" c.imu.linearAccelCov,
   covarianceRule "imu.angular_velocity_cov" c.imu.angularVelocityCov,
   if !c.tfPublishRate.isFinite then
      some (.configValidation "tf_publish_rate"
        s!"tf_publish_rate must be finite, got {Decimal.Style.plain.double c.tfPublishRate}")
    else none,
   if !c.clipDistance.isFinite then
      some (.configValidation "clip_distance" "clip_distance must be finite")
    else none,
   if c.monitor.enabled && c.monitor.intervalMs == 0 then
      some (.configValidation "monitor.interval_ms"
        "interval_ms must be > 0 when the monitor is enabled")
    else none,
   if !c.pointcloud.textureStream.isVideo then
      some (.configValidation "pointcloud.texture_stream"
        s!"'{c.pointcloud.textureStream.shortName}' cannot texture a point cloud")
    else none,
   if d.width == 0 || d.height == 0 then
      some (.configValidation "device.width / device.height"
        s!"resolution must be > 0, got {d.width}x{d.height}")
    else none,
   rateRule "device.fps" d.fps,
   rateRule "device.accel_hz" d.accelHz,
   rateRule "device.gyro_hz" d.gyroHz,
   if !(d.depthScale.isFinite && d.depthScale > 0) then
      some (.configValidation "device.depth_scale"
        s!"depth_scale must be > 0, got {Decimal.Style.plain.single d.depthScale}")
    else none]

/-- The first rule the configuration breaks, in the order of `rules`. -/
def validate (c : DriverConfig) : Except ContractError Unit :=
  match c.rules.findSome? id with
  | some e => .error e
  | none => .ok ()

end DriverConfig

end DepthBridge
