import DepthBridge.Device.Service

/-!
# The simulated camera

A camera made from its settings: a depth imager and a color imager of the configured size and
rate, two infrared imagers when enabled, an accelerometer and a gyroscope at their rates, and
a pose tracker when enabled. Every imager has a pinhole calibration with focal length `0.6 ·
width` centered on the image.

Sensors sit at fixed offsets on the rig (color 15 mm right of depth, the stereo pair 50 mm
apart, the inertial unit near the center); the motion between two sensors is the difference of
their offsets, without rotation. Sensors with no offset (the pose tracker) have no extrinsics.
-/

namespace DepthBridge
namespace Simulated

/-- The distance between the two infrared imagers, in meters. -/
def stereoBaseline : Float32 := 0.05

/-- The pose tracker's rate. -/
def poseRateHz : UInt32 := 200

/-- The decimation factor of the simulated decimation block. -/
def decimationFactor : UInt32 := 2

/-- The offset of the color imager. -/
def colorOffset : List Float32 := [0.015, 0, 0]

/-- The offset of the inertial unit. -/
def imuOffset : List Float32 := [-0.0117, -0.0055, 0.0001]

/-- Checks the settings: a nonzero size, nonzero rates, a positive depth unit. -/
def validate (c : DeviceConfig) : Except DeviceError Unit := do
  if c.width = 0 || c.height = 0 then throw (.invalidConfig "device.width" "resolution must be > 0")
  if c.fps = 0 || c.accelHz = 0 || c.gyroHz = 0 then throw (.invalidConfig "device.fps" "rates must be > 0")
  if c.depthScale.isNaN || c.depthScale ≤ 0 then throw (.invalidConfig "device.depth_scale" "must be > 0")

/-- The profile of an imager. -/
def videoProfile (c : DeviceConfig) (key : StreamKey) (format : PixelFormat) : Profile :=
  let focal := c.width.toFloat32 * 0.6
  { key, format, width := c.width, height := c.height, fps := c.fps
    intrinsics := some { width := c.width, height := c.height, fx := focal, fy := focal
                         ppx := c.width.toFloat32 / 2, ppy := c.height.toFloat32 / 2
                         model := if key.kind == .color then .inverseBrownConrady else .brownConrady
                         coeffs := [0, 0, 0, 0, 0] } }

/-- The profile of an inertial sensor. -/
def motionProfile (kind : StreamKind) (rate : UInt32) : Profile :=
  { key := ⟨kind, 0⟩, format := .motionXyz32f, width := 0, height := 0, fps := rate, intrinsics := none }

/-- The profiles of the simulated camera, in the order it reports them. -/
def profiles (c : DeviceConfig) : List Profile :=
  [videoProfile c ⟨.depth, 0⟩ .z16, videoProfile c ⟨.color, 0⟩ .rgb8]
  ++ (if c.enableInfrared then [videoProfile c ⟨.infrared, 1⟩ .y8, videoProfile c ⟨.infrared, 2⟩ .y8] else [])
  ++ [motionProfile .accel c.accelHz, motionProfile .gyro c.gyroHz]
  ++ (if c.enablePose then
        [{ key := ⟨.pose, 0⟩, format := .sixDof, width := 0, height := 0, fps := poseRateHz, intrinsics := none }]
      else [])

/-- Where a sensor sits on the rig. -/
def position (c : DeviceConfig) (k : StreamKey) : Option (List Float32) :=
  match k.kind, k.index with
  | .depth, 0 => some [0, 0, 0]
  | .color, 0 => some colorOffset
  | .accel, 0 | .gyro, 0 => some imuOffset
  | .infrared, 1 => if c.enableInfrared then some [0, 0, 0] else none
  | .infrared, 2 => if c.enableInfrared then some [stereoBaseline, 0, 0] else none
  | _, _ => none

/-- The motion from sensor `a` to sensor `b`: the difference of their offsets. -/
def extrinsicsBetween (c : DeviceConfig) (a b : StreamKey) : Except ContractError Extrinsics :=
  match position c a, position c b with
  | some pa, some pb =>
    .ok ⟨Extrinsics.identityRotation, (pa.zip pb).map fun (x, y) => x - y⟩
  | _, _ => .error (.extrinsicsUnavailable a.name b.name)

/-- The calibration of an inertial sensor: unit scale, fixed noise, a tenth of it as bias. -/
def motionIntrinsics (p : Profile) : Except ContractError MotionIntrinsics :=
  let noise : Option Float32 := match p.key.kind with
    | .accel => some 1.0e-4
    | .gyro => some 1.0e-5
    | _ => none
  match noise with
  | some n => .ok { MotionIntrinsics.ideal with noiseVariances := [n, n, n], biasVariances := [n * 0.1, n * 0.1, n * 0.1] }
  | none => .error (.motionIntrinsicsUnavailable p.key.name)

/-- The readable options: the chip temperature, and the projector's when it has one. -/
def option (c : DeviceConfig) : DeviceOption → Except ContractError Float32
  | .asicTemperature => .ok 38.5
  | .projectorTemperature =>
    if c.enableInfrared then .ok 34.0 else .error (.optionUnsupported DeviceOption.projectorTemperature.name)

/-- The first profile of a kind. -/
def firstOfKind (c : DeviceConfig) (kind : StreamKind) : Option Profile :=
  (profiles c).find? (·.key.kind == kind)

/-- The block of a stage: decimation by two, the colorizer, a point cloud textured by the
color imager, and pass-through blocks for the rest. -/
def block (c : DeviceConfig) : StageTag → Option Block
  | .decimation => some (.decimation decimationFactor)
  | .colorizer => some .colorizer
  | .pointcloud => do
    let texture ← firstOfKind c .color
    let ex ← (extrinsicsBetween c ⟨.depth, 0⟩ texture.key).toOption
    return .pointCloud texture ex c.depthScale
  | tag => some (.passThrough tag.name)

/-- The block aligning depth to the first imager of a kind, or a pass-through block when there
is none with extrinsics. -/
def alignTo (c : DeviceConfig) (kind : StreamKind) : Block :=
  let aligned := do
    let target ← firstOfKind c kind
    let ex ← (extrinsicsBetween c ⟨.depth, 0⟩ target.key).toOption
    return Block.align target ex c.depthScale
  aligned.getD (.passThrough "align")

end Simulated

namespace Device

/-- The simulated camera of the settings, once they are checked. -/
def simulated (c : DeviceConfig) : Except DeviceError Device := do
  Simulated.validate c
  return { name := "simulated"
           profiles := Simulated.profiles c
           extrinsics := fun a b => Simulated.extrinsicsBetween c a.key b.key
           motionIntrinsics := Simulated.motionIntrinsics
           depthScale := c.depthScale
           option := Simulated.option c
           block := Simulated.block c
           alignTo := Simulated.alignTo c }

/-- The diagnostic text of the simulated camera. -/
def simulatedDebug (c : DeviceConfig) : String :=
  "SimulatedDevice \x7b profiles: " ++ toString (Simulated.profiles c).length ++ ", width: "
    ++ toString c.width ++ ", height: " ++ toString c.height ++ ", fps: " ++ toString c.fps ++ " \x7d"

end Device
end DepthBridge
