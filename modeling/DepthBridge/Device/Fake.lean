import DepthBridge.Device.Service

/-!
# The fixed test camera

A small camera with fixed answers, for exercising the bridge: 4×2 imagers at 30 frames per
second with a simple calibration (depth, color, and an infrared pair), an accelerometer and a
gyroscope at 200 Hz without calibration. Its stereo pair and color imager sit 50 mm from
depth; the inertial sensors have no extrinsics. Every stage gets a pass-through block.

The frame makers build frames of these streams: a whole image of given bytes, an inertial
reading, and a frameset of a flat depth image and a grey color image.
-/

namespace DepthBridge
namespace Fake

/-- The imagers' width. -/
def width : UInt32 := 4

/-- The imagers' height. -/
def height : UInt32 := 2

/-- The profile of a test imager. -/
def videoProfile (kind : StreamKind) (index : UInt8) (format : PixelFormat) : Profile :=
  { key := ⟨kind, index⟩, format, width, height, fps := 30
    intrinsics := some { width, height, fx := 2, fy := 2, ppx := 2, ppy := 1,
                         model := .brownConrady, coeffs := [0, 0, 0, 0, 0] } }

/-- The profile of a test inertial sensor. -/
def motionProfile (kind : StreamKind) : Profile :=
  { key := ⟨kind, 0⟩, format := .motionXyz32f, width := 0, height := 0, fps := 200, intrinsics := none }

/-- The test camera's profiles, with or without the depth imager. -/
def profiles (withDepth : Bool) : List Profile :=
  (if withDepth then [videoProfile .depth 0 .z16] else [])
  ++ [videoProfile .color 0 .rgb8, videoProfile .infrared 1 .y8, videoProfile .infrared 2 .y8,
      motionProfile .accel, motionProfile .gyro]

/-- A whole image of a test imager. -/
def videoFrame (kind : StreamKind) (index : UInt8) (format : PixelFormat) (data : ByteArray)
    (number : UInt64) (timestampMs : Float) : Frame :=
  { profile := videoProfile kind index format, timestampMs, domain := .hardwareClock, number
    payload := .video ⟨width, height, format.bytesPerPixel.getD 1, data⟩ }

/-- An inertial reading of a test sensor. -/
def motionFrame (kind : StreamKind) (reading : MotionReading) (timestampMs : Float) : Frame :=
  { profile := motionProfile kind, timestampMs, domain := .hardwareClock, number := 0
    payload := .motion reading.encode }

/-- A frameset of a depth image at one meter everywhere and a mid-grey color image. -/
def frameset (number : UInt64) (timestampMs : Float) : Frameset :=
  let pixels := (width * height).toNat
  ⟨[videoFrame .depth 0 .z16 ⟨(List.replicate pixels [232, 3]).flatten.toArray⟩ number timestampMs,
    videoFrame .color 0 .rgb8 ⟨(List.replicate (pixels * 3) 128).toArray⟩ number timestampMs]⟩

/-- The motion between two test sensors. -/
def extrinsics (a b : Profile) : Except ContractError Extrinsics :=
  if a.key == b.key then .ok Extrinsics.identity
  else if a.key.kind.isMotion || b.key.kind.isMotion then
    .error (.extrinsicsUnavailable a.key.name b.key.name)
  else .ok ⟨Extrinsics.identityRotation, [0.05, 0, 0]⟩

end Fake

namespace Device

/-- The fixed test camera, with or without its depth imager. -/
def fake (withDepth : Bool) : Device :=
  { name := "fake"
    profiles := Fake.profiles withDepth
    extrinsics := Fake.extrinsics
    motionIntrinsics := fun p => .error (.motionIntrinsicsUnavailable p.key.name)
    depthScale := 0.001
    option := fun
      | .asicTemperature => .ok 41.5
      | .projectorTemperature => .error (.optionUnsupported DeviceOption.projectorTemperature.name)
    block := fun tag => some (.passThrough tag.name)
    alignTo := fun _ => .passThrough "align" }

end Device
end DepthBridge
