import DepthBridge.Device.Block
import DepthBridge.Config.Basic

/-!
# Devices

What the bridge asks of a depth camera: its name and stream profiles, the rigid motion between
two of its sensors, the calibration of its inertial sensors, its depth unit, a few readable
options, a processing block per post-processing stage (or none), and a block that aligns depth
to a kind of imager.

A `Device` is that record of answers; the simulated camera, the fixed test camera and a camera
described by tables are all built as values of it.
-/

namespace DepthBridge

/-- A camera as the bridge sees it. -/
structure Device where
  name : String
  profiles : List Profile
  extrinsics : Profile → Profile → Except ContractError Extrinsics
  motionIntrinsics : Profile → Except ContractError MotionIntrinsics
  depthScale : Float32
  option : DeviceOption → Except ContractError Float32
  block : StageTag → Option Block
  alignTo : StreamKind → Block

instance : Inhabited Device :=
  ⟨{ name := "", profiles := [], extrinsics := fun _ _ => .ok Extrinsics.identity,
     motionIntrinsics := fun _ => .ok MotionIntrinsics.ideal, depthScale := 0.001,
     option := fun o => .error (.optionUnsupported o.name), block := fun _ => none,
     alignTo := fun _ => .passThrough "align" }⟩

namespace Device

/-- The temperatures the device can report, in order; unsupported or failing readings are
left out. -/
def temperatures (d : Device) : List (DeviceOption × Float32) :=
  DeviceOption.temperatures.filterMap fun o =>
    match d.option o with
    | .ok v => some (o, v)
    | .error _ => none

end Device
end DepthBridge
