import DepthBridge.Device.Service

/-!
# A camera described by tables

Every answer of this camera is looked up in a table given when it is made: its profiles and
depth unit, the motion between listed pairs of sensors (with one answer for every unlisted
pair), the calibration of listed inertial sensors, option readings, the block of each stage
and the align block of each kind of imager.

A lookup that finds nothing gives the camera's usual refusal: extrinsics per the table's
default, `motionIntrinsicsUnavailable` for an unlisted sensor, `optionUnsupported` for an
unlisted option, a pass-through block named after an unlisted stage, and a pass-through
`align` block for an unlisted kind.
-/

namespace DepthBridge

/-- What a table says about the motion between two sensors. -/
inductive ExtrinsicsEntry where
  /-- The motion is known. -/
  | known (e : Extrinsics)
  /-- The device has no calibration between the two. -/
  | unavailable
  /-- Reading the calibration fails with this device message. -/
  | failing (message : String)
  deriving Inhabited

/-- What a table says about one option. -/
inductive OptionEntry where
  | reading (value : Float32)
  | unsupported
  | failing
  deriving Inhabited

/-- The answers of a camera, as tables. -/
structure DeviceTable where
  name : String := "scripted"
  profiles : List Profile := []
  depthScale : Float32 := 0.001
  extrinsics : List (StreamKey × StreamKey × ExtrinsicsEntry) := []
  /-- The answer for every pair not in `extrinsics`. -/
  otherExtrinsics : ExtrinsicsEntry := .unavailable
  /-- Inertial calibrations by stream, or the device message of a failing read. -/
  motionIntrinsics : List (StreamKey × Except String MotionIntrinsics) := []
  options : List (DeviceOption × OptionEntry) := []
  /-- Blocks by stage; `none` means the stage has no block. -/
  blocks : List (StageTag × Option Block) := []
  align : List (StreamKind × Block) := []
  deriving Inhabited

namespace DeviceTable

/-- The motion from `a` to `b`. -/
def extrinsicsBetween (t : DeviceTable) (a b : Profile) : Except ContractError Extrinsics :=
  let entry := ((t.extrinsics.find? fun (x, y, _) => x == a.key && y == b.key).map
    fun (_, _, e) => e).getD t.otherExtrinsics
  match entry with
  | .known e => .ok e
  | .unavailable => .error (.extrinsicsUnavailable a.key.name b.key.name)
  | .failing m => .error (.device m)

/-- The calibration of an inertial sensor. -/
def motionIntrinsicsOf (t : DeviceTable) (p : Profile) : Except ContractError MotionIntrinsics :=
  match t.motionIntrinsics.lookup p.key with
  | some (.ok m) => .ok m
  | some (.error m) => .error (.device m)
  | none => .error (.motionIntrinsicsUnavailable p.key.name)

/-- An option reading. -/
def optionOf (t : DeviceTable) (o : DeviceOption) : Except ContractError Float32 :=
  match t.options.lookup o with
  | some (.reading v) => .ok v
  | some .failing => .error (.device "option read failed")
  | _ => .error (.optionUnsupported o.name)

end DeviceTable

namespace Device

/-- The camera whose answers are the tables `t`. -/
def ofTable (t : DeviceTable) : Device :=
  { name := t.name
    profiles := t.profiles
    extrinsics := t.extrinsicsBetween
    motionIntrinsics := t.motionIntrinsicsOf
    depthScale := t.depthScale
    option := t.optionOf
    block := fun tag => (t.blocks.lookup tag).getD (some (.passThrough tag.name))
    alignTo := fun kind => (t.align.lookup kind).getD (.passThrough "align") }

end Device
end DepthBridge
