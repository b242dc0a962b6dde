import DepthBridge.Data.Stream
import DepthBridge.Device.Fake
import DepthBridge.Device.Simulated
import DepthBridge.Device.Table
import DepthBridge.Config.Load

/-!
# Devices as JSON

A device is named `"simulated"` (or left out), `{"simulated": settings}`,
`{"fake": "full" | "without_depth"}` for the fixed test camera, or `{"scripted": tables}` for a
camera described by tables.

A block is `"passthrough"`, `"colorizer"`, `"drop_depth"`, or an object with a `type`:
`decimation` (factor, 2 by default, 0 read as 1), `pointcloud` (texture profile), `align`
(target profile), `fail` (message) or `colorizer`. Profiles named in blocks are merged against
the tables' profiles, and a block's depth unit defaults to the device's.

Configuration objects are read as configuration files are, defaults filled in and nothing
checked.
-/

namespace DepthBridge
namespace Data

open Json

/-- Stages by name. -/
def stageTable : List (String × StageTag) := StageTag.canonical.map fun t => (t.name, t)

/-- The stage named in field `key`. -/
def readStageTag (j : Json) (key : String) : Decode StageTag := needChoice j key stageTable

/-- A configuration object, defaults filled in, without the checks a loaded file gets. -/
def readDriverConfig (j : Json) : Decode DriverConfig :=
  match DriverConfig.parse j.render .json with
  | .ok c => pure c
  | .error e => throw e.message

/-- Simulated device settings, defaults filled in. -/
def readDeviceConfig (j : Json) : Decode DeviceConfig :=
  DriverConfig.device <$> readDriverConfig (.obj [("device", j)])

/-- Simulated device settings in field `key`, the defaults when it is missing. -/
def readDeviceConfigIn (j : Json) (key : String) : Decode DeviceConfig :=
  match j.field? key with
  | some c => readDeviceConfig c
  | none => pure {}

/-- Point cloud texturing settings in field `key`, defaults filled in. -/
def readPointCloudConfigIn (j : Json) (key : String) : Decode PointCloudConfig := do
  let c := (j.field? key).getD (.obj [])
  return { textureStream := ← optionalChoice c "texture_stream" kindTable .color
           textureIndex := (← optional c "texture_index" (asBounded? 8) 0).toUInt8
           allowNoTexturePoints := ← optional c "allow_no_texture_points" asBool? false }

/-- A block; `passName` names a pass-through block, and profiles merge against `base`. -/
def readBlock (base : List Profile) (scale : Float32) (passName : String) (j : Json) : Decode Block :=
  match j with
  | .str "passthrough" => pure (.passThrough passName)
  | .str "colorizer" => pure .colorizer
  | .str "drop_depth" => pure .dropDepth
  | .str other => throw s!"unknown block {other}"
  | _ => do
    let scaleOf : Decode Float32 := (·.toFloat32) <$> optional j "depth_scale" asFloat? scale.toFloat
    match ← need j "type" asStr? with
    | "decimation" => return .decimation (← optional j "factor" (asBounded? 32) 2).toUInt32
    | "pointcloud" =>
      return .pointCloud (← readProfile base (← need j "texture" some)) (← readExtrinsicsIn j "extrinsics") (← scaleOf)
    | "align" =>
      return .align (← readProfile base (← need j "target" some)) (← readExtrinsicsIn j "extrinsics") (← scaleOf)
    | "fail" => return .failing (← optional j "message" asStr? "block failed")
    | "colorizer" => return .colorizer
    | "passthrough" => return .passThrough passName
    | "drop_depth" => return .dropDepth
    | other => throw s!"unknown block {other}"

/-- A failure named in a table: `"unavailable"` or `"device"` with a message. -/
def readExtrinsicsEntry (j : Json) : Decode ExtrinsicsEntry := do
  match j.field? "error" with
  | none => return .known (← readExtrinsics j)
  | some (.str "unavailable") => return .unavailable
  | some (.str "device") => return .failing (← optional j "message" asStr? "no extrinsics")
  | some _ => throw "extrinsics error must be unavailable or device"

/-- An inertial calibration of a table, absent parts the ideal sensor's. -/
def readMotionEntry (j : Json) : Decode (StreamKey × Except String MotionIntrinsics) := do
  let key ← readKey j
  match j.field? "error" with
  | some (.str "device") => return (key, .error (← optional j "message" asStr? "motion intrinsics failed"))
  | some _ => throw "motion intrinsics error must be device"
  | none =>
    let rows ← optional j "data" (fun v => v.asArr?.bind (·.mapM asSingles?)) MotionIntrinsics.ideal.data
    return (key, .ok ⟨rows, ← optional j "noise_variances" asSingles? [0, 0, 0],
      ← optional j "bias_variances" asSingles? [0, 0, 0]⟩)

/-- An option reading of a table. -/
def readOptionEntry (j : Json) : Decode OptionEntry :=
  match j with
  | .str "unsupported" => pure .unsupported
  | .str "error" => pure .failing
  | _ => match asFloat? j with
    | some x => pure (.reading x.toFloat32)
    | none => throw "an option is a number, unsupported or error"

/-- The tables of a camera. -/
def readTable (j : Json) : Decode DeviceTable := do
  let profiles ← (← optional j "profiles" asArr? []).mapM (readProfile [])
  let depthScale := (← optional j "depth_scale" asFloat? 0.001).toFloat32
  let extrinsics ← (← optional j "extrinsics" asArr? []).mapM fun e => do
    return (← readKey (← need e "from" some), ← readKey (← need e "to" some), ← readExtrinsicsEntry e)
  let otherExtrinsics ← match ← optional j "default_extrinsics" asStr? "unavailable" with
    | "unavailable" => pure ExtrinsicsEntry.unavailable
    | "identity" => pure (.known Extrinsics.identity)
    | "device" => pure (.failing "no extrinsics")
    | other => throw s!"unknown default_extrinsics {other}"
  let motionIntrinsics ← (← optional j "motion_intrinsics" asArr? []).mapM readMotionEntry
  let options ← (← optional j "options" asObj? []).mapM fun (name, v) => do
    return (← choose (DeviceOption.temperatures.map fun o => (o.name, o)) name, ← readOptionEntry v)
  let blocks ← (← optional j "blocks" asObj? []).mapM fun (name, v) => do
    let tag ← choose stageTable name
    match v with
    | .null => return (tag, none)
    | b => return (tag, some (← readBlock profiles depthScale tag.name b))
  let align ← (← optional j "align" asObj? []).mapM fun (name, v) => do
    return (← choose kindTable name, ← readBlock profiles depthScale "align" v)
  return { name := ← optional j "name" asStr? "scripted", profiles, depthScale, extrinsics,
           otherExtrinsics, motionIntrinsics, options, blocks, align }

/-- The device in field `key`; a simulated device takes `settings` unless it names its own.
The simulated camera may refuse its settings. -/
def readDevice (j : Json) (key : String) (settings : DeviceConfig) : Decode (Except DeviceError Device) :=
  match j.field? key with
  | none | some (.str "simulated") => pure (Device.simulated settings)
  | some d =>
    match d.field? "simulated", d.field? "fake", d.field? "scripted" with
    | some c, _, _ => Device.simulated <$> readDeviceConfig c
    | _, some (.str "full"), _ => pure (.ok (Device.fake true))
    | _, some (.str "without_depth"), _ => pure (.ok (Device.fake false))
    | _, some _, _ => throw "fake must be full or without_depth"
    | _, _, some t => (.ok ∘ Device.ofTable) <$> readTable t
    | _, _, _ => throw "unknown device"

end Data
end DepthBridge
