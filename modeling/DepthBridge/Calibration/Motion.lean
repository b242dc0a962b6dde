import DepthBridge.Device.Service
import DepthBridge.Message

/-!
# Inertial calibration and extrinsics messages

The calibration message of an inertial sensor widens the device's matrix and variances to
doubles; a device that cannot report them is taken to have the ideal sensor. An extrinsics
message widens a rigid motion.
-/

namespace DepthBridge

/-- The calibration message of an inertial sensor. -/
def imuInfo (p : Profile) (device : Device) (header : Header) : ImuInfo :=
  let m := match device.motionIntrinsics p with
    | .ok m => m
    | .error _ => MotionIntrinsics.ideal
  let cell (i j : Nat) : Float := ((m.data.getD i []).getD j 0).toFloat
  { header
    data := (List.range 3).flatMap fun i => (List.range 4).map (cell i)
    noiseVariances := m.noiseVariances.map Float32.toFloat
    biasVariances := m.biasVariances.map Float32.toFloat }

/-- The message of a rigid motion. -/
def extrinsicsMessage (e : Extrinsics) (header : Header) : ExtrinsicsMessage :=
  { header, rotation := e.rotation.map Float32.toFloat, translation := e.translation.map Float32.toFloat }

end DepthBridge
