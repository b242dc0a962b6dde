import DepthBridge.Dispatch.State
import DepthBridge.Geometry.Rotation

/-!
# Routing poses

A pose record becomes, in bus axes, the transform from the odometry frame to the pose frame
(when the configuration asks for it) and an odometry message (when anybody listens). The
twist is the record's velocities turned into the body frame by the inverse orientation.

Covariances shrink with the tracker's confidence: the configured linear covariance times
`10^(3 - c)` for position, the angular one times `10^(1 - c)` for rotation, on the diagonal of
a 6×6 matrix. The confidence is taken as a signed 32-bit integer, and the exponents are
computed in that width.
-/

namespace DepthBridge

/-- `a ^ n` by binary powering: the bits of `|n|` from the lowest, squaring in between; a
negative power is the reciprocal of the positive one. -/
def powInt (a : Float) (n : Int) : Float :=
  let rec go (fuel : Nat) (a r : Float) (b : Nat) : Float :=
    match fuel with
    | 0 => r
    | fuel + 1 =>
      let r := if b % 2 = 1 then r * a else r
      let b := b / 2
      if b = 0 then r else go fuel (a * a) r b
  let r := go 64 a 1 n.natAbs
  if n < 0 then 1 / r else r

/-- The signed 32-bit integer with the bits of an unsigned one. -/
def asSigned32 (c : UInt32) : Int := if c.toNat < Nat.pow 2 31 then c.toNat else (c.toNat : Int) - Nat.pow 2 32

/-- A signed 32-bit difference, or a halt when it does not fit. -/
def subI32 (a b : Int) : Except Halt Int :=
  let r := a - b
  if r < -(Nat.pow 2 31) || r ≥ Nat.pow 2 31 then .error .subOverflow else .ok r

/-- The position and rotation covariances at tracker confidence `confidence`. -/
def poseCovariance (linear angular : Float) (confidence : UInt32) : Except Halt (Float × Float) := do
  let c := asSigned32 confidence
  let e1 ← subI32 3 c
  let e2 ← subI32 1 c
  return (linear * powInt 10 e1, angular * powInt 10 e2)

/-- The 6×6 diagonal covariance, row-major: `linear` for the three positions, `angular` for the
three rotations. -/
def covariance6 (linear angular : Float) : List Float :=
  (List.range 36).map fun i => if i % 7 = 0 then (if i < 21 then linear else angular) else 0

namespace Handling

open Dispatching

variable {β : Type} [MessageBus β]

/-- Handles one pose frame. -/
def handlePose (frame : Frame) : Handling β Unit := do
  let .pose bytes := frame.payload | throw (.unexpectedSample frame.key.name)
  let data ← contract (readRecord PoseData frame.key bytes)
  let d ← lift get
  let stamp ← lift (timed (d.base.toBusTime frame.timestampMs))
  let orientation := Axes.poseOrientation data.rotation.toList
  let pose : Pose := { position := Axes.poseVector data.translation.toList, orientation }
  let odomFrame := d.names.odomFrame
  let poseFrame := d.names.frameId ⟨.pose, 0⟩
  if d.publishOdomTf then
    lift (publish .tf (.transforms [⟨stamp, pose.position, pose.orientation, odomFrame, poseFrame⟩]))
  if !(← lift (listened .odometry)) then
    lift (count Metrics.skip)
    return ()
  let (linear, angular) ← lift (orHalt (poseCovariance d.covariance.linearAccelCov
    d.covariance.angularVelocityCov data.trackerConfidence))
  let covariance := covariance6 linear angular
  let inverse := orientation.conj
  let twist : Twist := { linear := inverse.rotate (Axes.poseVector data.velocity.toList)
                         angular := inverse.rotate (Axes.poseVector data.angularVelocity.toList) }
  lift (publish .odometry (.odometry { header := ⟨stamp, odomFrame⟩, childFrameId := poseFrame, pose
                                       poseCovariance := covariance, twist, twistCovariance := covariance }))
  lift (count Metrics.pose)

end Handling
end DepthBridge
