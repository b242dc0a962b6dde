import DepthBridge.Dispatch.State

/-!
# Routing inertial samples

Without a synchronizer every accelerometer or gyroscope sample becomes its own message on the
stream's sample channel, in the stream's optical frame, with only its own vector set. With
one, samples feed the synchronizer (timed in nanoseconds since the clock reference) and every
combined sample it completes goes through the gate to the combined channel, in the inertial
optical frame.

A sample nobody would receive is skipped and counted. The result is the number of messages
handed over.
-/

namespace DepthBridge
namespace Handling

open Dispatching

variable {β : Type} [MessageBus β]

/-- The reading of an inertial frame, widened to doubles. -/
def reading (frame : Frame) : Handling β Vector3 := do
  match frame.payload with
  | .motion bytes =>
    let r ← contract (readRecord MotionReading frame.key bytes)
    return ⟨r.x.toFloat, r.y.toFloat, r.z.toFloat⟩
  | _ => throw (.unexpectedSample frame.key.name)

/-- Counts a skipped sample. -/
def skip : Handling β Unit := lift (count Metrics.skip)

/-- Sends combined samples through the gate, stopping at the first refusal. -/
def sendCombined (frameId : String) : List UnifiedInertial → Handling β Unit
  | [] => pure ()
  | u :: rest => do
    let d ← lift get
    let stamp ← lift (timed (d.base.busTimeFromElapsed u.timeNs))
    let msg := u.toMessage stamp frameId d.covariance
    match ← lift (withGate (Gate.publish deliver msg)) with
    | .ok () => sendCombined frameId rest
    | .error e => throw (.sync e)

/-- Handles one inertial frame. -/
def handleImu (frame : Frame) : Handling β Nat := do
  let some axis := ImuAxis.ofKind? frame.kind | throw (.unexpectedSample frame.key.name)
  let d ← lift get
  match d.sync with
  | some sync =>
    if !(← lift (listened .syncedImu)) then skip; return 0
    let timeNs := d.base.elapsedNs frame.timestampMs
    let r ← reading frame
    let (out, next) := sync.ingest ⟨axis, r, timeNs⟩
    lift (modify fun d => { d with sync := some next })
    sendCombined d.names.imuOpticalFrameId out
    lift (count (Metrics.imu · out.length))
    return out.length
  | none =>
    let channel := Channel.imu frame.key
    if !(← lift (listened channel)) then skip; return 0
    let r ← reading frame
    let stamp ← lift (timed (d.base.toBusTime frame.timestampMs))
    let empty := emptyImuMessage stamp (d.names.opticalFrameId frame.key) d.covariance
    let msg := match axis with
      | .accel => { empty with linearAcceleration := r }
      | .gyro => { empty with angularVelocity := r }
    lift (publish channel (.imu msg))
    lift (count (Metrics.imu · 1))
    return 1

end Handling
end DepthBridge
