import DepthBridge.Dispatch.Image
import DepthBridge.Dispatch.Imu
import DepthBridge.Dispatch.Pose
import DepthBridge.Dispatch.Cloud

/-!
# Handling samples

A frameset is handled with the inertial gate paused, so that combined inertial messages do not
overtake its images. The first frame fixes the clock reference if nothing did before and gives
the frameset's bus time. The first depth frame is clipped, the pipeline runs, and every stream's
frame goes out once: a later frame of a stream replaces an earlier one in the earlier frame's
place, and only the first point cloud counts. When aligned depth is configured and the frameset
brought a depth image, depth is then aligned to every other imager with index at most 1 that
somebody watches the aligned channels of.

Frameset failures are only counted; the failures of single frames are reported. A single
video frame is also published with the gate paused.
-/

namespace DepthBridge

/-- The frames chosen so far while walking a frameset: their positions, the slot among them
that each stream holds, and whether a point cloud was chosen. -/
structure Selection where
  chosen : List Nat := []
  slots : List (StreamKey × Nat) := []
  pointsSeen : Bool := false
  deriving Inhabited

/-- Takes the frame at position `i` into a selection: only the first point cloud is kept, a
stream seen before has its slot taken over by the later frame, and a new stream gets the next
slot. -/
def Selection.add (s : Selection) (frame : Frame) (i : Nat) : Selection :=
  if frame.isPoints then
    if s.pointsSeen then s else { s with chosen := s.chosen ++ [i], pointsSeen := true }
  else match s.slots.lookup frame.key with
    | some slot => { s with chosen := s.chosen.set slot i }
    | none => { s with chosen := s.chosen ++ [i], slots := s.slots ++ [(frame.key, s.chosen.length)] }

/-- The selection after walking the frames in order. -/
def selectionOf (frames : List Frame) : Selection :=
  frames.zipIdx.foldl (fun s entry => s.add entry.1 entry.2) {}

/-- The frames to publish, by position: the first point cloud, and for every stream the
position of its first frame holding its last frame. -/
def dedupIndices (frames : List Frame) : List Nat := (selectionOf frames).chosen

namespace Handling

open Dispatching

variable {β : Type} [MessageBus β]

/-- Publishes the cloud of a point frame through the pipeline's point cloud stage, in the
optical frame of depth 0. -/
def publishPoints (points : PointsBuffer) (stamp : Stamp) (s : Frameset) : Handling β Bool := do
  let d ← lift get
  let some config := d.pipeline.pointCloud? | return false
  let frameId := d.names.opticalFrameId ⟨.depth, 0⟩
  let (sent, bus) ← lift (orHalt (Cloud.publish config points stamp s frameId d.bus))
  lift (modify fun d => { d with bus })
  return sent

/-- Publishes the selected frames of a processed frameset; how many went out. -/
def publishSelected (s : Frameset) (stamp : Stamp) : List Nat → Handling β Nat
  | [] => pure 0
  | i :: rest => do
    let frame := s.frames.getD i default
    let sent ← match frame.payload with
      | .points p => publishPoints p stamp s
      | _ => publishFrame frame stamp
    if sent then lift (count Metrics.frame)
    let n ← publishSelected s stamp rest
    return (if sent then 1 else 0) + n

/-- Whether depth can be aligned to a frame: an imager with pixels, not depth or confidence,
at index at most 1. -/
def alignTarget (f : Frame) : Bool :=
  f.kind != .depth && f.kind != .confidence && f.key.index ≤ 1 && f.video?.isSome

/-- Publishes depth aligned to each target frame of `s`; how many went out. -/
def publishAlignedDepth (s : Frameset) (stamp : Stamp) : List Frame → Handling β Nat
  | [] => pure 0
  | target :: rest => do
    let key := target.key
    if !alignTarget target then return ← publishAlignedDepth s stamp rest
    if !(← lift (listened (.alignedDepthImage key))) && !(← lift (listened (.alignedDepthInfo key))) then
      return ← publishAlignedDepth s stamp rest
    let d ← lift get
    let aligned ← match (d.device.alignTo key.kind).process s with
      | .ok (.ok a) => pure a
      | .ok (.error e) => throw (.contract e)
      | .error h => lift (throw h)
    match aligned.frames.find? Frame.isDepthZ16 with
    | none => publishAlignedDepth s stamp rest
    | some depth =>
      let sent ← publishAligned depth target.profile stamp
      let n ← publishAlignedDepth s stamp rest
      return (if sent then 1 else 0) + n

/-- Processes one frameset; how many images went out. -/
def processFrameset (s : Frameset) : Handling β Nat := do
  let some first := s.frames.head? | return 0
  let d ← lift get
  let (_, base) ← lift (timed (d.base.ensureInitialized first.timestampMs))
  lift (modify fun d => { d with base })
  let stamp ← lift (timed (base.toBusTime first.timestampMs))
  let s : Frameset := match s.frames.findIdx? (·.kind == .depth) with
    | some i => ⟨s.frames.modify i d.clip⟩
    | none => s
  let depthArrived := d.alignDepth && s.frames.any Frame.isDepthZ16
  let filtered ← match d.pipeline.process s with
    | .ok (.ok f) => pure f
    | .ok (.error e) => throw (.contract e)
    | .error h => lift (throw h)
  let published ← publishSelected filtered stamp (dedupIndices filtered.frames)
  if depthArrived then
    return published + (← publishAlignedDepth filtered stamp filtered.frames)
  return published

end Handling

namespace Dispatching

variable {β : Type} [MessageBus β]

/-- Handles a frameset with the gate paused; a failure is only counted. -/
def onFrameset (s : Frameset) : Dispatching β Unit := do
  let (result, _) ← paused (Handling.processFrameset s).run
  count (Metrics.recordFrameset · result.toBool)

end Dispatching

namespace Handling

open Dispatching

variable {β : Type} [MessageBus β]

/-- Publishes a single video frame, clipped, at its bus time: the section `onVideoFrame` runs
with the gate paused. -/
def sendVideoFrame (frame : Frame) : Dispatching β (Except DispatchError Bool) := do
  let d ← get
  let stamp ← timed (d.base.toBusTime frame.timestampMs)
  (publishFrame (d.clip frame) stamp).run

/-- Handles a single video frame with the gate paused. -/
def onVideoFrame (frame : Frame) : Handling β Unit := do
  let (published, resumed) ← lift (paused (sendVideoFrame frame))
  match resumed with
  | .error e => throw (.sync e)
  | .ok _ => pure ()
  if ← published then lift (count Metrics.frame)

/-- Handles a single frame. -/
def onFrame (frame : Frame) : Handling β Unit := do
  let d ← lift get
  let (_, base) ← lift (timed (d.base.ensureInitialized frame.timestampMs))
  lift (modify fun d => { d with base })
  match frame.payload with
  | .motion _ => discard (handleImu frame)
  | .pose _ => handlePose frame
  | .video _ => onVideoFrame frame
  | .points _ => throw (.unexpectedSample frame.key.name)

/-- Handles a sample: framesets swallow their failures, single frames report them. -/
def onSample : Sample → Handling β Unit
  | .frameset s => lift (onFrameset s)
  | .frame f => onFrame f

end Handling
end DepthBridge
