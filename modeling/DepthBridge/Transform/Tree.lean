import DepthBridge.Transform.Names
import DepthBridge.Geometry.Rotation
import DepthBridge.Device.Service
import DepthBridge.Text.Blank

/-!
# The static transform tree

Every stream hangs below a *base* stream: the depth imager at index 0, else the pose tracker
at index 0. For each stream the tree holds the motion from the base's body frame to the
stream's body frame (the device's extrinsics, turned into body axes) and the fixed turn from
the body frame to its optical frame. An imager at index 1 other than depth also gets the same
two transforms for the frame of depth aligned to it.

A device without calibration between a stream and the base gives the identity motion; any other
refusal stops the computation, keeping what was already added. The base is chosen once: later
computations reuse the first base, and add to the transforms already there.
-/

namespace DepthBridge

/-- The base stream among profiles: depth 0, else pose 0. -/
def selectBase (profiles : List Profile) : Except TransformError Profile :=
  match [StreamKind.depth, StreamKind.pose].findSome? fun kind =>
      profiles.find? fun p => p.key.kind == kind && p.key.index == 0 with
  | some p => .ok p
  | none => .error .noBaseStream

/-- The transforms of one session. -/
structure TransformTree where
  names : FrameNames
  base : Option Profile := none
  transforms : List Transform := []
  deriving Inhabited

namespace TransformTree

/-- The motion from `profile` to `base`: the identity when the device has none. -/
def motionTo (device : Device) (profile base : Profile) : Except TransformError Extrinsics :=
  match device.extrinsics profile base with
  | .ok e => .ok e
  | .error (.extrinsicsUnavailable ..) => .ok Extrinsics.identity
  | .error e => .error (.contract e)

/-- The transforms of one stream relative to the base, stamped `stamp`. -/
def entriesFor (names : FrameNames) (profile base : Profile) (ex : Extrinsics) (stamp : Stamp) :
    List Transform :=
  let rotation := Axes.conjugate ex.rotation
  let optical := Axes.opticalRotation
  let translation := Axes.opticalTranslation ex.translation
  let key := profile.key
  let baseFrame := names.frameId base.key
  let frameId := names.frameId key
  let opticalFrame := names.opticalFrameId key
  let body := [⟨stamp, translation, rotation, baseFrame, frameId⟩, ⟨stamp, .zero, optical, frameId, opticalFrame⟩]
  if profile.isVideo && key.kind != .depth && key.index == 1 then
    let aligned := names.alignedDepthFrameId key
    body ++ [⟨stamp, translation, rotation, baseFrame, aligned⟩, ⟨stamp, .zero, optical, aligned, opticalFrame⟩]
  else body

/-- Adds the transforms of one stream relative to `base`. -/
def computeFor (t : TransformTree) (device : Device) (profile base : Profile) (stamp : Stamp) :
    Except TransformError TransformTree := do
  let ex ← motionTo device profile base
  return { t with transforms := t.transforms ++ entriesFor t.names profile base ex stamp }

/-- Adds the transforms of the profiles in turn, stopping at the first refusal. -/
def computeEach (device : Device) (base : Profile) (stamp : Stamp) :
    TransformTree → List Profile → TransformTree × Except TransformError Unit
  | t, [] => (t, .ok ())
  | t, p :: rest =>
    match t.computeFor device p base stamp with
    | .ok next => computeEach device base stamp next rest
    | .error e => (t, .error e)

/-- Chooses the base (once) and adds the transforms of every profile; on a refusal the
transforms added before it stay. -/
def computeAll (t : TransformTree) (device : Device) (profiles : List Profile) (stamp : Stamp) :
    TransformTree × Except TransformError Unit :=
  match selectBase profiles with
  | .error e => (t, .error e)
  | .ok chosen =>
    let base := t.base.getD chosen
    computeEach device base stamp { t with base := some base } profiles

/-- Every transform restamped to `stamp`. -/
def restamp (t : TransformTree) (stamp : Stamp) : TransformTree :=
  { t with transforms := t.transforms.map fun x => { x with stamp } }

/-- The key of a stream as diagnostic text. -/
def keyDebug (k : StreamKey) : String :=
  "StreamKey \x7b kind: " ++ k.kind.label ++ ", index: " ++ toString k.index.toNat ++ " \x7d"

/-- The tree's diagnostic text. -/
def debugText (t : TransformTree) : String :=
  let base := match t.base with
    | some p => "Some(" ++ keyDebug p.key ++ ")"
    | none => "None"
  "TransformPublisher \x7b camera: " ++ Text.quoted t.names.camera ++ ", base: " ++ base
    ++ ", transforms: " ++ toString t.transforms.length ++ " \x7d"

end TransformTree
end DepthBridge
