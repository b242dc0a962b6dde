import DepthBridge.Calibration.Record
import DepthBridge.Device.Service

/-!
# The calibration registry

The camera models of the session's imagers, one per stream. A record is (re)written from a
profile's intrinsics; a profile without them is refused.

A stereo pair is the first imager at index 1 with an imager of the same kind at index 2. The
right imager's record then takes the motion from right to left: its rectification becomes that
rotation, read row by row, and its projection `k_left · [R | t]` with the translation kept on
the x axis only.

A frame's record is the cached one while the width agrees, and is rewritten otherwise.
-/

namespace DepthBridge

/-- The records by stream, most recent first. -/
structure CalibrationRegistry where
  records : List (StreamKey × CalibrationRecord) := []
  deriving Inhabited

namespace CalibrationRegistry

/-- The record of a stream. -/
def lookup (reg : CalibrationRegistry) (key : StreamKey) : Option CalibrationRecord :=
  reg.records.lookup key

/-- The number of streams with a record. -/
def size (reg : CalibrationRegistry) : Nat := reg.records.length

/-- Stores a stream's record, replacing the old one. -/
def insert (reg : CalibrationRegistry) (key : StreamKey) (r : CalibrationRecord) : CalibrationRegistry :=
  ⟨(key, r) :: reg.records.filter (·.1 != key)⟩

/-- Rewrites a profile's record from its intrinsics. -/
def update (reg : CalibrationRegistry) (p : Profile) :
    Except CalibrationError (CalibrationRecord × CalibrationRegistry) :=
  match p.intrinsics with
  | none => .error (.missingIntrinsics p.key.name)
  | some k =>
    let r := CalibrationRecord.ofIntrinsics k
    .ok (r, reg.insert p.key r)

/-- Entry `(i, j)` of `k · [R | t]`, with `k` and `R` read row by row. -/
def projectionEntry (k rt : Nat → Nat → Float) (i j : Nat) : Float :=
  k i 0 * rt 0 j + k i 1 * rt 1 j + k i 2 * rt 2 j

/-- Entry `(i, j)` of a row-major matrix with `n` columns; zero past the end. -/
def entry (m : List Float) (n i j : Nat) : Float := m.getD (n * i + j) 0

/-- A 3×4 matrix written row by row. -/
def rows3x4 (m : Nat → Nat → Float) : List Float :=
  (List.range 3).flatMap fun i => (List.range 4).map fun j => m i j

/-- The motion from right to left as the 3×4 matrix `[R | (t_x, 0, 0)]`: the rotation read row by
row, the translation kept on the x axis only. -/
def baselineMotion (ex : Extrinsics) (i j : Nat) : Float :=
  if j < 3 then entry (ex.rotation.map Rounding.widen) 3 i j
  else if i = 0 then Rounding.widen (ex.translation.getD 0 0) else 0

/-- The right record of a stereo pair, given the left camera matrix and the motion from right
to left. -/
def stereoRight (kLeft : List Float) (ex : Extrinsics) (right : CalibrationRecord) : CalibrationRecord :=
  let rotation := ex.rotation.map Rounding.widen
  let p := rows3x4 (projectionEntry (entry kLeft 3) (baselineMotion ex))
  { right with p, r := rotation ++ right.r.drop rotation.length }

/-- Applies the motion between a stereo pair to the right record. -/
def updateExtrinsics (reg : CalibrationRegistry) (left right : Profile) (device : Device) :
    Except CalibrationError CalibrationRegistry := do
  let ex ← (device.extrinsics right left).mapError .contract
  let some l := reg.lookup left.key | throw (.notCalibrated left.key.name)
  let some r := reg.lookup right.key | throw (.notCalibrated right.key.name)
  return reg.insert right.key (stereoRight l.k ex r)

/-- The right imager for a left one: the first imager of its kind at index 2. -/
def stereoPartner (profiles : List Profile) (left : Profile) : Option Profile :=
  profiles.find? fun p => p.isVideo && p.key.kind == left.key.kind && p.key.index == 2

/-- The stereo pair among profiles: the first imager at index 1 with an imager of its kind at
index 2. -/
def stereoPair (profiles : List Profile) : Option (Profile × Profile) :=
  (profiles.filter fun p => p.isVideo && p.key.index == 1).findSome? fun left =>
    (stereoPartner profiles left).map fun right => (left, right)

/-- Records each profile in turn; a profile without intrinsics is skipped. -/
def recordAll (reg : CalibrationRegistry) (profiles : List Profile) : CalibrationRegistry :=
  profiles.foldl
    (fun acc p => match acc.update p with
      | .ok (_, next) => next
      | .error _ => acc) reg

/-- Records every imager that has intrinsics, then the stereo pair if it can; failures only
leave records out. -/
def updateProfiles (reg : CalibrationRegistry) (profiles : List Profile) (device : Device) :
    CalibrationRegistry :=
  let reg := reg.recordAll (profiles.filter Profile.isVideo)
  match stereoPair profiles with
  | some (left, right) =>
    match reg.updateExtrinsics left right device with
    | .ok next => next
    | .error _ => reg
  | none => reg

/-- The record for a frame of width `width`: the cached one if its width agrees, else a
fresh one. -/
def recordForFrame (reg : CalibrationRegistry) (p : Profile) (width : UInt32) :
    Except CalibrationError (CalibrationRecord × CalibrationRegistry) :=
  match reg.lookup p.key with
  | some r => if r.width == width then .ok (r, reg) else reg.update p
  | none => reg.update p

end CalibrationRegistry
end DepthBridge
