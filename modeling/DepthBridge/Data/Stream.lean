import DepthBridge.Frame
import DepthBridge.Json.Access
import DepthBridge.Text.Blank

/-!
# Streams, profiles and frames as JSON

Stream keys are `{stream, index}` with the data-file names of the kinds. A profile read from
JSON fills each absent field from a *base* profile of the same stream when one is known, else
from defaults: the kind's usual format, the size of its intrinsics, 30 frames per second and
no intrinsics. An explicit `"intrinsics": null` removes the base's intrinsics.

A frame carries exactly one payload: a pixel buffer (hexadecimal bytes, 16-bit or 8-bit values,
or one value repeated over the whole image), an inertial reading or a pose record (as values
or raw hexadecimal), or a point cloud.
-/

namespace DepthBridge
namespace Data

open Json

/-- Stream kinds by name. -/
def kindTable : List (String × StreamKind) := StreamKind.all.map fun k => (k.tag, k)

/-- Pixel formats by name. -/
def formatTable : List (String × PixelFormat) := PixelFormat.all.map fun f => (f.tag, f)

/-- Distortion models by name. -/
def modelTable : List (String × DistortionModel) := DistortionModel.all.map fun m => (m.tag, m)

/-- Timestamp domains by name. -/
def domainTable : List (String × TimestampDomain) := TimestampDomain.all.map fun d => (d.tag, d)

/-- A stream key `{stream, index = 0}`. -/
def readKey (j : Json) : Decode StreamKey := do
  return ⟨← needChoice j "stream" kindTable, (← optional j "index" (asBounded? 8) 0).toUInt8⟩

/-- Intrinsics; every field has a default. -/
def readIntrinsics (j : Json) : Decode Intrinsics := do
  return { width := (← optional j "width" (asBounded? 32) 0).toUInt32
           height := (← optional j "height" (asBounded? 32) 0).toUInt32
           fx := (← optional j "fx" asFloat? 1).toFloat32
           fy := (← optional j "fy" asFloat? 1).toFloat32
           ppx := (← optional j "ppx" asFloat? 0).toFloat32
           ppy := (← optional j "ppy" asFloat? 0).toFloat32
           model := ← optionalChoice j "model" modelTable .none
           coeffs := ← optional j "coeffs" asSingles? [0, 0, 0, 0, 0] }

/-- Extrinsics; a missing part is the identity's. -/
def readExtrinsics (j : Json) : Decode Extrinsics := do
  return ⟨← optional j "rotation" asSingles? Extrinsics.identityRotation,
          ← optional j "translation" asSingles? [0, 0, 0]⟩

/-- Extrinsics in field `key`, the identity when it is missing. -/
def readExtrinsicsIn (j : Json) (key : String) : Decode Extrinsics :=
  match j.field? key with
  | some e => readExtrinsics e
  | none => pure Extrinsics.identity

/-- The usual format of a kind. -/
def defaultFormat : StreamKind → PixelFormat
  | .depth => .z16
  | .color => .rgb8
  | .gyro | .accel => .motionXyz32f
  | .pose => .sixDof
  | _ => .y8

/-- A profile, absent fields taken from the base profile of the same stream in `base`, if any,
else from the defaults. -/
def readProfile (base : List Profile) (j : Json) : Decode Profile := do
  let key ← readKey j
  let b := base.find? (·.key == key)
  let intrinsics ← match j.get? "intrinsics" with
    | some .null => pure none
    | some i => some <$> readIntrinsics i
    | none => pure (b.bind (·.intrinsics))
  let sizeOf (pick : Profile → UInt32) (fromK : Intrinsics → UInt32) : UInt32 :=
    match b with
    | some p => pick p
    | none => (intrinsics.map fromK).getD 0
  return { key
           format := ← optionalChoice j "format" formatTable ((b.map (·.format)).getD (defaultFormat key.kind))
           width := (← optional j "width" (asBounded? 32) (sizeOf (·.width) (·.width)).toNat).toUInt32
           height := (← optional j "height" (asBounded? 32) (sizeOf (·.height) (·.height)).toNat).toUInt32
           fps := (← optional j "fps" (asBounded? 32) ((b.map (·.fps.toNat)).getD 30)).toUInt32
           intrinsics }

/-- Bytes from a hexadecimal string. -/
def readHex (j : Json) (key : String) : Decode ByteArray := do
  let s ← need j key asStr?
  match Text.bytesOfHex? s with
  | some bs => pure bs
  | none => throw s!"invalid hex in field `{key}`"

/-- A list of naturals. -/
def asNats? (j : Json) : Option (List Nat) := j.asArr?.bind (·.mapM asNat?)

/-- The little-endian bytes of 16-bit values. -/
def u16Bytes (xs : List Nat) : ByteArray :=
  ⟨(xs.flatMap fun x => [(x % 256).toUInt8, (x / 256 % 256).toUInt8]).toArray⟩

/-- A pixel buffer of `profile`'s size and format unless the description says otherwise. -/
def readVideo (profile : Profile) (j : Json) : Decode VideoBuffer := do
  let width := (← optional j "width" (asBounded? 32) profile.width.toNat).toUInt32
  let height := (← optional j "height" (asBounded? 32) profile.height.toNat).toUInt32
  let bpp := (← optional j "bpp" (asBounded? 32) (profile.format.bytesPerPixel.getD 1).toNat).toUInt32
  let data ← match j.field? "hex", j.field? "u16", j.field? "u8" with
    | some _, _, _ => readHex j "hex"
    | none, some _, _ => u16Bytes <$> need j "u16" asNats?
    | none, none, some _ => (fun xs => ByteArray.mk (xs.map Nat.toUInt8).toArray) <$> need j "u8" asNats?
    | none, none, none =>
      let n ← optional j "fill" asNat? 0
      let count := width.toNat * height.toNat
      if bpp = 2 then pure (u16Bytes (List.replicate count n))
      else pure ⟨(List.replicate (count * bpp.toNat) n.toUInt8).toArray⟩
  return ⟨width, height, bpp, data⟩

/-- A pose record from its parts; absent parts are zero, the rotation the identity. -/
def readPose (j : Json) : Decode PoseData := do
  let v {n : Nat} (k : String) (d : Vector Float32 n) : Decode (Vector Float32 n) :=
    optional j k (asSinglesOf? n) d
  return { translation := ← v "translation" (PoseData.triple 0 0 0)
           velocity := ← v "velocity" (PoseData.triple 0 0 0)
           acceleration := ← v "acceleration" (PoseData.triple 0 0 0)
           rotation := ← v "rotation" (PoseData.quad 0 0 0 1)
           angularVelocity := ← v "angular_velocity" (PoseData.triple 0 0 0)
           angularAcceleration := ← v "angular_acceleration" (PoseData.triple 0 0 0)
           trackerConfidence := (← optional j "tracker_confidence" (asBounded? 32) 0).toUInt32
           mapperConfidence := (← optional j "mapper_confidence" (asBounded? 32) 0).toUInt32 }

/-- A pair or triple of singles. -/
def asSinglePair? (j : Json) : Option (Float32 × Float32) :=
  match asSingles? j with
  | some [a, b] => some (a, b)
  | _ => none

/-- A triple of singles. -/
def asSingleTriple? (j : Json) : Option (Float32 × Float32 × Float32) :=
  match asSingles? j with
  | some [a, b, c] => some (a, b, c)
  | _ => none

/-- A point cloud buffer. -/
def readPoints (j : Json) : Decode PointsBuffer := do
  return { vertices := ← optional j "vertices" (fun v => v.asArr?.bind (·.mapM asSingleTriple?)) []
           texCoords := ← optional j "tex_coords" (fun v => v.asArr?.bind (·.mapM asSinglePair?)) [] }

/-- A frame, its profile merged against `base`. -/
def readFrame (base : List Profile) (j : Json) : Decode Frame := do
  let profile ← readProfile base j
  let payload ← match j.field? "video", j.field? "motion", j.field? "motion_hex",
      j.field? "pose", j.field? "pose_hex", j.field? "points" with
    | some v, _, _, _, _, _ => Payload.video <$> readVideo profile v
    | _, some _, _, _, _, _ => do
      let xs ← need j "motion" asSingles?
      pure (.motion (MotionReading.encode ⟨xs.getD 0 0, xs.getD 1 0, xs.getD 2 0⟩))
    | _, _, some _, _, _, _ => Payload.motion <$> readHex j "motion_hex"
    | _, _, _, some p, _, _ => (fun d => Payload.pose d.encode) <$> readPose p
    | _, _, _, _, some _, _ => Payload.pose <$> readHex j "pose_hex"
    | _, _, _, _, _, some p => Payload.points <$> readPoints p
    | none, none, none, none, none, none => Payload.video <$> readVideo profile (.obj [])
  return { profile
           timestampMs := ← optional j "timestamp_ms" asFloat? 0
           domain := ← optionalChoice j "domain" domainTable .hardwareClock
           number := (← optional j "frame_number" (asBounded? 64) 0).toUInt64
           payload }

/-- A frameset: an array of frames. -/
def readFrameset (base : List Profile) (j : Json) : Decode Frameset := do
  match j.asArr? with
  | some items => return ⟨← items.mapM (readFrame base)⟩
  | none => throw "a frameset is an array of frames"

/-! ## Writing -/

/-- A key as `{stream, index}`. -/
def key (k : StreamKey) : Json := .obj [("stream", .str k.kind.tag), ("index", .nat k.index.toNat)]

/-- Intrinsics. -/
def intrinsics (k : Intrinsics) : Json :=
  .obj [("width", .nat k.width.toNat), ("height", .nat k.height.toNat), ("fx", .num32 k.fx),
    ("fy", .num32 k.fy), ("ppx", .num32 k.ppx), ("ppy", .num32 k.ppy), ("model", .str k.model.tag),
    ("coeffs", .arr (k.coeffs.map Json.num32))]

/-- The fields of a profile. -/
def profileFields (p : Profile) : List (String × Json) :=
  [("stream", .str p.key.kind.tag), ("index", .nat p.key.index.toNat), ("format", .str p.format.tag),
   ("width", .nat p.width.toNat), ("height", .nat p.height.toNat), ("fps", .nat p.fps.toNat),
   ("intrinsics", match p.intrinsics with | some k => intrinsics k | none => .null)]

/-- A profile. -/
def profile (p : Profile) : Json := .obj (profileFields p)

/-- Extrinsics `{rotation, translation}`. -/
def extrinsics (e : Extrinsics) : Json :=
  .obj [("rotation", .arr (e.rotation.map Json.num32)), ("translation", .arr (e.translation.map Json.num32))]

/-- The singles of each whole word among the first twelve bytes. -/
def decodedWords (bytes : ByteArray) : List Float32 :=
  (List.range (min 3 (bytes.size / 4))).map fun i => singleAt bytes (4 * i)

/-- A payload. -/
def payload : Payload → Json
  | .video v => .obj [("video", .obj [("width", .nat v.width.toNat), ("height", .nat v.height.toNat),
      ("bpp", .nat v.bpp.toNat), ("hex", .str (Text.hexOfBytes v.data))])]
  | .motion b => .obj [("motion_hex", .str (Text.hexOfBytes b)),
      ("decoded", .arr ((decodedWords b).map Json.num32))]
  | .pose b => .obj [("pose_hex", .str (Text.hexOfBytes b))]
  | .points p => .obj [("points", .obj [
      ("vertices", .arr (p.vertices.map fun (x, y, z) => .arr [.num32 x, .num32 y, .num32 z])),
      ("tex_coords", .arr (p.texCoords.map fun (u, v) => .arr [.num32 u, .num32 v]))])]

/-- A frame: its profile's fields, its time and number, and its payload. -/
def frame (f : Frame) : Json :=
  .obj (profileFields f.profile ++ [("timestamp_ms", .num f.timestampMs), ("domain", .str f.domain.tag),
    ("frame_number", .nat f.number.toNat), ("payload", payload f.payload)])

/-- The frames of a frameset. -/
def frames (s : Frameset) : Json := .arr (s.frames.map frame)

end Data
end DepthBridge
