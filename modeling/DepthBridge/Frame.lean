import DepthBridge.Error
import DepthBridge.Halt

/-!
# Frames

A frame is one sample of one stream: its profile, a timestamp in milliseconds on the device's
clock, the clock domain, a running number, and a payload. The payload of an imager is a pixel
buffer; inertial and pose sensors deliver raw little-endian records; a point cloud stage
produces vertices with texture coordinates.

A frameset groups the frames of one instant; its timestamp and domain are its first frame's.

Records are read from the front of a payload: a payload shorter than the record is refused,
a longer one has its extra bytes ignored.
-/

namespace DepthBridge

/-- A pixel buffer: rows of `width` pixels of `bpp` bytes. -/
structure VideoBuffer where
  width : UInt32
  height : UInt32
  bpp : UInt32
  data : ByteArray
  deriving Inhabited

namespace VideoBuffer

/-- Bytes per row: `width · bpp`, which must fit 32 bits. -/
def stride (v : VideoBuffer) : Except Halt Nat := Checked.mulU32 v.width.toNat v.bpp.toNat

end VideoBuffer

/-- Vertices in meters and their normalized texture coordinates. -/
structure PointsBuffer where
  vertices : List (Float32 × Float32 × Float32) := []
  texCoords : List (Float32 × Float32) := []
  deriving Inhabited

/-- What a frame carries. -/
inductive Payload where
  | video (v : VideoBuffer)
  | motion (bytes : ByteArray)
  | pose (bytes : ByteArray)
  | points (p : PointsBuffer)
  deriving Inhabited

/-- One sample of one stream. -/
structure Frame where
  profile : Profile
  timestampMs : Float
  domain : TimestampDomain
  number : UInt64
  payload : Payload
  deriving Inhabited

namespace Frame

/-- The frame's stream. -/
def key (f : Frame) : StreamKey := f.profile.key

/-- The frame's kind of stream. -/
def kind (f : Frame) : StreamKind := f.profile.key.kind

/-- The frame's pixel format. -/
def format (f : Frame) : PixelFormat := f.profile.format

/-- Whether the frame is a point cloud. -/
def isPoints (f : Frame) : Bool :=
  match f.payload with
  | .points _ => true
  | _ => false

/-- The frame's pixel buffer, if it has one. -/
def video? (f : Frame) : Option VideoBuffer :=
  match f.payload with
  | .video v => some v
  | _ => none

/-- A 16-bit depth image. -/
def isDepthZ16 (f : Frame) : Bool := f.kind == .depth && f.format == .z16

/-- Whether the timestamp comes with device metadata: every domain but the host clock. -/
def metadataAvailable (f : Frame) : Bool := f.domain != .systemTime

end Frame

/-- The frames of one instant. -/
structure Frameset where
  frames : List Frame := []
  deriving Inhabited

namespace Frameset

/-- The first frame of a kind. -/
def first? (s : Frameset) (kind : StreamKind) : Option Frame := s.frames.find? (·.kind == kind)

/-- The first frame of a stream. -/
def get? (s : Frameset) (key : StreamKey) : Option Frame := s.frames.find? (·.key == key)

/-- The first frame's timestamp. -/
def timestampMs? (s : Frameset) : Option Float := s.frames.head?.map (·.timestampMs)

/-- The first frame's domain; the hardware clock when there is none. -/
def domain (s : Frameset) : TimestampDomain := (s.frames.head?.map (·.domain)).getD .hardwareClock

end Frameset

/-- What the device delivers at once: a frameset or a single frame. -/
inductive Sample where
  | frameset (s : Frameset)
  | frame (f : Frame)
  deriving Inhabited

/-- The little-endian 32-bit word at byte `i`. -/
def wordAt (bytes : ByteArray) (i : Nat) : UInt32 :=
  let b (j : Nat) : UInt32 := (bytes.data.getD (i + j) 0).toUInt32
  b 0 ||| (b 1 <<< 8) ||| (b 2 <<< 16) ||| (b 3 <<< 24)

/-- The little-endian single at byte `i`. -/
def singleAt (bytes : ByteArray) (i : Nat) : Float32 := Float32.ofBits (wordAt bytes i)

/-- The four little-endian bytes of a word. -/
def wordBytes (w : UInt32) : List UInt8 :=
  [w.toUInt8, (w >>> 8).toUInt8, (w >>> 16).toUInt8, (w >>> 24).toUInt8]

/-- One inertial reading: three singles. -/
structure MotionReading where
  x : Float32
  y : Float32
  z : Float32
  deriving Inhabited

/-- One pose record: translation, velocity and acceleration, the rotation quaternion
`(x, y, z, w)`, angular velocity and acceleration, then the two confidences. -/
structure PoseData where
  translation : Vector Float32 3
  velocity : Vector Float32 3
  acceleration : Vector Float32 3
  rotation : Vector Float32 4
  angularVelocity : Vector Float32 3
  angularAcceleration : Vector Float32 3
  trackerConfidence : UInt32
  mapperConfidence : UInt32
  deriving Inhabited

namespace PoseData

/-- Three singles of a pose record. -/
def triple (x y z : Float32) : Vector Float32 3 := #v[x, y, z]

/-- Four singles of a pose record. -/
def quad (x y z w : Float32) : Vector Float32 4 := #v[x, y, z, w]

end PoseData

/-- A record type read from the front of a payload. -/
class Record (α : Type) where
  size : Nat
  decode : ByteArray → α

instance : Record MotionReading where
  size := 12
  decode b := ⟨singleAt b 0, singleAt b 4, singleAt b 8⟩

instance : Record PoseData where
  size := 84
  decode b :=
    let v (i n : Nat) : Vector Float32 n := Vector.ofFn fun j => singleAt b (i + 4 * j)
    ⟨v 0 3, v 12 3, v 24 3, v 36 4, v 52 3, v 64 3, wordAt b 76, wordAt b 80⟩

/-- The record at the front of `bytes`, or a parse error naming the stream when the payload is
too short. -/
def readRecord (α : Type) [Record α] (stream : StreamKey) (bytes : ByteArray) :
    Except ContractError α :=
  if bytes.size < Record.size α then
    .error (.payloadParse stream.name s!"expected {Record.size α} bytes, got {bytes.size}")
  else .ok (Record.decode bytes)

/-- The bytes of a pose record. -/
def PoseData.encode (p : PoseData) : ByteArray :=
  let singles := p.translation.toList ++ p.velocity.toList ++ p.acceleration.toList
    ++ p.rotation.toList ++ p.angularVelocity.toList ++ p.angularAcceleration.toList
  ⟨(singles.flatMap (fun x => wordBytes x.toBits) ++ wordBytes p.trackerConfidence
    ++ wordBytes p.mapperConfidence).toArray⟩

/-- The bytes of an inertial reading. -/
def MotionReading.encode (r : MotionReading) : ByteArray :=
  ⟨([r.x, r.y, r.z].flatMap fun x => wordBytes x.toBits).toArray⟩

end DepthBridge
