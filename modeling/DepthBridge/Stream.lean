/-!
# Streams and their profiles

A depth camera reports a set of logical *streams*. A stream is named by its kind and an index
(`infra1`, `infra2`); its *profile* adds the pixel format, the resolution, the rate and, for
imagers, the optical calibration (*intrinsics*). Between two sensors the device reports a rigid
motion (*extrinsics*); an inertial sensor reports its own calibration (*motion intrinsics*).

Video kinds are the imagers: everything but the inertial sensors and the pose tracker. A
profile is video when its kind is and its format has a whole number of bytes per pixel.
-/

namespace DepthBridge

/-- The kind of sensor a stream comes from. -/
inductive StreamKind where
  | depth | color | infrared | fisheye | gyro | accel | pose | confidence
  deriving DecidableEq, Repr, Inhabited, Hashable

namespace StreamKind

/-- Every kind, in the device's order. -/
def all : List StreamKind := [.depth, .color, .infrared, .fisheye, .gyro, .accel, .pose, .confidence]

/-- The short name used in stream names, frame names and channels. -/
def shortName : StreamKind → String
  | .depth => "depth" | .color => "color" | .infrared => "infra" | .fisheye => "fisheye"
  | .gyro => "gyro" | .accel => "accel" | .pose => "pose" | .confidence => "confidence"

/-- The name of the kind in diagnostic text. -/
def label : StreamKind → String
  | .depth => "Depth" | .color => "Color" | .infrared => "Infrared" | .fisheye => "Fisheye"
  | .gyro => "Gyro" | .accel => "Accel" | .pose => "Pose" | .confidence => "Confidence"

/-- The name of the kind in data files. -/
def tag : StreamKind → String
  | .infrared => "infrared"
  | k => k.shortName

/-- The inertial sensors. -/
def isMotion : StreamKind → Bool
  | .gyro | .accel => true
  | _ => false

/-- The imagers: neither inertial nor the pose tracker. -/
def isVideo (k : StreamKind) : Bool := !k.isMotion && k != .pose

/-- The position of a kind in `all`, which orders kinds. -/
def rank : StreamKind → Nat
  | .depth => 0 | .color => 1 | .infrared => 2 | .fisheye => 3
  | .gyro => 4 | .accel => 5 | .pose => 6 | .confidence => 7

/-- The kind whose data-file name is `s`. -/
def ofTag? (s : String) : Option StreamKind := all.find? (·.tag == s)

end StreamKind

/-- A stream: its kind and an index among streams of that kind. -/
structure StreamKey where
  kind : StreamKind
  index : UInt8 := 0
  deriving DecidableEq, Repr, Inhabited, Hashable

namespace StreamKey

/-- The stream's name: the kind's short name, then the index unless it is zero. -/
def name (k : StreamKey) : String :=
  if k.index = 0 then k.kind.shortName else k.kind.shortName ++ toString k.index.toNat

/-- The key whose name is `s`: a short name, then an index without leading zeros that is not
zero. -/
def ofName? (s : String) : Option StreamKey :=
  StreamKind.all.findSome? fun kind =>
    if s == kind.shortName then some ⟨kind, 0⟩
    else if s.startsWith kind.shortName then
      let digits := s.drop kind.shortName.length |>.toString
      match digits.toNat? with
      | some n =>
        if n ≥ 1 && n ≤ 255 && digits.all Char.isDigit && !digits.startsWith "0" then
          some ⟨kind, n.toUInt8⟩
        else none
      | none => none
    else none

end StreamKey

/-- The layout of one pixel or sample. -/
inductive PixelFormat where
  | z16 | y8 | rgb8 | bgr8 | rgba8 | motionXyz32f | sixDof | xyz32f
  deriving DecidableEq, Repr, Inhabited

namespace PixelFormat

/-- Every format. -/
def all : List PixelFormat := [.z16, .y8, .rgb8, .bgr8, .rgba8, .motionXyz32f, .sixDof, .xyz32f]

/-- The name of the format in data files. -/
def tag : PixelFormat → String
  | .z16 => "z16" | .y8 => "y8" | .rgb8 => "rgb8" | .bgr8 => "bgr8" | .rgba8 => "rgba8"
  | .motionXyz32f => "motion_xyz32f" | .sixDof => "six_dof" | .xyz32f => "xyz32f"

/-- The name of the format in diagnostic text. -/
def label : PixelFormat → String
  | .z16 => "Z16" | .y8 => "Y8" | .rgb8 => "Rgb8" | .bgr8 => "Bgr8" | .rgba8 => "Rgba8"
  | .motionXyz32f => "MotionXyz32f" | .sixDof => "SixDof" | .xyz32f => "Xyz32f"

/-- The format whose data-file name is `s`. -/
def ofTag? (s : String) : Option PixelFormat := all.find? (·.tag == s)

/-- Bytes per pixel of the image formats. -/
def bytesPerPixel : PixelFormat → Option UInt32
  | .y8 => some 1
  | .z16 => some 2
  | .rgb8 | .bgr8 => some 3
  | .rgba8 => some 4
  | _ => none

end PixelFormat

/-- The lens distortion model of an imager. -/
inductive DistortionModel where
  | none | brownConrady | modifiedBrownConrady | inverseBrownConrady | kannalaBrandt4 | ftheta
  deriving DecidableEq, Repr, Inhabited

namespace DistortionModel

/-- Every model. -/
def all : List DistortionModel :=
  [.none, .brownConrady, .modifiedBrownConrady, .inverseBrownConrady, .kannalaBrandt4, .ftheta]

/-- The name of the model in data files. -/
def tag : DistortionModel → String
  | .none => "none" | .brownConrady => "brown_conrady"
  | .modifiedBrownConrady => "modified_brown_conrady"
  | .inverseBrownConrady => "inverse_brown_conrady"
  | .kannalaBrandt4 => "kannala_brandt4" | .ftheta => "ftheta"

/-- The model whose data-file name is `s`. -/
def ofTag? (s : String) : Option DistortionModel := all.find? (·.tag == s)

end DistortionModel

/-- The pinhole calibration of an imager, in pixels. -/
structure Intrinsics where
  width : UInt32
  height : UInt32
  fx : Float32
  fy : Float32
  ppx : Float32
  ppy : Float32
  model : DistortionModel
  coeffs : List Float32
  deriving Inhabited

/-- The rigid motion from one sensor to another: a rotation, column-major, and a translation
in meters. -/
structure Extrinsics where
  rotation : List Float32
  translation : List Float32
  deriving Inhabited

namespace Extrinsics

/-- The rotation that changes nothing. -/
def identityRotation : List Float32 := [1, 0, 0, 0, 1, 0, 0, 0, 1]

/-- No motion at all. -/
def identity : Extrinsics := ⟨identityRotation, [0, 0, 0]⟩

end Extrinsics

/-- The calibration of an inertial sensor: a 3×4 scale-and-bias matrix and the variances of
its noise and bias. -/
structure MotionIntrinsics where
  data : List (List Float32)
  noiseVariances : List Float32
  biasVariances : List Float32
  deriving Inhabited

namespace MotionIntrinsics

/-- The calibration of a perfect sensor: unit scale, no bias, no noise. -/
def ideal : MotionIntrinsics :=
  ⟨[[1, 0, 0, 0], [0, 1, 0, 0], [0, 0, 1, 0]], [0, 0, 0], [0, 0, 0]⟩

end MotionIntrinsics

/-- What the device reports about one stream. -/
structure Profile where
  key : StreamKey
  format : PixelFormat
  width : UInt32
  height : UInt32
  fps : UInt32
  intrinsics : Option Intrinsics
  deriving Inhabited

namespace Profile

/-- An image stream: a video kind in a format with whole bytes per pixel. -/
def isVideo (p : Profile) : Bool := p.key.kind.isVideo && p.format.bytesPerPixel.isSome

end Profile

/-- Which clock a frame's timestamp was read from. -/
inductive TimestampDomain where
  | hardwareClock | systemTime | globalTime
  deriving DecidableEq, Repr, Inhabited

namespace TimestampDomain

/-- Every domain. -/
def all : List TimestampDomain := [.hardwareClock, .systemTime, .globalTime]

/-- The name of the domain in data files. -/
def tag : TimestampDomain → String
  | .hardwareClock => "hardware_clock" | .systemTime => "system_time" | .globalTime => "global_time"

/-- The domain whose data-file name is `s`. -/
def ofTag? (s : String) : Option TimestampDomain := all.find? (·.tag == s)

end TimestampDomain

end DepthBridge
