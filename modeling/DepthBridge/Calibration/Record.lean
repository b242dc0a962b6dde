import DepthBridge.Message

/-!
# Calibration records

The camera model sent beside every image of a stream: the intrinsics widened to doubles, the
distortion model's bus name (`equidistant` for the four-coefficient fisheye model, `plumb_bob`
for every other), the camera matrix `k`, the rectification `r` (the identity until a stereo
pair says otherwise) and the projection `p = k · [I | 0]`.
-/

namespace DepthBridge

/-- The camera model of one stream. -/
structure CalibrationRecord where
  width : UInt32
  height : UInt32
  fx : Float
  fy : Float
  ppx : Float
  ppy : Float
  distortionModel : String
  d : List Float
  /-- Row-major 3×3. -/
  k : List Float
  /-- Row-major 3×3. -/
  r : List Float
  /-- Row-major 3×4. -/
  p : List Float
  deriving Inhabited

namespace CalibrationRecord

/-- The identity rotation, row-major. -/
def identity3 : List Float := [1, 0, 0, 0, 1, 0, 0, 0, 1]

/-- The bus name of a distortion model. -/
def modelName : DistortionModel → String
  | .kannalaBrandt4 => "equidistant"
  | _ => "plumb_bob"

/-- The record of an imager's intrinsics. -/
def ofIntrinsics (k : Intrinsics) : CalibrationRecord :=
  let fx := Rounding.widen k.fx
  let fy := Rounding.widen k.fy
  let ppx := Rounding.widen k.ppx
  let ppy := Rounding.widen k.ppy
  { width := k.width, height := k.height, fx, fy, ppx, ppy
    distortionModel := modelName k.model
    d := k.coeffs.map Rounding.widen
    k := [fx, 0, ppx, 0, fy, ppy, 0, 0, 1]
    r := identity3
    p := [fx, 0, ppx, 0, 0, fy, ppy, 0, 0, 0, 1, 0] }

/-- The calibration message of the record. -/
def toCameraInfo (c : CalibrationRecord) (header : Header) : CameraInfo :=
  { header, width := c.width, height := c.height, distortionModel := c.distortionModel
    d := c.d, k := c.k, r := c.r, p := c.p }

end CalibrationRecord
end DepthBridge
