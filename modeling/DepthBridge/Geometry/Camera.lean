import DepthBridge.Stream
import DepthBridge.Halt

/-!
# Pinhole geometry in single precision

A pixel `(u, v)` seen at depth `z` is the point `((u - ppx) / fx · z, (v - ppy) / fy · z, z)`
in the imager's optical frame; `project` inverts that for points in front of the imager. A
rigid motion applies its column-major rotation, summing the columns' contributions left to
right, then adds its translation. Every operation rounds in single precision, one operation at
a time, in the order written.
-/

namespace DepthBridge

/-- A point or vector of singles. -/
structure Vec3f where
  x : Float32
  y : Float32
  z : Float32
  deriving Inhabited

namespace Geometry

/-- The point seen at pixel `(u, v)` at depth `z`. -/
def deproject (k : Intrinsics) (u v z : Float32) : Vec3f :=
  ⟨(u - k.ppx) / k.fx * z, (v - k.ppy) / k.fy * z, z⟩

/-- The pixel at which a point in front of the imager is seen. -/
def project (k : Intrinsics) (p : Vec3f) : Option (Float32 × Float32) :=
  if p.z ≤ 0 then none
  else some (p.x / p.z * k.fx + k.ppx, p.y / p.z * k.fy + k.ppy)

/-- A point moved by a rigid motion. -/
def transform (e : Extrinsics) (p : Vec3f) : Vec3f :=
  let r (i : Nat) : Float32 := e.rotation.getD i 0
  let t (i : Nat) : Float32 := e.translation.getD i 0
  -- the first column, then each further column added in turn
  let row (i : Nat) : Float32 := r i * p.x + r (i + 3) * p.y + r (i + 6) * p.z
  ⟨row 0 + t 0, row 1 + t 1, row 2 + t 2⟩

/-- The calibration of an image shrunk `factor` times in each direction; a factor of zero
divides the size by zero. -/
def scaleIntrinsics (k : Intrinsics) (factor : UInt32) : Except Halt Intrinsics :=
  if factor = 0 then .error .divByZero
  else
    let f := factor.toFloat32
    .ok { k with width := k.width / factor, height := k.height / factor,
                 fx := k.fx / f, fy := k.fy / f, ppx := k.ppx / f, ppy := k.ppy / f }

end Geometry
end DepthBridge
