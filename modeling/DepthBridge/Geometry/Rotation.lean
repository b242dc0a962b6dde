import DepthBridge.Message

/-!
# Rotations

Unit quaternions `w + xi + yj + zk`, composed by the Hamilton product and applied to vectors
by `v + 2w(q × v) + q × (2 q × v)`. A rotation matrix is converted by the robust rule that
divides by the largest of the four candidate denominators: the trace's, or that of the largest
diagonal entry.

The axis conventions of the bridge: the device reports positions in an optical frame (`x`
right, `y` down, `z` forward), the bus expects a body frame (`x` forward, `y` left, `z` up).
`opticalRotation` turns one into the other; the pose tracker's own frame (`x` right, `y` up,
`z` backward) is mapped by `poseToBody` and `poseOrientationToBody`.

The formulas are written over any `RotationScalar`. The bridge computes them in double
precision, where every operation rounds in the order written, which fixes the last bits of each
result; over the reals they are the rotations they stand for. The device's readings are singles,
widened to doubles before anything is computed (`Axes.poseVector` and its neighbours).
-/

namespace DepthBridge

/-- The scalars rotations are computed in: field operations, decimal literals, a decidable
order, the square root, sine and cosine, and a quarter turn. -/
class RotationScalar (α : Type) extends Zero α, One α, Add α, Sub α, Mul α, Div α, Neg α, LT α,
    OfScientific α where
  sqrt : α → α
  sin : α → α
  cos : α → α
  /-- A quarter turn, `π / 2`. -/
  halfPi : α
  decLt : ∀ a b : α, Decidable (a < b)

instance RotationScalar.decidableLt {α : Type} [RotationScalar α] (a b : α) : Decidable (a < b) :=
  RotationScalar.decLt a b

/-- Doubles, with a quarter turn rounded to the nearest double. -/
instance : RotationScalar Float where
  sqrt := Float.sqrt
  sin := Float.sin
  cos := Float.cos
  halfPi := 1.5707963267948966
  decLt := Float.decLt

namespace Vec3

variable {α : Type} [Mul α] [Sub α]

/-- The cross product `a × b`. -/
def cross (a b : Vec3 α) : Vec3 α :=
  ⟨a.y * b.z - a.z * b.y, a.z * b.x - a.x * b.z, a.x * b.y - a.y * b.x⟩

end Vec3

namespace Quat

variable {α : Type} [RotationScalar α]

/-- The Hamilton product `a · b`. -/
def mul (a b : Quat α) : Quat α :=
  { w := a.w * b.w - a.x * b.x - a.y * b.y - a.z * b.z
    x := a.w * b.x + a.x * b.w + a.y * b.z - a.z * b.y
    y := a.w * b.y - a.x * b.z + a.y * b.w + a.z * b.x
    z := a.w * b.z + a.x * b.y - a.y * b.x + a.z * b.w }

/-- The conjugate, which inverts a unit quaternion. -/
def conj (q : Quat α) : Quat α := ⟨-q.x, -q.y, -q.z, q.w⟩

/-- The Euclidean norm, summing the squares pairwise: `(x² + z²) + (y² + w²)`. -/
def norm (q : Quat α) : α :=
  RotationScalar.sqrt ((q.x * q.x + q.z * q.z) + (q.y * q.y + q.w * q.w))

/-- The quaternion scaled to unit norm. -/
def normalize (q : Quat α) : Quat α :=
  let n := q.norm
  ⟨q.x / n, q.y / n, q.z / n, q.w / n⟩

/-- The vector part. -/
def vec (q : Quat α) : Vec3 α := ⟨q.x, q.y, q.z⟩

/-- The vector `v` rotated by the unit quaternion `q`. -/
def rotate (q : Quat α) (v : Vec3 α) : Vec3 α :=
  let c := q.vec.cross v
  let t : Vec3 α := ⟨c.x * 2.0, c.y * 2.0, c.z * 2.0⟩
  let c2 := q.vec.cross t
  ⟨t.x * q.w + c2.x + v.x, t.y * q.w + c2.y + v.y, t.z * q.w + c2.z + v.z⟩

/-- The rotation of roll `r` about `x`, then pitch `p` about `y`, then yaw `y` about `z`. -/
def ofEuler (roll pitch yaw : α) : Quat α :=
  let sr := RotationScalar.sin (roll * 0.5)
  let cr := RotationScalar.cos (roll * 0.5)
  let sp := RotationScalar.sin (pitch * 0.5)
  let cp := RotationScalar.cos (pitch * 0.5)
  let sy := RotationScalar.sin (yaw * 0.5)
  let cy := RotationScalar.cos (yaw * 0.5)
  { w := cr * cp * cy + sr * sp * sy
    x := sr * cp * cy - cr * sp * sy
    y := cr * sp * cy + sr * cp * sy
    z := cr * cp * sy - sr * sp * cy }

/-- The quaternion of a rotation matrix given by its entries `m i j` (row `i`, column `j`),
without normalizing. -/
def ofMatrix (m : Nat → Nat → α) : Quat α :=
  let tr := m 0 0 + m 1 1 + m 2 2
  if tr > 0 then
    let d := RotationScalar.sqrt (tr + 1) * 2.0
    { w := 0.25 * d, x := (m 2 1 - m 1 2) / d, y := (m 0 2 - m 2 0) / d, z := (m 1 0 - m 0 1) / d }
  else if m 0 0 > m 1 1 && m 0 0 > m 2 2 then
    let d := RotationScalar.sqrt (1 + m 0 0 - m 1 1 - m 2 2) * 2.0
    { w := (m 2 1 - m 1 2) / d, x := 0.25 * d, y := (m 0 1 + m 1 0) / d, z := (m 0 2 + m 2 0) / d }
  else if m 1 1 > m 2 2 then
    let d := RotationScalar.sqrt (1 + m 1 1 - m 0 0 - m 2 2) * 2.0
    { w := (m 0 2 - m 2 0) / d, x := (m 0 1 + m 1 0) / d, y := 0.25 * d, z := (m 1 2 + m 2 1) / d }
  else
    let d := RotationScalar.sqrt (1 + m 2 2 - m 0 0 - m 1 1) * 2.0
    { w := (m 1 0 - m 0 1) / d, x := (m 0 2 + m 2 0) / d, y := (m 1 2 + m 2 1) / d, z := 0.25 * d }

end Quat

namespace Axes

variable {α : Type} [RotationScalar α]

/-- The rotation from the optical frame to the body frame. -/
def opticalRotation : Quat α :=
  Quat.ofEuler (-RotationScalar.halfPi) 0 (-RotationScalar.halfPi)

/-- A rotation between optical frames, expressed between body frames. -/
def opticalToBodyRotation (q : Quat α) : Quat α :=
  (opticalRotation.mul q).mul opticalRotation.conj

/-- An optical-frame vector in the body frame. -/
def opticalToBody (t : Vec3 α) : Vec3 α := ⟨t.z, -t.x, -t.y⟩

/-- A pose-tracker vector in the body frame. -/
def poseToBody (v : Vec3 α) : Vec3 α := ⟨-v.z, -v.x, v.y⟩

/-- A pose-tracker orientation in the body frame, normalized. -/
def poseOrientationToBody (q : Quat α) : Quat α := Quat.normalize ⟨-q.z, -q.x, q.y, q.w⟩

/-! ## Readings of singles -/

/-- The `i`-th single of a list as a double, zero past its end. -/
def single (l : List Float32) (i : Nat) : Float := (l.getD i 0).toFloat

/-- The vector of the first three singles of a list. -/
def singles3 (l : List Float32) : Vector3 := ⟨single l 0, single l 1, single l 2⟩

/-- The quaternion of a column-major rotation matrix of singles. -/
def rotationToQuaternion (rotation : List Float32) : Quaternion :=
  Quat.ofMatrix fun i j => single rotation (3 * j + i)

/-- A rotation of singles between optical frames, expressed between body frames. -/
def conjugate (rotation : List Float32) : Quaternion :=
  opticalToBodyRotation (rotationToQuaternion rotation)

/-- An optical-frame translation of singles in the body frame. -/
def opticalTranslation (t : List Float32) : Vector3 := opticalToBody (singles3 t)

/-- A pose-tracker vector of singles in the body frame. -/
def poseVector (v : List Float32) : Vector3 := poseToBody (singles3 v)

/-- A pose-tracker orientation `(x, y, z, w)` of singles in the body frame, normalized. -/
def poseOrientation (rotation : List Float32) : Quaternion :=
  poseOrientationToBody ⟨single rotation 0, single rotation 1, single rotation 2, single rotation 3⟩

end Axes
end DepthBridge
