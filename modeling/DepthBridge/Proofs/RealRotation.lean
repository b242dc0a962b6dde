import Mathlib
import DepthBridge.Geometry.Rotation

/-!
# Rotations over the reals

The rotation formulas of `Geometry.Rotation` computed exactly: the reals are a `RotationScalar`,
with `π / 2` as the quarter turn. Over them,

* `Quat.rotate q` is the matrix `q.matrix` (`rotate_eq_transform`), and for unit quaternions the
  Hamilton product composes rotations (`rotate_mul`) and the conjugate inverts them;
* `Quat.ofMatrix R` is, for every proper rotation `R`, a unit quaternion whose matrix is `R`
  (`matrix_ofMatrix`). The four branches of Shepperd's rule read the quaternion off one row of
  the matrix of products `4 qᵢ qⱼ`; that each branch reads the right row rests on the rank-one
  identities of that matrix, which follow from `R` being orthonormal with determinant one.
-/

namespace DepthBridge

/-- The reals, where the rotation formulas are exact. -/
noncomputable instance : RotationScalar ℝ where
  sqrt := Real.sqrt
  sin := Real.sin
  cos := Real.cos
  halfPi := Real.pi / 2
  decLt := fun a b => Classical.propDecidable (a < b)

namespace RotationScalar

@[simp] theorem sqrt_real (x : ℝ) : RotationScalar.sqrt x = Real.sqrt x := rfl

@[simp] theorem sin_real (x : ℝ) : RotationScalar.sin x = Real.sin x := rfl

@[simp] theorem cos_real (x : ℝ) : RotationScalar.cos x = Real.cos x := rfl

@[simp] theorem halfPi_real : (RotationScalar.halfPi : ℝ) = Real.pi / 2 := rfl

end RotationScalar

attribute [ext] Vec3 Quat

/-! ## Vectors and matrices -/

namespace Vec3

instance {α : Type} [Add α] : Add (Vec3 α) := ⟨fun a b => ⟨a.x + b.x, a.y + b.y, a.z + b.z⟩⟩

@[simp] theorem add_x {α : Type} [Add α] (a b : Vec3 α) : (a + b).x = a.x + b.x := rfl

@[simp] theorem add_y {α : Type} [Add α] (a b : Vec3 α) : (a + b).y = a.y + b.y := rfl

@[simp] theorem add_z {α : Type} [Add α] (a b : Vec3 α) : (a + b).z = a.z + b.z := rfl

/-- The coordinates of a vector. -/
def toFin (v : Vec3 ℝ) : Fin 3 → ℝ := ![v.x, v.y, v.z]

/-- The image of a vector under a 3 × 3 matrix. -/
def transform (A : Matrix (Fin 3) (Fin 3) ℝ) (v : Vec3 ℝ) : Vec3 ℝ :=
  ⟨A.mulVec v.toFin 0, A.mulVec v.toFin 1, A.mulVec v.toFin 2⟩

theorem toFin_injective : Function.Injective toFin := by
  intro u v h
  ext
  · exact congrFun h 0
  · exact congrFun h 1
  · exact congrFun h 2

@[simp] theorem toFin_add (u v : Vec3 ℝ) : (u + v).toFin = u.toFin + v.toFin := by
  funext i
  fin_cases i <;> rfl

@[simp] theorem toFin_transform (A : Matrix (Fin 3) (Fin 3) ℝ) (v : Vec3 ℝ) :
    (transform A v).toFin = A.mulVec v.toFin := by
  funext i
  fin_cases i <;> rfl

theorem transform_mul (A B : Matrix (Fin 3) (Fin 3) ℝ) (v : Vec3 ℝ) :
    transform (A * B) v = transform A (transform B v) :=
  toFin_injective (by simp [Matrix.mulVec_mulVec])

theorem transform_one (v : Vec3 ℝ) : transform 1 v = v :=
  toFin_injective (by simp)

theorem transform_add (A : Matrix (Fin 3) (Fin 3) ℝ) (u v : Vec3 ℝ) :
    transform A (u + v) = transform A u + transform A v :=
  toFin_injective (by simp [Matrix.mulVec_add])

/-- The coordinates of the image, written out. -/
theorem transform_eq (A : Matrix (Fin 3) (Fin 3) ℝ) (v : Vec3 ℝ) :
    transform A v = ⟨A 0 0 * v.x + A 0 1 * v.y + A 0 2 * v.z, A 1 0 * v.x + A 1 1 * v.y + A 1 2 * v.z,
      A 2 0 * v.x + A 2 1 * v.y + A 2 2 * v.z⟩ := by
  simp [transform, toFin, Matrix.mulVec, dotProduct, Fin.sum_univ_three]

end Vec3

/-- The entries of a 3 × 3 matrix indexed by naturals, row then column, as `Quat.ofMatrix` reads
them. -/
def natEntries (R : Matrix (Fin 3) (Fin 3) ℝ) (i j : ℕ) : ℝ := R (Fin.ofNat 3 i) (Fin.ofNat 3 j)

/-! ## The rotation of a quaternion -/

namespace Quat

/-- The sum of the squares of the components. -/
def normSq (q : Quat ℝ) : ℝ := q.x * q.x + q.y * q.y + q.z * q.z + q.w * q.w

/-- A unit quaternion: the squares of its components sum to one. -/
def HasUnitNorm (q : Quat ℝ) : Prop := q.normSq = 1

/-- The matrix of `rotate q`, row by row; a rotation when `q` is a unit quaternion. -/
def matrix (q : Quat ℝ) : Matrix (Fin 3) (Fin 3) ℝ :=
  !![1 - 2 * (q.y * q.y + q.z * q.z), 2 * (q.x * q.y - q.z * q.w), 2 * (q.x * q.z + q.y * q.w);
     2 * (q.x * q.y + q.z * q.w), 1 - 2 * (q.x * q.x + q.z * q.z), 2 * (q.y * q.z - q.x * q.w);
     2 * (q.x * q.z - q.y * q.w), 2 * (q.y * q.z + q.x * q.w), 1 - 2 * (q.x * q.x + q.y * q.y)]

theorem rotate_eq_transform (q : Quat ℝ) (v : Vec3 ℝ) : q.rotate v = Vec3.transform q.matrix v := by
  rw [Vec3.transform_eq]
  ext <;> simp only [rotate, Vec3.cross, vec, matrix, Matrix.of_apply, Matrix.cons_val',
    Matrix.cons_val_zero, Matrix.cons_val_one, Matrix.cons_val_two, Matrix.empty_val',
    Matrix.cons_val_fin_one] <;> norm_num <;> ring

/-- The Hamilton product composes the matrices, up to terms that vanish on unit quaternions. -/
theorem matrix_mul_eq (a b : Quat ℝ) :
    (a.mul b).matrix = a.matrix * b.matrix + (a.normSq - 1) • (b.matrix - 1) +
      (b.normSq - 1) • (a.matrix - 1) := by
  ext i j
  fin_cases i <;> fin_cases j <;>
    simp only [matrix, mul, normSq, Matrix.add_apply, Matrix.smul_apply, Matrix.sub_apply,
      Matrix.mul_apply, Fin.sum_univ_three, Matrix.one_apply_eq, Matrix.one_apply_ne, ne_eq,
      Fin.reduceEq, not_false_eq_true, Matrix.of_apply, Matrix.cons_val, Matrix.cons_val',
      Matrix.cons_val_zero, Matrix.cons_val_one, Matrix.cons_val_fin_one, Fin.isValue,
      Fin.zero_eta, Fin.mk_one, Fin.reduceFinMk, smul_eq_mul] <;> ring

theorem matrix_mul {a b : Quat ℝ} (ha : a.HasUnitNorm) (hb : b.HasUnitNorm) :
    (a.mul b).matrix = a.matrix * b.matrix := by
  rw [matrix_mul_eq, ha, hb]
  simp

/-- Euler's four-square identity. -/
theorem normSq_mul (a b : Quat ℝ) : (a.mul b).normSq = a.normSq * b.normSq := by
  simp only [normSq, mul]
  ring

theorem normSq_conj (q : Quat ℝ) : q.conj.normSq = q.normSq := by
  simp only [normSq, conj]
  ring

theorem HasUnitNorm.mul {a b : Quat ℝ} (ha : a.HasUnitNorm) (hb : b.HasUnitNorm) :
    (a.mul b).HasUnitNorm := by
  rw [HasUnitNorm, normSq_mul, ha, hb, one_mul]

theorem HasUnitNorm.conj {q : Quat ℝ} (hq : q.HasUnitNorm) : q.conj.HasUnitNorm := by
  rw [HasUnitNorm, normSq_conj]
  exact hq

/-- Rotating by a product of unit quaternions rotates by the right factor, then the left. -/
theorem rotate_mul {a b : Quat ℝ} (ha : a.HasUnitNorm) (hb : b.HasUnitNorm) (v : Vec3 ℝ) :
    (a.mul b).rotate v = a.rotate (b.rotate v) := by
  rw [rotate_eq_transform, rotate_eq_transform, rotate_eq_transform, matrix_mul ha hb,
    Vec3.transform_mul]

theorem rotate_add (q : Quat ℝ) (u v : Vec3 ℝ) : q.rotate (u + v) = q.rotate u + q.rotate v := by
  rw [rotate_eq_transform, rotate_eq_transform, rotate_eq_transform, Vec3.transform_add]

theorem conj_mul_self {q : Quat ℝ} (hq : q.HasUnitNorm) : q.conj.mul q = ⟨0, 0, 0, 1⟩ := by
  unfold HasUnitNorm normSq at hq
  ext <;> simp only [conj, mul]
  · ring
  · ring
  · ring
  · linear_combination hq

theorem matrix_one : (⟨0, 0, 0, 1⟩ : Quat ℝ).matrix = 1 := by
  ext i j
  fin_cases i <;> fin_cases j <;> simp [matrix]

/-- The conjugate of a unit quaternion undoes its rotation. -/
theorem rotate_conj_rotate {q : Quat ℝ} (hq : q.HasUnitNorm) (v : Vec3 ℝ) :
    q.conj.rotate (q.rotate v) = v := by
  rw [← rotate_mul hq.conj hq, conj_mul_self hq, rotate_eq_transform, matrix_one,
    Vec3.transform_one]

/-! ## Shepperd's rule -/

/-- Four times the products of the components of `q` are the combinations of the entries of `R`
that Shepperd's rule reads them from: the matrix of these products has rank one. -/
structure ShepperdOf (q : Quat ℝ) (R : Matrix (Fin 3) (Fin 3) ℝ) : Prop where
  ww : 4 * (q.w * q.w) = 1 + R 0 0 + R 1 1 + R 2 2
  xx : 4 * (q.x * q.x) = 1 + R 0 0 - R 1 1 - R 2 2
  yy : 4 * (q.y * q.y) = 1 - R 0 0 + R 1 1 - R 2 2
  zz : 4 * (q.z * q.z) = 1 - R 0 0 - R 1 1 + R 2 2
  wx : 4 * (q.w * q.x) = R 2 1 - R 1 2
  wy : 4 * (q.w * q.y) = R 0 2 - R 2 0
  wz : 4 * (q.w * q.z) = R 1 0 - R 0 1
  xy : 4 * (q.x * q.y) = R 0 1 + R 1 0
  xz : 4 * (q.x * q.z) = R 0 2 + R 2 0
  yz : 4 * (q.y * q.z) = R 1 2 + R 2 1

namespace ShepperdOf

variable {q : Quat ℝ} {R : Matrix (Fin 3) (Fin 3) ℝ}

/-- Each entry of `R` is a combination of the products, and it is the entry of `q.matrix`. -/
theorem matrix_eq (h : q.ShepperdOf R) : q.matrix = R := by
  ext i j
  fin_cases i <;> fin_cases j <;>
    simp only [matrix, Matrix.of_apply, Matrix.cons_val, Matrix.cons_val', Matrix.cons_val_zero,
      Matrix.cons_val_one, Matrix.cons_val_fin_one, Fin.isValue, Fin.zero_eta, Fin.mk_one,
      Fin.reduceFinMk]
  · linear_combination (-1 / 2) * h.yy - (1 / 2) * h.zz
  · linear_combination (1 / 2) * h.xy - (1 / 2) * h.wz
  · linear_combination (1 / 2) * h.xz + (1 / 2) * h.wy
  · linear_combination (1 / 2) * h.xy + (1 / 2) * h.wz
  · linear_combination (-1 / 2) * h.xx - (1 / 2) * h.zz
  · linear_combination (1 / 2) * h.yz - (1 / 2) * h.wx
  · linear_combination (1 / 2) * h.xz - (1 / 2) * h.wy
  · linear_combination (1 / 2) * h.yz + (1 / 2) * h.wx
  · linear_combination (-1 / 2) * h.xx - (1 / 2) * h.yy

/-- The four squares sum to a quarter of the trace of Shepperd's matrix, which is four. -/
theorem hasUnitNorm (h : q.ShepperdOf R) : q.HasUnitNorm := by
  unfold HasUnitNorm normSq
  linear_combination (1 / 4) * (h.xx + h.yy + h.zz + h.ww)

end ShepperdOf

end Quat

/-- The equations the entries of a proper rotation satisfy: orthonormal rows and columns, and each
entry equal to its cofactor. -/
structure RotationEntries (R : Matrix (Fin 3) (Fin 3) ℝ) : Prop where
  row0 : R 0 0 * R 0 0 + R 0 1 * R 0 1 + R 0 2 * R 0 2 = 1
  row1 : R 1 0 * R 1 0 + R 1 1 * R 1 1 + R 1 2 * R 1 2 = 1
  row2 : R 2 0 * R 2 0 + R 2 1 * R 2 1 + R 2 2 * R 2 2 = 1
  row01 : R 0 0 * R 1 0 + R 0 1 * R 1 1 + R 0 2 * R 1 2 = 0
  row02 : R 0 0 * R 2 0 + R 0 1 * R 2 1 + R 0 2 * R 2 2 = 0
  row12 : R 1 0 * R 2 0 + R 1 1 * R 2 1 + R 1 2 * R 2 2 = 0
  col0 : R 0 0 * R 0 0 + R 1 0 * R 1 0 + R 2 0 * R 2 0 = 1
  col1 : R 0 1 * R 0 1 + R 1 1 * R 1 1 + R 2 1 * R 2 1 = 1
  col2 : R 0 2 * R 0 2 + R 1 2 * R 1 2 + R 2 2 * R 2 2 = 1
  col01 : R 0 0 * R 0 1 + R 1 0 * R 1 1 + R 2 0 * R 2 1 = 0
  col02 : R 0 0 * R 0 2 + R 1 0 * R 1 2 + R 2 0 * R 2 2 = 0
  col12 : R 0 1 * R 0 2 + R 1 1 * R 1 2 + R 2 1 * R 2 2 = 0
  cof00 : R 0 0 = R 1 1 * R 2 2 - R 1 2 * R 2 1
  cof01 : R 0 1 = R 1 2 * R 2 0 - R 1 0 * R 2 2
  cof02 : R 0 2 = R 1 0 * R 2 1 - R 1 1 * R 2 0
  cof10 : R 1 0 = R 0 2 * R 2 1 - R 0 1 * R 2 2
  cof11 : R 1 1 = R 0 0 * R 2 2 - R 0 2 * R 2 0
  cof12 : R 1 2 = R 0 1 * R 2 0 - R 0 0 * R 2 1
  cof20 : R 2 0 = R 0 1 * R 1 2 - R 0 2 * R 1 1
  cof21 : R 2 1 = R 0 2 * R 1 0 - R 0 0 * R 1 2
  cof22 : R 2 2 = R 0 0 * R 1 1 - R 0 1 * R 1 0

/-- A proper rotation satisfies them: its transpose is its inverse, and so its adjugate. -/
theorem rotationEntries {R : Matrix (Fin 3) (Fin 3) ℝ}
    (hR : R ∈ Matrix.specialOrthogonalGroup (Fin 3) ℝ) : RotationEntries R := by
  obtain ⟨hO, hdet⟩ := Matrix.mem_specialOrthogonalGroup_iff.1 hR
  have hcolM : R.transpose * R = 1 := (Matrix.mem_orthogonalGroup_iff' (Fin 3) ℝ).1 hO
  have hadj : R.adjugate = R.transpose :=
    calc R.adjugate = R.transpose * R * R.adjugate := by rw [hcolM, Matrix.one_mul]
      _ = R.transpose * (R * R.adjugate) := Matrix.mul_assoc _ _ _
      _ = R.transpose := by rw [Matrix.mul_adjugate, hdet, one_smul, Matrix.mul_one]
  have row : ∀ i j, R i 0 * R j 0 + R i 1 * R j 1 + R i 2 * R j 2 = if i = j then 1 else 0 :=
    fun i j => by
      have h := congrFun (congrFun ((Matrix.mem_orthogonalGroup_iff (Fin 3) ℝ).1 hO) i) j
      simpa [Matrix.mul_apply, Fin.sum_univ_three, Matrix.one_apply] using h
  have col : ∀ i j, R 0 i * R 0 j + R 1 i * R 1 j + R 2 i * R 2 j = if i = j then 1 else 0 :=
    fun i j => by
      have h := congrFun (congrFun hcolM i) j
      simpa [Matrix.mul_apply, Fin.sum_univ_three, Matrix.one_apply] using h
  -- each entry is the entry of the adjugate across the diagonal
  have cof : ∀ i j, R.adjugate j i = R i j := fun i j => by rw [hadj, Matrix.transpose_apply]
  rw [Matrix.adjugate_fin_three] at cof
  exact
    { row0 := by simpa using row 0 0
      row1 := by simpa using row 1 1
      row2 := by simpa using row 2 2
      row01 := by simpa using row 0 1
      row02 := by simpa using row 0 2
      row12 := by simpa using row 1 2
      col0 := by simpa using col 0 0
      col1 := by simpa using col 1 1
      col2 := by simpa using col 2 2
      col01 := by simpa using col 0 1
      col02 := by simpa using col 0 2
      col12 := by simpa using col 1 2
      cof00 := by simpa [neg_add_eq_sub] using (cof 0 0).symm
      cof01 := by simpa [neg_add_eq_sub] using (cof 0 1).symm
      cof02 := by simpa [neg_add_eq_sub] using (cof 0 2).symm
      cof10 := by simpa [neg_add_eq_sub] using (cof 1 0).symm
      cof11 := by simpa [neg_add_eq_sub] using (cof 1 1).symm
      cof12 := by simpa [neg_add_eq_sub] using (cof 1 2).symm
      cof20 := by simpa [neg_add_eq_sub] using (cof 2 0).symm
      cof21 := by simpa [neg_add_eq_sub] using (cof 2 1).symm
      cof22 := by simpa [neg_add_eq_sub] using (cof 2 2).symm }

namespace RotationEntries

variable {R : Matrix (Fin 3) (Fin 3) ℝ}

/-- A diagonal entry of a rotation lies in `[-1, 1]`: it is one coordinate of a unit row. -/
theorem diag_bounds (hE : RotationEntries R) :
    (-1 ≤ R 0 0 ∧ R 0 0 ≤ 1) ∧ (-1 ≤ R 1 1 ∧ R 1 1 ≤ 1) ∧ (-1 ≤ R 2 2 ∧ R 2 2 ≤ 1) := by
  refine ⟨abs_le.1 (abs_le_one_iff_mul_self_le_one.2 ?_), abs_le.1 (abs_le_one_iff_mul_self_le_one.2 ?_),
    abs_le.1 (abs_le_one_iff_mul_self_le_one.2 ?_)⟩
  · nlinarith [hE.row0, mul_self_nonneg (R 0 1), mul_self_nonneg (R 0 2)]
  · nlinarith [hE.row1, mul_self_nonneg (R 1 0), mul_self_nonneg (R 1 2)]
  · nlinarith [hE.row2, mul_self_nonneg (R 2 0), mul_self_nonneg (R 2 1)]

/-! The rank-one identities between two diagonal entries of Shepperd's matrix. -/

theorem minor_wx (hE : RotationEntries R) :
    (1 + R 0 0 + R 1 1 + R 2 2) * (1 + R 0 0 - R 1 1 - R 2 2) = (R 2 1 - R 1 2) * (R 2 1 - R 1 2) := by
  linear_combination hE.col0 - hE.row1 - hE.row2 + 2 * hE.cof00

theorem minor_wy (hE : RotationEntries R) :
    (1 + R 0 0 + R 1 1 + R 2 2) * (1 - R 0 0 + R 1 1 - R 2 2) = (R 0 2 - R 2 0) * (R 0 2 - R 2 0) := by
  linear_combination hE.col1 - hE.row0 - hE.row2 + 2 * hE.cof11

theorem minor_wz (hE : RotationEntries R) :
    (1 + R 0 0 + R 1 1 + R 2 2) * (1 - R 0 0 - R 1 1 + R 2 2) = (R 1 0 - R 0 1) * (R 1 0 - R 0 1) := by
  linear_combination hE.row2 - hE.col0 - hE.col1 + 2 * hE.cof22

theorem minor_xy (hE : RotationEntries R) :
    (1 + R 0 0 - R 1 1 - R 2 2) * (1 - R 0 0 + R 1 1 - R 2 2) = (R 0 1 + R 1 0) * (R 0 1 + R 1 0) := by
  linear_combination hE.row2 - hE.col0 - hE.col1 - 2 * hE.cof22

theorem minor_xz (hE : RotationEntries R) :
    (1 + R 0 0 - R 1 1 - R 2 2) * (1 - R 0 0 - R 1 1 + R 2 2) = (R 0 2 + R 2 0) * (R 0 2 + R 2 0) := by
  linear_combination hE.col1 - hE.row0 - hE.row2 - 2 * hE.cof11

theorem minor_yz (hE : RotationEntries R) :
    (1 - R 0 0 + R 1 1 - R 2 2) * (1 - R 0 0 - R 1 1 + R 2 2) = (R 1 2 + R 2 1) * (R 1 2 + R 2 1) := by
  linear_combination hE.col0 - hE.row1 - hE.row2 - 2 * hE.cof00

end RotationEntries

/-! ### One branch of the rule

A branch divides one row `(A, B, C, P)` of Shepperd's matrix by `s = 2 √P`, putting `s / 4` in the
place of the diagonal entry `P`. Four times a product of two components is then an entry of the
matrix, by the rank-one identity `P * C = A * B` of that row. -/

section Branch

variable {s P A B C : ℝ}

theorem four_mul_quarter_sq (hs : s * s = 4 * P) : 4 * (0.25 * s * (0.25 * s)) = P := by
  norm_num
  linear_combination (1 / 4) * hs

theorem four_mul_quarter_left (hs0 : s ≠ 0) : 4 * (0.25 * s * (A / s)) = A := by
  norm_num
  field_simp

theorem four_mul_quarter_right (hs0 : s ≠ 0) : 4 * (A / s * (0.25 * s)) = A := by
  norm_num
  field_simp

theorem four_mul_div_div (hs : s * s = 4 * P) (hs0 : s ≠ 0) (hm : P * C = A * B) :
    4 * (A / s * (B / s)) = C := by
  field_simp
  linear_combination (-4) * hm - C * hs

end Branch

variable {R : Matrix (Fin 3) (Fin 3) ℝ} {s : ℝ}

/-- A positive trace: the row of `w`. -/
theorem shepperdOf_pivotW (hE : RotationEntries R) (hs : s * s = 4 * (1 + R 0 0 + R 1 1 + R 2 2))
    (hs0 : s ≠ 0) :
    Quat.ShepperdOf ⟨(R 2 1 - R 1 2) / s, (R 0 2 - R 2 0) / s, (R 1 0 - R 0 1) / s, 0.25 * s⟩ R := by
  have hxy : (1 + R 0 0 + R 1 1 + R 2 2) * (R 0 1 + R 1 0) = (R 2 1 - R 1 2) * (R 0 2 - R 2 0) := by
    linear_combination hE.row01 + hE.col01 + hE.cof01 + hE.cof10
  have hxz : (1 + R 0 0 + R 1 1 + R 2 2) * (R 0 2 + R 2 0) = (R 2 1 - R 1 2) * (R 1 0 - R 0 1) := by
    linear_combination hE.row02 + hE.col02 + hE.cof02 + hE.cof20
  have hyz : (1 + R 0 0 + R 1 1 + R 2 2) * (R 1 2 + R 2 1) = (R 0 2 - R 2 0) * (R 1 0 - R 0 1) := by
    linear_combination hE.row12 + hE.col12 + hE.cof12 + hE.cof21
  exact
    { ww := four_mul_quarter_sq hs, xx := four_mul_div_div hs hs0 hE.minor_wx
      yy := four_mul_div_div hs hs0 hE.minor_wy, zz := four_mul_div_div hs hs0 hE.minor_wz
      wx := four_mul_quarter_left hs0, wy := four_mul_quarter_left hs0
      wz := four_mul_quarter_left hs0, xy := four_mul_div_div hs hs0 hxy
      xz := four_mul_div_div hs hs0 hxz, yz := four_mul_div_div hs hs0 hyz }

/-- The largest diagonal entry is the first: the row of `x`. -/
theorem shepperdOf_pivotX (hE : RotationEntries R) (hs : s * s = 4 * (1 + R 0 0 - R 1 1 - R 2 2))
    (hs0 : s ≠ 0) :
    Quat.ShepperdOf ⟨0.25 * s, (R 0 1 + R 1 0) / s, (R 0 2 + R 2 0) / s, (R 2 1 - R 1 2) / s⟩ R := by
  have hwy : (1 + R 0 0 - R 1 1 - R 2 2) * (R 0 2 - R 2 0) = (R 2 1 - R 1 2) * (R 0 1 + R 1 0) := by
    linear_combination hE.col02 - hE.row02 + hE.cof02 - hE.cof20
  have hwz : (1 + R 0 0 - R 1 1 - R 2 2) * (R 1 0 - R 0 1) = (R 2 1 - R 1 2) * (R 0 2 + R 2 0) := by
    linear_combination hE.row01 - hE.col01 - hE.cof01 + hE.cof10
  have hyz : (1 + R 0 0 - R 1 1 - R 2 2) * (R 1 2 + R 2 1) = (R 0 1 + R 1 0) * (R 0 2 + R 2 0) := by
    linear_combination hE.cof12 + hE.cof21 - hE.row12 - hE.col12
  exact
    { ww := four_mul_div_div hs hs0 (by linear_combination hE.minor_wx)
      xx := four_mul_quarter_sq hs, yy := four_mul_div_div hs hs0 hE.minor_xy
      zz := four_mul_div_div hs hs0 hE.minor_xz, wx := four_mul_quarter_right hs0
      wy := four_mul_div_div hs hs0 hwy, wz := four_mul_div_div hs hs0 hwz
      xy := four_mul_quarter_left hs0, xz := four_mul_quarter_left hs0
      yz := four_mul_div_div hs hs0 hyz }

/-- The largest diagonal entry is the second: the row of `y`. -/
theorem shepperdOf_pivotY (hE : RotationEntries R) (hs : s * s = 4 * (1 - R 0 0 + R 1 1 - R 2 2))
    (hs0 : s ≠ 0) :
    Quat.ShepperdOf ⟨(R 0 1 + R 1 0) / s, 0.25 * s, (R 1 2 + R 2 1) / s, (R 0 2 - R 2 0) / s⟩ R := by
  have hwx : (1 - R 0 0 + R 1 1 - R 2 2) * (R 2 1 - R 1 2) = (R 0 2 - R 2 0) * (R 0 1 + R 1 0) := by
    linear_combination hE.row12 - hE.col12 - hE.cof12 + hE.cof21
  have hwz : (1 - R 0 0 + R 1 1 - R 2 2) * (R 1 0 - R 0 1) = (R 0 2 - R 2 0) * (R 1 2 + R 2 1) := by
    linear_combination hE.col01 - hE.row01 - hE.cof01 + hE.cof10
  have hxz : (1 - R 0 0 + R 1 1 - R 2 2) * (R 0 2 + R 2 0) = (R 0 1 + R 1 0) * (R 1 2 + R 2 1) := by
    linear_combination hE.cof02 + hE.cof20 - hE.row02 - hE.col02
  exact
    { ww := four_mul_div_div hs hs0 (by linear_combination hE.minor_wy)
      xx := four_mul_div_div hs hs0 (by linear_combination hE.minor_xy)
      yy := four_mul_quarter_sq hs, zz := four_mul_div_div hs hs0 hE.minor_yz
      wx := four_mul_div_div hs hs0 hwx, wy := four_mul_quarter_right hs0
      wz := four_mul_div_div hs hs0 hwz, xy := four_mul_quarter_right hs0
      xz := four_mul_div_div hs hs0 hxz, yz := four_mul_quarter_left hs0 }

/-- The largest diagonal entry is the third: the row of `z`. -/
theorem shepperdOf_pivotZ (hE : RotationEntries R) (hs : s * s = 4 * (1 - R 0 0 - R 1 1 + R 2 2))
    (hs0 : s ≠ 0) :
    Quat.ShepperdOf ⟨(R 0 2 + R 2 0) / s, (R 1 2 + R 2 1) / s, 0.25 * s, (R 1 0 - R 0 1) / s⟩ R := by
  have hwx : (1 - R 0 0 - R 1 1 + R 2 2) * (R 2 1 - R 1 2) = (R 1 0 - R 0 1) * (R 0 2 + R 2 0) := by
    linear_combination hE.col12 - hE.row12 - hE.cof12 + hE.cof21
  have hwy : (1 - R 0 0 - R 1 1 + R 2 2) * (R 0 2 - R 2 0) = (R 1 0 - R 0 1) * (R 1 2 + R 2 1) := by
    linear_combination hE.row02 - hE.col02 + hE.cof02 - hE.cof20
  have hxy : (1 - R 0 0 - R 1 1 + R 2 2) * (R 0 1 + R 1 0) = (R 0 2 + R 2 0) * (R 1 2 + R 2 1) := by
    linear_combination hE.cof01 + hE.cof10 - hE.row01 - hE.col01
  exact
    { ww := four_mul_div_div hs hs0 (by linear_combination hE.minor_wz)
      xx := four_mul_div_div hs hs0 (by linear_combination hE.minor_xz)
      yy := four_mul_div_div hs hs0 (by linear_combination hE.minor_yz)
      zz := four_mul_quarter_sq hs, wx := four_mul_div_div hs hs0 hwx
      wy := four_mul_div_div hs hs0 hwy, wz := four_mul_quarter_right hs0
      xy := four_mul_div_div hs hs0 hxy, xz := four_mul_quarter_right hs0
      yz := four_mul_quarter_right hs0 }

/-- Twice the square root of a positive radicand `r`: its square is `4 r` and it is not zero. -/
theorem sqrt_mul_two {r d : ℝ} (hd : RotationScalar.sqrt r * 2.0 = d) (hr : 0 < r) :
    d * d = 4 * r ∧ d ≠ 0 := by
  have h1 := Real.mul_self_sqrt hr.le
  have h2 := Real.sqrt_pos.2 hr
  rw [← hd, RotationScalar.sqrt_real]
  norm_num
  exact ⟨by linear_combination 4 * h1, h2.ne'⟩

/-- Whichever branch Shepperd's rule takes on a proper rotation, its radicand is positive and the
quaternion it computes has the rotation's products. -/
theorem ofMatrix_shepperdOf (hR : R ∈ Matrix.specialOrthogonalGroup (Fin 3) ℝ) :
    (Quat.ofMatrix (natEntries R)).ShepperdOf R := by
  have hE := rotationEntries hR
  obtain ⟨⟨ha0, ha1⟩, ⟨he0, he1⟩, ⟨hi0, hi1⟩⟩ := hE.diag_bounds
  have h0 : Fin.ofNat 3 0 = 0 := rfl
  have h1 : Fin.ofNat 3 1 = 1 := rfl
  have h2 : Fin.ofNat 3 2 = 2 := rfl
  simp only [Quat.ofMatrix, natEntries, h0, h1, h2, Bool.and_eq_true, decide_eq_true_eq]
  -- in each branch `d` is twice the square root of the radicand the branch divides by
  generalize hd : RotationScalar.sqrt _ * (2.0 : ℝ) = d
  split_ifs with htr hax hey
  · have htr' : 0 < R 0 0 + R 1 1 + R 2 2 := htr
    obtain ⟨hs, hs0⟩ := sqrt_mul_two hd (by linarith)
    exact shepperdOf_pivotW hE (by linear_combination hs) hs0
  all_goals have htr' : R 0 0 + R 1 1 + R 2 2 ≤ 0 := le_of_not_gt htr
  · have hax' : R 1 1 < R 0 0 := hax.1
    generalize hd' : RotationScalar.sqrt _ * (2.0 : ℝ) = d'
    obtain ⟨hs, hs0⟩ := sqrt_mul_two hd' (by linarith)
    exact shepperdOf_pivotX hE hs hs0
  · have hey' : R 2 2 < R 1 1 := hey
    -- the first entry is not the largest, so the second is
    have hpos : 0 < 1 + R 1 1 - R 0 0 - R 2 2 := by
      by_cases h : R 1 1 < R 0 0
      · have h' : R 0 0 ≤ R 2 2 := le_of_not_gt fun h' => hax ⟨h, h'⟩
        linarith
      · linarith
    generalize hd' : RotationScalar.sqrt _ * (2.0 : ℝ) = d'
    obtain ⟨hs, hs0⟩ := sqrt_mul_two hd' hpos
    exact shepperdOf_pivotY hE (by linear_combination hs) hs0
  · have hey' : R 1 1 ≤ R 2 2 := le_of_not_gt hey
    -- neither the first nor the second entry is the largest: the radicand is positive unless
    -- all three entries are one, which the trace excludes
    have hpos : 0 < 1 + R 2 2 - R 0 0 - R 1 1 := by
      by_cases h : R 1 1 < R 0 0
      · have h' : R 0 0 ≤ R 2 2 := le_of_not_gt fun h' => hax ⟨h, h'⟩
        linarith
      · linarith
    generalize hd' : RotationScalar.sqrt _ * (2.0 : ℝ) = d'
    obtain ⟨hs, hs0⟩ := sqrt_mul_two hd' hpos
    exact shepperdOf_pivotZ hE (by linear_combination hs) hs0

/-- On a proper rotation, Shepperd's rule computes a unit quaternion that rotates by it. -/
theorem rotate_ofMatrix (hR : R ∈ Matrix.specialOrthogonalGroup (Fin 3) ℝ) :
    (Quat.ofMatrix (natEntries R)).HasUnitNorm ∧
      ∀ v, (Quat.ofMatrix (natEntries R)).rotate v = Vec3.transform R v := by
  have h := ofMatrix_shepperdOf hR
  refine ⟨h.hasUnitNorm, fun v => ?_⟩
  rw [Quat.rotate_eq_transform, h.matrix_eq]

end DepthBridge
