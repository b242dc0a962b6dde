import DepthBridge.Proofs.RealRotation

/-!
# The axis maps are rotations

The bridge re-expresses what the device reports in the body frame of the bus by four hand-written
maps, two for the pose tracker and two for the optical frames. Over the reals each pair is one
rotation:

* `poseToBody` is the proper rotation `poseMatrix`, `(x, y, z) ↦ (-z, -x, y)`, that is the
  rotation of `poseAxes`, the quaternion the bridge's conversion gives for that matrix, and
  `poseOrientationToBody` conjugates a unit orientation by `poseAxes`. So the pose and the
  twist the odometry reports are the tracker's, turned into bus axes
  (`rotate_poseOrientationToBody`).
* `opticalToBody` is the rotation of `opticalRotation`, so a transform built from device
  extrinsics `(R, t)` moves a point `p` to `C (R C⁻¹ p + t)` (`rotate_opticalToBodyRotation`).

`axis_maps_are_rotations` gathers both.
-/

namespace DepthBridge

namespace Axes

/-! ## The optical frame -/

/-- A half turn about `(1, -1, 1)`: `x` forward from `z`, `y` left from `-x`, `z` up from `-y`. -/
theorem opticalRotation_eq : (opticalRotation : Quat ℝ) = ⟨-(1 / 2), 1 / 2, -(1 / 2), 1 / 2⟩ := by
  have hquarter : -(Real.pi / 2) * (0.5 : ℝ) = -(Real.pi / 4) := by
    norm_num
    ring
  have hsqrt : Real.sqrt 2 / 2 * (Real.sqrt 2 / 2) = 1 / 2 := by
    rw [div_mul_div_comm, Real.mul_self_sqrt zero_le_two]
    norm_num
  simp only [opticalRotation, Quat.ofEuler, RotationScalar.halfPi_real, RotationScalar.sin_real,
    RotationScalar.cos_real]
  rw [hquarter]
  -- every component is a product of two of `±√2 / 2`
  ext <;> simp only [Real.sin_neg, Real.cos_neg, Real.sin_pi_div_four, Real.cos_pi_div_four,
    zero_mul, Real.sin_zero, Real.cos_zero]
  · linear_combination -hsqrt
  · linear_combination hsqrt
  · linear_combination -hsqrt
  · linear_combination hsqrt

theorem opticalRotation_hasUnitNorm : (opticalRotation : Quat ℝ).HasUnitNorm := by
  rw [opticalRotation_eq, Quat.HasUnitNorm, Quat.normSq]
  norm_num

/-- The optical translation is the optical rotation applied to it. -/
theorem opticalToBody_eq_rotate (t : Vec3 ℝ) : opticalToBody t = opticalRotation.rotate t := by
  rw [opticalRotation_eq, Quat.rotate_eq_transform, Vec3.transform_eq]
  ext <;> simp [opticalToBody, Quat.matrix] <;> ring

/-- The rigid motion published for device extrinsics `(R, t)`: the translation in body axes and
the rotation conjugated by the optical rotation `C`. It moves a point `p` of the body frame as the
device motion moves it in optical axes: `C (R (C⁻¹ p) + t)`. -/
theorem rotate_opticalToBodyRotation {R : Matrix (Fin 3) (Fin 3) ℝ}
    (hR : R ∈ Matrix.specialOrthogonalGroup (Fin 3) ℝ) (t p : Vec3 ℝ) :
    (opticalToBodyRotation (Quat.ofMatrix (natEntries R))).rotate p +
        opticalToBody t =
      opticalRotation.rotate (Vec3.transform R (opticalRotation.conj.rotate p) + t) := by
  obtain ⟨hQ, hQR⟩ := rotate_ofMatrix hR
  have hC := opticalRotation_hasUnitNorm
  rw [opticalToBodyRotation, Quat.rotate_mul (hC.mul hQ) hC.conj, Quat.rotate_mul hC hQ, hQR,
    opticalToBody_eq_rotate, Quat.rotate_add]

/-! ## The pose tracker's frame -/

/-- The tracker's axes in the body frame, row by row: `x` forward from `-z`, `y` left from `-x`,
`z` up from `y`. -/
def poseMatrix : Matrix (Fin 3) (Fin 3) ℝ := !![0, 0, -1; -1, 0, 0; 0, 1, 0]

theorem poseMatrix_mem : poseMatrix ∈ Matrix.specialOrthogonalGroup (Fin 3) ℝ := by
  rw [Matrix.mem_specialOrthogonalGroup_iff, Matrix.mem_orthogonalGroup_iff]
  refine ⟨?_, ?_⟩
  · ext i j
    fin_cases i <;> fin_cases j <;> simp [poseMatrix, Matrix.mul_apply, Fin.sum_univ_three]
  · simp [poseMatrix, Matrix.det_fin_three]

theorem poseToBody_eq_transform (v : Vec3 ℝ) : poseToBody v = Vec3.transform poseMatrix v := by
  rw [Vec3.transform_eq]
  ext <;> simp [poseToBody, poseMatrix]

/-- The quaternion the bridge's own conversion gives for `poseMatrix`. -/
noncomputable def poseAxes : Quat ℝ := Quat.ofMatrix (natEntries poseMatrix)

theorem poseAxes_hasUnitNorm : poseAxes.HasUnitNorm :=
  (rotate_ofMatrix poseMatrix_mem).1

theorem poseToBody_eq_rotate (v : Vec3 ℝ) : poseToBody v = poseAxes.rotate v := by
  rw [poseToBody_eq_transform, poseAxes, (rotate_ofMatrix poseMatrix_mem).2]

/-- `poseMatrix` has trace zero and no diagonal entry above the others, so the conversion takes
its last branch, where `d = 2`. -/
theorem poseAxes_eq : poseAxes = ⟨-(1 / 2), 1 / 2, 1 / 2, -(1 / 2)⟩ := by
  have h0 : Fin.ofNat 3 0 = 0 := rfl
  have h1 : Fin.ofNat 3 1 = 1 := rfl
  have h2 : Fin.ofNat 3 2 = 2 := rfl
  simp only [poseAxes, Quat.ofMatrix, natEntries, h0, h1, h2]
  simp only [poseMatrix, Matrix.of_apply, Matrix.cons_val', Matrix.cons_val_zero,
    Matrix.cons_val_one, Matrix.cons_val, Matrix.cons_val_fin_one, Fin.isValue]
  -- every guard compares zeros, and `d = √1 · 2`
  norm_num

/-- Conjugating by `poseAxes` turns the vector part of a quaternion by `poseMatrix` and keeps its
scalar part. -/
theorem conj_poseAxes (q : Quat ℝ) :
    (poseAxes.mul q).mul poseAxes.conj = ⟨-q.z, -q.x, q.y, q.w⟩ := by
  rw [poseAxes_eq]
  ext <;> simp only [Quat.mul, Quat.conj] <;> ring

/-- Normalizing a unit orientation changes nothing. -/
theorem poseOrientationToBody_of_unit {q : Quat ℝ} (hq : q.HasUnitNorm) :
    poseOrientationToBody q = ⟨-q.z, -q.x, q.y, q.w⟩ := by
  have hn : (⟨-q.z, -q.x, q.y, q.w⟩ : Quat ℝ).norm = 1 := by
    rw [Quat.norm, RotationScalar.sqrt_real, Real.sqrt_eq_one]
    unfold Quat.HasUnitNorm Quat.normSq at hq
    linear_combination hq
  simp only [poseOrientationToBody, Quat.normalize, hn]
  ext <;> simp

theorem poseOrientationToBody_conj {q : Quat ℝ} (hq : q.HasUnitNorm) :
    poseOrientationToBody q.conj = (poseOrientationToBody q).conj := by
  rw [poseOrientationToBody_of_unit hq.conj, poseOrientationToBody_of_unit hq]
  ext <;> simp [Quat.conj]

/-- The tracker's orientation in body axes rotates a body vector as the tracker's orientation
rotates the same vector in tracker axes. -/
theorem rotate_poseOrientationToBody {q : Quat ℝ} (hq : q.HasUnitNorm) (v : Vec3 ℝ) :
    (poseOrientationToBody q).rotate (poseToBody v) = poseToBody (q.rotate v) := by
  have hm := poseAxes_hasUnitNorm
  rw [poseOrientationToBody_of_unit hq, ← conj_poseAxes, poseToBody_eq_rotate,
    poseToBody_eq_rotate, Quat.rotate_mul (hm.mul hq) hm.conj, Quat.rotate_conj_rotate hm,
    Quat.rotate_mul hm hq]

/-! ## Both pairs -/

/-- Both pairs of axis maps are rotations. The tracker's vector map is the proper rotation
`poseMatrix`, whose quaternion `poseAxes` conjugates the tracker's orientation: the published pose
carries a vector as the tracker's pose carries it, and the twist, a velocity turned back by the
published orientation, is the tracker's own turned into bus axes. The optical translation is
turned by `opticalRotation`, and the rigid motion built from device extrinsics `(R, t)` is the
device's motion between optical frames, seen in body axes. -/
theorem axis_maps_are_rotations :
    (poseMatrix ∈ Matrix.specialOrthogonalGroup (Fin 3) ℝ ∧ poseAxes.HasUnitNorm ∧
      (∀ v : Vec3 ℝ, poseToBody v = Vec3.transform poseMatrix v) ∧
      (∀ v : Vec3 ℝ, poseToBody v = poseAxes.rotate v) ∧
      ∀ q : Quat ℝ, q.HasUnitNorm →
        poseOrientationToBody q = (poseAxes.mul q).mul poseAxes.conj ∧
        ∀ v, (poseOrientationToBody q).rotate (poseToBody v) = poseToBody (q.rotate v) ∧
          (poseOrientationToBody q).conj.rotate (poseToBody v) = poseToBody (q.conj.rotate v)) ∧
    ((∀ t : Vec3 ℝ, opticalToBody t = opticalRotation.rotate t) ∧
      ∀ R ∈ Matrix.specialOrthogonalGroup (Fin 3) ℝ, ∀ t p : Vec3 ℝ,
        (opticalToBodyRotation
            (Quat.ofMatrix (natEntries R))).rotate p +
            opticalToBody t =
          opticalRotation.rotate (Vec3.transform R (opticalRotation.conj.rotate p) + t)) := by
  refine ⟨⟨poseMatrix_mem, poseAxes_hasUnitNorm, poseToBody_eq_transform, poseToBody_eq_rotate, ?_⟩,
    opticalToBody_eq_rotate, fun R hR => rotate_opticalToBodyRotation hR⟩
  intro q hq
  refine ⟨by rw [poseOrientationToBody_of_unit hq, conj_poseAxes], fun v => ⟨?_, ?_⟩⟩
  · exact rotate_poseOrientationToBody hq v
  -- the twist turns by the inverse orientation, which is the map of the inverse
  · rw [← poseOrientationToBody_conj hq, rotate_poseOrientationToBody hq.conj]

end Axes

end DepthBridge
