import Mathlib
import DepthBridge.Proofs.PackedFloat
/-!
# Zeros in double arithmetic

A double has two zeros, and IEEE arithmetic treats them apart only where a sign is asked for. A
product of a finite double and a zero is a zero (`isZero_mul_zero`), a sum of two zeros is a
zero (`IsZero.add`), and adding a zero leaves every double that is not itself a zero as it is,
bit for bit (`add_eq_of_isZero`). Two zeros compare equal, and a double that is not NaN is equal
to itself (`beq_of_isZero`, `beq_self`).

These are read off the logical model of `Float` (`Float.Model`, through `UnpackedFloat`), once it
is known that packing the unpacked bits of a double gives back the same bits (`pack_unpack`).
-/

namespace DepthBridge
namespace Double

open Float.Model UnpackedFloat

/-! ## Packing what was unpacked -/

theorem pack_unpack (f : Float.Model) : Float.Model.pack f.unpack = f := by
  obtain ⟨bits, valid⟩ := f
  simp only [Float.Model.pack, Float.Model.unpack, PackedFloat.pack_unpack_bits (by decide) _ valid,
    UInt64.ofBitVec_toBitVec]

/-- A zero packed and unpacked is the same zero. -/
@[simp] theorem unpack_pack_zero (s : Sign) : (Float.Model.pack (.zero s)).unpack = .zero s := by
  cases s <;> rfl

/-- Bits whose exponent field is not all ones are no NaN. -/
theorem unpack_packComponents_ne_nan (s : Sign) {E : BitVec 11} (hE : E ≠ -1#11) (M : BitVec 52) :
    UnpackedFloat.unpack Format.binary64 (packComponents Format.binary64 s E M) ≠ .notANumber := by
  unfold UnpackedFloat.unpack
  simp only [unpackExponent_packComponents, unpackMantissa_packComponents]
  rw [if_neg hE]
  split
  · split <;> nofun
  · nofun

/-- A double that is not NaN packs to bits that do not unpack to NaN. -/
theorem unpack_pack_ne_nan {u : UnpackedFloat} (hu : u ≠ .notANumber) :
    (Float.Model.pack u).unpack ≠ .notANumber := by
  have hinf (s : Sign) : UnpackedFloat.unpack Format.binary64 (packedInfinity Format.binary64 s) ≠
      .notANumber := by
    cases s <;> nofun
  simp only [Float.Model.unpack, Float.Model.pack, UInt64.toBitVec_ofBitVec]
  cases u with
  | notANumber => exact absurd rfl hu
  | infinity s => exact hinf s
  | zero s => cases s <;> nofun
  | finite s m e hm =>
    simp only [UnpackedFloat.pack]
    split
    · exact hinf s
    split
    next hover _ =>
      -- a normal double: its biased exponent is below the all-ones field
      refine unpack_packComponents_ne_nan s (fun h => hover ?_) _
      have h' := congrArg BitVec.toNat h
      rw [BitVec.toNat_ofNat] at h'
      change _ % 2048 = 2047 at h'
      change 2048 ≤ _
      omega
    · exact unpack_packComponents_ne_nan s (by decide) _

/-! ## Zeros -/

/-- The double is one of the two zeros. -/
def IsZero (x : Float) : Prop := ∃ s, x.toModel.unpack = .zero s

theorem toModel_add (a b : Float) :
    (a + b).toModel = Float.Model.pack (UnpackedFloat.add .binary64 a.toModel.unpack b.toModel.unpack) :=
  rfl

theorem toModel_mul (a b : Float) :
    (a * b).toModel = Float.Model.pack (UnpackedFloat.mul .binary64 a.toModel.unpack b.toModel.unpack) :=
  rfl

theorem unpack_zero : (0 : Float).toModel.unpack = .zero .positive := by
  rfl

theorem isZero_zero : IsZero 0 := ⟨_, unpack_zero⟩

theorem isFinite_one : (1 : Float).isFinite = true := by
  rfl

/-- A finite double times a zero is a zero. -/
theorem isZero_mul_zero {a z : Float} (ha : a.isFinite = true) (hz : IsZero z) : IsZero (a * z) := by
  obtain ⟨s, hs⟩ := hz
  have ha' : a.toModel.unpack.isFinite = true := ha
  rw [IsZero, toModel_mul, hs]
  -- a finite double is a zero or a finite nonzero one; NaN and the infinities are out
  cases h : a.toModel.unpack with
  | zero s' => exact ⟨_, unpack_pack_zero _⟩
  | finite s' m e hm => exact ⟨_, unpack_pack_zero _⟩
  | notANumber => rw [h] at ha'; cases ha'
  | infinity s' => rw [h] at ha'; cases ha'

/-- A zero times a finite double is a zero. -/
theorem isZero_zero_mul {a z : Float} (ha : a.isFinite = true) (hz : IsZero z) : IsZero (z * a) := by
  obtain ⟨s, hs⟩ := hz
  have ha' : a.toModel.unpack.isFinite = true := ha
  rw [IsZero, toModel_mul, hs]
  cases h : a.toModel.unpack with
  | zero s' => exact ⟨_, unpack_pack_zero _⟩
  | finite s' m e hm => exact ⟨_, unpack_pack_zero _⟩
  | notANumber => rw [h] at ha'; cases ha'
  | infinity s' => rw [h] at ha'; cases ha'

/-- A sum of zeros is a zero. -/
theorem IsZero.add {x y : Float} (hx : IsZero x) (hy : IsZero y) : IsZero (x + y) := by
  obtain ⟨s, hs⟩ := hx
  obtain ⟨s', hs'⟩ := hy
  rw [IsZero, toModel_add, hs, hs']
  simp only [UnpackedFloat.add]
  split <;> exact ⟨_, unpack_pack_zero _⟩

/-- Adding a zero leaves a double that is not a zero as it is, bit for bit. -/
theorem add_eq_of_isZero {x z : Float} (hx : ¬ IsZero x) (hz : IsZero z) : x + z = x := by
  obtain ⟨s, hs⟩ := hz
  -- a NaN, an infinity or a finite nonzero double is what the sum unpacks to
  have hadd : UnpackedFloat.add .binary64 x.toModel.unpack (.zero s) = x.toModel.unpack := by
    cases h : x.toModel.unpack with
    | zero s' => exact absurd ⟨s', h⟩ hx
    | notANumber => rfl
    | infinity s' => rfl
    | finite s' m e hm => rfl
  cases x with
  | ofModel f =>
    change Float.ofModel (Float.Model.pack (UnpackedFloat.add .binary64 f.unpack z.toModel.unpack)) = _
    rw [hs, hadd]
    exact congrArg Float.ofModel (pack_unpack f)

/-- Two zeros compare equal. -/
theorem beq_of_isZero {x y : Float} (hx : IsZero x) (hy : IsZero y) : (x == y) = true := by
  obtain ⟨s, hs⟩ := hx
  obtain ⟨s', hs'⟩ := hy
  change (x.toModel.unpack.compare y.toModel.unpack == some .eq) = true
  rw [hs, hs']
  rfl

/-- A double that is not NaN compares equal to itself. -/
theorem beq_self {x : Float} (hx : x.isNaN = false) : (x == x) = true := by
  have hx' : x.toModel.unpack.isNaN = false := hx
  change (x.toModel.unpack.compare x.toModel.unpack == some .eq) = true
  cases h : x.toModel.unpack with
  | notANumber => rw [h] at hx'; cases hx'
  | infinity s => cases s <;> rfl
  | zero s => rfl
  | finite s m e hm =>
    have hself : (compare e e).then (compare m m) = .eq := by
      rw [Int.compare_eq_eq.2 rfl, Nat.compare_eq_eq.2 rfl]
      rfl
    cases s <;> simp [UnpackedFloat.compare]

/-- Rounding a finite value gives a zero or a finite double, never NaN. -/
theorem roundWithAccuracy_ne_nan (s : Sign) (m : Nat) (e : Int) (a : Accuracy) :
    roundWithAccuracy .binary64 s m e a ≠ .notANumber := by
  simp only [roundWithAccuracy]
  split <;> nofun

/-- A product of finite doubles is no NaN: it may overflow to an infinity, but no more. -/
theorem isNaN_mul {a b : Float} (ha : a.isFinite = true) (hb : b.isFinite = true) :
    (a * b).isNaN = false := by
  have ha' : a.toModel.unpack.isFinite = true := ha
  have hb' : b.toModel.unpack.isFinite = true := hb
  have hmul : UnpackedFloat.mul .binary64 a.toModel.unpack b.toModel.unpack ≠ .notANumber := by
    cases h : a.toModel.unpack with
    | notANumber => rw [h] at ha'; cases ha'
    | infinity s => rw [h] at ha'; cases ha'
    | zero s =>
      cases h' : b.toModel.unpack with
      | notANumber => rw [h'] at hb'; cases hb'
      | infinity s' => rw [h'] at hb'; cases hb'
      | zero s' => nofun
      | finite s' m' e' hm' => nofun
    | finite s m e hm =>
      cases h' : b.toModel.unpack with
      | notANumber => rw [h'] at hb'; cases hb'
      | infinity s' => rw [h'] at hb'; cases hb'
      | zero s' => nofun
      | finite s' m' e' hm' => exact roundWithAccuracy_ne_nan _ _ _ _
  change (Float.Model.pack (UnpackedFloat.mul .binary64 a.toModel.unpack b.toModel.unpack)).unpack.isNaN = false
  cases h : (Float.Model.pack (UnpackedFloat.mul .binary64 a.toModel.unpack b.toModel.unpack)).unpack with
  | notANumber => exact absurd h (unpack_pack_ne_nan hmul)
  | _ => rfl

end Double
end DepthBridge
