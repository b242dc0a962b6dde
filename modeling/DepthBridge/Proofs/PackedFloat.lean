import Mathlib
/-!
# Packing what was unpacked

The logical model of floats reads a bit pattern of a format as a sign, an exponent field and a
mantissa field (`UnpackedFloat.unpack`) and writes such a value back (`UnpackedFloat.pack`). For
every format with at least two exponent bits the two are inverse on the bit patterns the model
calls valid, those that write NaN the one canonical way:

* `pack_unpack_bits`: unpacking valid bits and packing the result gives the same bits;
* `Float32.ofBits_toBits`: so reading the bits of a single gives back the same single, bit for
  bit, NaN included.

With a single exponent bit the subnormals would pack to infinities, so the hypothesis is needed.
-/

namespace DepthBridge
namespace PackedFloat

open Float.Model UnpackedFloat

theorem toNat_append {m n : Nat} (x : BitVec m) (y : BitVec n) :
    (x ++ y).toNat = x.toNat * 2 ^ n + y.toNat := by
  rw [BitVec.toNat_append, ← Nat.shiftLeft_add_eq_or_of_lt y.isLt x.toNat, Nat.shiftLeft_eq]

/-- The bits of a float are its sign, its exponent field and its mantissa field, in that order. -/
theorem eq_sign_exponent_mantissa {spec : Format} (b : BitVec spec.numBits) :
    b = unpackSign b ++ unpackExponent b ++ unpackMantissa b := by
  have hm := spec.hm
  have he := spec.he
  ext i hi
  simp only [unpackSign, unpackExponent, unpackMantissa, BitVec.getElem_append, BitVec.getElem_cast,
    BitVec.getElem_extract]
  -- bit `i` lies in exactly one of the three fields
  split
  · rw [Nat.zero_add]
    exact (BitVec.getLsbD_eq_getElem hi).symm
  · split
    · congr 1; omega
    · congr 1; omega

@[simp] theorem toBitVec_ofBitVec (v : BitVec 1) : (Sign.ofBitVec v).toBitVec = v := by
  revert v
  decide

/-- Unpacking valid bits and packing the result gives the same bits. -/
theorem pack_unpack_bits {spec : Format} (h2 : 2 ≤ spec.exponentBits) (b : BitVec spec.numBits)
    (hb : spec.Valid b) : UnpackedFloat.pack spec (UnpackedFloat.unpack spec b) = b := by
  have hb' := eq_sign_exponent_mantissa b
  have hwide : 2 ^ 2 ≤ 2 ^ spec.exponentBits := Nat.pow_le_pow_right Nat.two_pos h2
  unfold UnpackedFloat.unpack
  dsimp only
  split
  next he =>
    split
    next hm =>
      -- an infinity
      simp only [UnpackedFloat.pack, packedInfinity, packComponents, toBitVec_ofBitVec]
      rw [he, hm] at hb'
      exact hb'.symm
    next hm => exact (hb.eq_packedNaN he hm).symm
  next he =>
    split
    next he0 =>
      split
      next hm =>
        -- a zero
        simp only [UnpackedFloat.pack, packedZero, packComponents, toBitVec_ofBitVec]
        rw [he0, hm] at hb'
        exact hb'.symm
      next hm =>
        -- a subnormal: biased exponent one, the mantissa below its leading bit
        have hm0 : (unpackMantissa b).toNat ≠ 0 := fun h => hm (BitVec.eq_of_toNat_eq h)
        have hlog : (unpackMantissa b).toNat.log2 < spec.mantissaBitsWithoutImplicit :=
          (Nat.log2_lt hm0).2 (unpackMantissa b).isLt
        have hbiased : ((((unpackExponent b).toNat : ℤ) -
            (spec.exponentBias + spec.mantissaBitsWithoutImplicit) + 1) + spec.exponentBias +
              spec.mantissaBitsWithoutImplicit).toNat = 1 := by
          rw [he0, BitVec.toNat_zero]
          omega
        simp only [UnpackedFloat.pack, hbiased]
        rw [if_neg (by omega), if_neg (by unfold Format.mantissaBits; omega)]
        simp only [packComponents, toBitVec_ofBitVec, BitVec.ofNat_toNat, BitVec.setWidth_eq]
        rw [he0] at hb'
        exact hb'.symm
    next he0 =>
      -- a normal number: the exponent field as it is, the mantissa with its leading one
      have hE := (unpackExponent b).isLt
      have hlt : (unpackExponent b).toNat < 2 ^ spec.exponentBits - 1 := by
        have h1 : (unpackExponent b).toNat ≠ 2 ^ spec.exponentBits - 1 := fun h =>
          he (BitVec.eq_of_toNat_eq (by rw [h, BitVec.neg_one_eq_allOnes, BitVec.toNat_allOnes]))
        omega
      have hM := (unpackMantissa b).isLt
      have hmant : (1#1 ++ unpackMantissa b).toNat =
          2 ^ spec.mantissaBitsWithoutImplicit + (unpackMantissa b).toNat := by
        rw [toNat_append]
        simp
      have hlog : (1#1 ++ unpackMantissa b).toNat.log2 = spec.mantissaBitsWithoutImplicit := by
        rw [hmant, Nat.log2_eq_iff (by omega), Nat.pow_succ]
        omega
      have hbiased : ((((unpackExponent b).toNat : ℤ) -
          (spec.exponentBias + spec.mantissaBitsWithoutImplicit)) + spec.exponentBias +
            spec.mantissaBitsWithoutImplicit).toNat = (unpackExponent b).toNat := by
        omega
      simp only [UnpackedFloat.pack, hlog, hbiased]
      rw [if_neg (by omega), if_pos (by unfold Format.mantissaBits; omega)]
      simp only [packComponents, toBitVec_ofBitVec]
      conv => rhs; rw [hb']
      congr 1
      · congr 1
        apply BitVec.eq_of_toNat_eq
        rw [BitVec.toNat_ofNat]
        exact Nat.mod_eq_of_lt hE
      · apply BitVec.eq_of_toNat_eq
        rw [BitVec.toNat_ofNat, hmant, Nat.add_mod_left, Nat.mod_eq_of_lt hM]

end PackedFloat

/-- Reading the bits of a single gives back the same single. -/
theorem Float32.ofBits_toBits (x : Float32) : Float32.ofBits x.toBits = x := by
  obtain ⟨⟨bits, valid⟩⟩ := x
  show Float32.ofModel
    (Float32.Model.pack (Float.Model.UnpackedFloat.unpack .binary32 bits.toBitVec)) = _
  simp only [Float32.Model.pack, PackedFloat.pack_unpack_bits (by decide) _ valid,
    UInt32.ofBitVec_toBitVec]

end DepthBridge
