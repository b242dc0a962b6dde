import Mathlib
import DepthBridge.Sync.Clock
import DepthBridge.Proofs.PackedFloat

/-!
# Bus time from device time

Once the first frame has fixed the clock reference `(bus, t₀)`, a device time `t` maps to the
reference stamp moved by `(t - t₀) · 10⁶` nanoseconds, and an elapsed offset `e` to the reference
stamp moved by `e`. The offset is rounded to the nearest integer, a half away from zero, and
held to the 64-bit range (`roundToI64`, read off the logical model of doubles, so that NaN and
the infinities of corrupt timestamps are covered); it is then added to the reference nanoseconds
with overflow checked.

Main statements:
* `nearestI64_eq_roundToI64`: the bridge's rounding of a double computes exactly that integer;
* `ClockBase.busTime_of_reference`: with a reference, neither conversion reads the clock, and
  each gives the reference plus the rounded offset when that sum is a 64-bit integer, and halts
  with an addition overflow when it is not;
* `ClockBase.busTimeFromElapsed_overflows`: a reference taken near the end of the 64-bit range
  and a microsecond of elapsed device time overflow.
-/

namespace DepthBridge

open Float.Model UnpackedFloat

/-! ## Rounding a double to a 64-bit integer -/

/-- The integer nearest a rational number, a half going away from zero. -/
def roundHalfAway (v : ℚ) : ℤ := if v < 0 then -⌊-v + 1 / 2⌋ else ⌊v + 1 / 2⌋

/-- A double rounded to the nearest integer, a half away from zero, and converted to a 64-bit
signed integer: values beyond the range and the infinities go to the end on their side, NaN to
zero. A finite double of the logical model is a sign, a mantissa `m` and an exponent `e`, and
stands for `±m · 2^e`. -/
def roundToI64 (x : Float) : ℤ :=
  match x.toModel.unpack with
  | .notANumber => 0
  | .infinity .negative => Checked.i64Min
  | .infinity .positive => Checked.i64Max
  | .zero _ => 0
  | .finite s m e _ =>
    max Checked.i64Min (min Checked.i64Max (roundHalfAway ((s.apply m : ℚ) * 2 ^ e)))

namespace Rounding

/-- Rounding half up in whole numbers is the floor of the value plus a half. -/
theorem halfUp_eq_floor (m : Nat) (q : Int) :
    (halfUp m q : ℤ) = ⌊(m : ℚ) * 2 ^ q + 1 / 2⌋ := by
  unfold halfUp
  split
  next hq =>
    -- a whole number plus a half
    obtain ⟨k, rfl⟩ := Int.eq_ofNat_of_zero_le hq
    have hhalf : ⌊(1 / 2 : ℚ)⌋ = 0 := by norm_num [Int.floor_eq_zero_iff]
    rw [show (m : ℚ) * 2 ^ (k : ℤ) = ((m * Nat.pow 2 k : ℕ) : ℚ) by push_cast; simp,
      Int.floor_natCast_add, hhalf, add_zero]
    simp
  next hq =>
    -- `m / 2^k + 1/2` is `(m + 2^(k-1)) / 2^k`, whose floor is a whole division
    obtain ⟨k, hk⟩ : ∃ k : ℕ, q = -((k + 1 : ℕ) : ℤ) := ⟨(-q - 1).toNat, by omega⟩
    subst hk
    have htoNat : (-(-((k + 1 : ℕ) : ℤ))).toNat = k + 1 := by omega
    rw [htoNat]
    simp only [Nat.pow_eq]
    have hpow : 2 ^ (k + 1) / 2 = 2 ^ k := by
      rw [Nat.pow_succ, Nat.mul_div_cancel _ (by decide)]
    have hval : (m : ℚ) * 2 ^ (-((k + 1 : ℕ) : ℤ)) + 1 / 2 =
        ((m + 2 ^ k : ℕ) : ℚ) / ((2 ^ (k + 1) : ℕ) : ℚ) := by
      rw [zpow_neg, zpow_natCast]
      push_cast
      field_simp
      ring
    rw [hpow, hval, Rat.floor_natCast_div_natCast]
    push_cast
    rfl

/-- A whole number `n` with a sign, held to `[lo, hi]`, is the rounded signed value held there,
when `n` is the value rounded half up. -/
theorem signedIn_halfUp (lo hi : ℤ) (s : Sign) (m : ℕ) (q : ℤ) :
    signedIn lo hi (s == .negative) (halfUp m q) =
      max lo (min hi (roundHalfAway ((s.apply m : ℚ) * 2 ^ q))) := by
  have hnonneg : 0 ≤ (m : ℚ) * 2 ^ q := by positivity
  unfold signedIn roundHalfAway
  cases s with
  | positive =>
    simp only [Sign.apply, show (Sign.positive == .negative) = false from rfl,
      Bool.false_eq_true, if_false, Int.cast_natCast, not_lt.2 hnonneg, halfUp_eq_floor]
  | negative =>
    simp only [Sign.apply, show (Sign.negative == .negative) = true from rfl, if_true,
      Int.cast_neg, Int.cast_natCast, neg_mul, halfUp_eq_floor, neg_neg]
    split
    · rfl
    · -- a value that is not below zero is zero, whose rounding is zero either way
      have hzero : (m : ℚ) * 2 ^ q = 0 := le_antisymm (by linarith) hnonneg
      rw [hzero]
      norm_num [Int.floor_eq_zero_iff]

end Rounding

/-! ## The fields of a double -/

theorem toNat_unpackExponent (b : BitVec 64) :
    (@unpackExponent Format.binary64 b).toNat = b.toNat / 2 ^ 52 % 2 ^ 11 := by
  simp only [unpackExponent, BitVec.toNat_cast, BitVec.extractLsb_toNat, Nat.shiftRight_eq_div_pow]

theorem toNat_unpackMantissa (b : BitVec 64) :
    (@unpackMantissa Format.binary64 b).toNat = b.toNat % 2 ^ 52 := by
  simp [unpackMantissa, BitVec.extractLsb_toNat, Nat.shiftRight_eq_div_pow]

theorem sign_unpackSign (b : BitVec 64) :
    (Sign.ofBitVec (@unpackSign Format.binary64 b) == .negative) = (b.toNat / 2 ^ 63 % 2 == 1) := by
  have hsign : (@unpackSign Format.binary64 b).toNat = b.toNat / 2 ^ 63 % 2 := by
    simp only [unpackSign, BitVec.toNat_cast, BitVec.extractLsb_toNat, Nat.shiftRight_eq_div_pow]
  unfold Sign.ofBitVec
  split
  next h => simp [h] at hsign; simp [← hsign]
  next h =>
    have : (@unpackSign Format.binary64 b).toNat ≠ 0 := fun h0 => h (BitVec.eq_of_toNat_eq h0)
    have hlt := (@unpackSign Format.binary64 b).isLt
    have h1 : b.toNat / 2 ^ 63 % 2 = 1 := by omega
    rw [h1]; rfl

/-- The bridge's rounding of a double, computed from its bits, is the nearest integer to the
double's value, a half away from zero, held to the 64-bit range. -/
theorem nearestI64_eq_roundToI64 (x : Float) : Checked.nearestI64 x = roundToI64 x := by
  have hbits : x.toBits.toNat = x.toModel.toBits.toBitVec.toNat := rfl
  unfold Checked.nearestI64 Rounding.ofDouble roundToI64 Float.Model.unpack
  rw [hbits]
  generalize x.toModel.toBits.toBitVec = b
  unfold UnpackedFloat.unpack Rounding.decode
  dsimp only
  -- both sides now read the same three fields; split as the model does
  simp only [Nat.pow_eq, Nat.reduceAdd, ← toNat_unpackExponent, ← toNat_unpackMantissa,
    ← sign_unpackSign]
  generalize Sign.ofBitVec (@unpackSign Format.binary64 b) = S
  by_cases hE : @unpackExponent Format.binary64 b = -1#11
  · have hE' : (@unpackExponent Format.binary64 b).toNat = 2 ^ 11 - 1 := by rw [hE]; rfl
    rw [if_pos hE', if_pos hE]
    by_cases hM : @unpackMantissa Format.binary64 b = 0#52
    · -- an infinity
      have hM' : (@unpackMantissa Format.binary64 b).toNat = 0 := by rw [hM]; rfl
      rw [if_pos hM', if_pos hM]
      cases S <;> rfl
    · -- NaN
      have hM' : (@unpackMantissa Format.binary64 b).toNat ≠ 0 :=
        fun h => hM (BitVec.eq_of_toNat_eq h)
      rw [if_neg hM', if_neg hM]
      rfl
  · have hE' : (@unpackExponent Format.binary64 b).toNat ≠ 2 ^ 11 - 1 :=
      fun h => hE (BitVec.eq_of_toNat_eq h)
    rw [if_neg hE', if_neg hE]
    by_cases hE0 : @unpackExponent Format.binary64 b = 0#11
    · have hE0' : (@unpackExponent Format.binary64 b).toNat = 0 := by rw [hE0]; rfl
      rw [if_pos hE0', if_pos hE0]
      by_cases hM : @unpackMantissa Format.binary64 b = 0#52
      · -- a zero, which the bridge reads as a subnormal with no mantissa
        have hM' : (@unpackMantissa Format.binary64 b).toNat = 0 := by rw [hM]; rfl
        rw [dif_pos hM, hM']
        refine (Rounding.signedIn_halfUp _ _ S _ _).trans ?_
        cases S <;> norm_num [Sign.apply, roundHalfAway, Int.floor_eq_zero_iff, Checked.i64Min,
          Checked.i64Max]
      · -- a subnormal
        rw [dif_neg hM]
        refine (Rounding.signedIn_halfUp _ _ S _ _).trans ?_
        simp only [hE0', Format.exponentBias]
        norm_num
    · have hE0' : (@unpackExponent Format.binary64 b).toNat ≠ 0 :=
        fun h => hE0 (BitVec.eq_of_toNat_eq h)
      rw [if_neg hE0', if_neg hE0]
      -- a normal double carries the hidden leading bit
      have hm : (1#1 ++ @unpackMantissa Format.binary64 b).toNat =
          (@unpackMantissa Format.binary64 b).toNat + 2 ^ 52 := by
        rw [PackedFloat.toNat_append]
        simp [Nat.add_comm]
      refine (Rounding.signedIn_halfUp _ _ S _ _).trans ?_
      dsimp only
      rw [hm]
      simp only [Format.exponentBias]
      norm_num [sub_sub]

/-! ## Moving a stamp -/

theorem Checked.addI64_eq (a b : ℤ) :
    Checked.addI64 a b =
      if Checked.i64Min ≤ a + b ∧ a + b ≤ Checked.i64Max then .ok (a + b)
      else .error .addOverflow := by
  unfold Checked.addI64
  by_cases hlo : a + b < Checked.i64Min <;> by_cases hhi : a + b > Checked.i64Max <;>
    simp [hlo, hhi]

namespace Stamp

/-- The stamp moved by `δ` nanoseconds, as the integers have it: the stamp at the sum when the
sum is a 64-bit integer, an addition overflow when it is not. -/
def shift (s : Stamp) (δ : Float) : Except Halt Stamp :=
  let n := s.nanos + roundToI64 δ
  if Checked.i64Min ≤ n ∧ n ≤ Checked.i64Max then .ok ⟨n⟩ else .error .addOverflow

theorem offset_eq_shift (s : Stamp) (δ : Float) : s.offset δ = s.shift δ := by
  unfold offset shift
  rw [nearestI64_eq_roundToI64, Checked.addI64_eq]
  dsimp only
  split_ifs <;> rfl

end Stamp

/-! ## Bus time from a reference -/

/-- A computation lifted into `Timed` leaves the clock as it is. -/
theorem Timed.run_monadLift {α : Type} (x : Except Halt α) (c : Clock) :
    (monadLift x : Timed α).run c = x.map fun a => (a, c) := by
  cases x <;> rfl

/-- Moving a stamp inside `Timed` reads no clock. -/
theorem Stamp.run_offset (s : Stamp) (δ : Float) (c : Clock) :
    (monadLift (s.offset δ) : Timed Stamp).run c = (s.shift δ).map fun s => (s, c) := by
  rw [Timed.run_monadLift, Stamp.offset_eq_shift]

namespace ClockBase

variable {b : ClockBase} {r : ClockReference}

theorem toBusTime_run (hr : b.reference = some r) (t : Float) (c : Clock) :
    (b.toBusTime t).run c = (r.bus.shift ((t - r.deviceMs) * 1e6)).map fun s => (s, c) := by
  unfold toBusTime
  rw [hr]
  exact Stamp.run_offset _ _ c

theorem busTimeFromElapsed_run (hr : b.reference = some r) (e : Float) (c : Clock) :
    (b.busTimeFromElapsed e).run c = (r.bus.shift e).map fun s => (s, c) := by
  unfold busTimeFromElapsed
  rw [hr]
  exact Stamp.run_offset _ _ c

/-- Once the reference `(bus, t₀)` is fixed, neither conversion reads the clock: device time `t`
becomes `bus` moved by `(t - t₀) · 10⁶` nanoseconds and an elapsed `e` becomes `bus` moved by
`e`, each offset rounded and held to the 64-bit range, when the sum is a 64-bit integer; when it
is not, the conversion halts with an addition overflow. -/
theorem busTime_of_reference (hr : b.reference = some r) (c : Clock) (t e : Float) :
    (b.toBusTime t).run c = (r.bus.shift ((t - r.deviceMs) * 1e6)).map (fun s => (s, c)) ∧
      (b.busTimeFromElapsed e).run c = (r.bus.shift e).map fun s => (s, c) :=
  ⟨toBusTime_run hr t c, busTimeFromElapsed_run hr e c⟩

/-- A base whose reference was read near the end of the 64-bit range. -/
def nearEndOfRange : ClockBase := { reference := some ⟨⟨9223372036854775000⟩, 0⟩ }

theorem busTime_of_reference_nearEndOfRange :
    nearEndOfRange.reference = some ⟨⟨9223372036854775000⟩, 0⟩ ∧
      (nearEndOfRange.toBusTime 0.001).run { start := 0, step := 0 } =
          ((⟨9223372036854775000⟩ : Stamp).shift ((0.001 - 0) * 1e6)).map
            (fun s => (s, { start := 0, step := 0 })) ∧
        (nearEndOfRange.busTimeFromElapsed 1000).run { start := 0, step := 0 } =
          ((⟨9223372036854775000⟩ : Stamp).shift 1000).map
            fun s => (s, { start := 0, step := 0 }) :=
  ⟨rfl, busTime_of_reference rfl { start := 0, step := 0 } 0.001 1000⟩

/-- A microsecond of device time after a reference read 807 ns before the end of the 64-bit
range overflows. -/
theorem busTimeFromElapsed_overflows :
    (nearEndOfRange.busTimeFromElapsed 1000).run { start := 0, step := 0 } =
      .error .addOverflow := by
  rfl

end ClockBase

end DepthBridge
