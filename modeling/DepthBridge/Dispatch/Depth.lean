import DepthBridge.Halt

/-!
# Depth passes

A 16-bit depth image is a sequence of little-endian values in device units of `depthScale`
meters. Clipping clears every value beyond a distance: the threshold is the distance in device
units, rounded and capped at the largest value, and a value above it becomes zero. Clipping is
off for a distance or scale that is not positive, and works row by row, as the rows may be
cleared in parallel. Rescaling converts the values to millimeters unless the device already
counts in them; a trailing odd byte is dropped then.

Arithmetic is in single precision, as the device reports its scale.
-/

namespace DepthBridge
namespace Depth

/-- One millimeter, in meters. -/
def millimeter : Float32 := 0.001

/-- A single converted to an unsigned integer of `bits` bits, saturating, NaN to zero. -/
def toUnsigned (bits : Nat) (x : Float32) : Nat :=
  ((Rounding.ofSingle x).truncIn 0 (Nat.pow 2 bits - 1) 0).toNat

/-- A distance in meters as a 16-bit depth value: rounded, capped at the largest value (which
a NaN quotient also gives), and zero when negative. -/
def units (meters depthScale : Float32) : Nat :=
  ((Rounding.ofSingle (meters / depthScale)).nearestIn 0 65535 65535).toNat

/-- The depth value beyond which a pixel is cleared. -/
def clipThreshold (clipDistance depthScale : Float32) : Nat := units clipDistance depthScale

/-- The value of the little-endian pair at byte `2 i`. -/
def valueAt (bytes : ByteArray) (i : Nat) : Nat :=
  (bytes.data.getD (2 * i) 0).toNat + 256 * (bytes.data.getD (2 * i + 1) 0).toNat

/-- The two little-endian bytes of a 16-bit value. -/
def pairOf (v : Nat) : List UInt8 := [(v % 256).toUInt8, (v / 256 % 256).toUInt8]

/-- The bytes in consecutive rows of `stride` bytes; the last row is shorter when `stride` does
not divide the length. -/
def rows (stride : Nat) (hs : 0 < stride) : List UInt8 → List (List UInt8)
  | [] => []
  | b :: rest => (b :: rest).take stride :: rows stride hs ((b :: rest).drop stride)
termination_by bytes => bytes.length
decreasing_by simp only [List.length_drop, List.length_cons]; omega

/-- One row with each whole little-endian pair above `t` cleared, left to right, and how many
were; an odd last byte is left as it is. -/
def clearRow (t : Nat) : List UInt8 → List UInt8 × Nat
  | b₀ :: b₁ :: rest =>
    let r := clearRow t rest
    if b₀.toNat + 256 * b₁.toNat > t then (0 :: 0 :: r.1, r.2 + 1) else (b₀ :: b₁ :: r.1, r.2)
  | rest => (rest, 0)

/-- The depth image with every value above the threshold cleared, and how many were. The image
is cut into rows of `width` pixels (at least one), each row is cleared on its own, and the counts
are summed. -/
def clip (data : ByteArray) (width : UInt32) (depthScale clipDistance : Float32) : ByteArray × Nat :=
  if clipDistance ≤ 0 || depthScale ≤ 0 then (data, 0)
  else
    let threshold := clipThreshold clipDistance depthScale
    let stride := max (2 * width.toNat) 2
    let cleared := (rows stride (Nat.lt_of_lt_of_le (by decide) (Nat.le_max_right _ _))
      data.data.toList).map (clearRow threshold)
    (⟨(cleared.flatMap (·.1)).toArray⟩, cleared.foldr (fun row n => row.2 + n) 0)

/-- Whether a depth scale is already one millimeter, to within a millionth of a meter. -/
def isMillimeter (depthScale : Float32) : Bool :=
  Float32.abs (depthScale - millimeter) < 1e-6

/-- The depth image in millimeters; `none` when it already is. -/
def toMillimeters (data : ByteArray) (depthScale : Float32) : Option ByteArray :=
  if isMillimeter depthScale then none
  else
    let factor := depthScale / millimeter
    let pairs := (List.range (data.size / 2)).map (valueAt data)
    some ⟨(pairs.flatMap fun v => pairOf (toUnsigned 16 (Float32.ofNat v * factor))).toArray⟩

/-- The depth image in millimeters, whether or not it had to change. -/
def fixScale (data : ByteArray) (depthScale : Float32) : ByteArray :=
  (toMillimeters data depthScale).getD data

end Depth
end DepthBridge
