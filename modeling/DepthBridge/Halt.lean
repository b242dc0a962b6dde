import DepthBridge.Rounding

/-!
# Halting

Some operations of the bridge have no answer for some inputs: an arithmetic overflow, a
division by zero, an index past the end of a buffer, a duration that cannot be represented.
The bridge then stops the operation in progress; `Halt` is that outcome, with the text that
explains it.
-/

namespace DepthBridge

/-- An operation stopped without an answer, and why. -/
structure Halt where
  message : String
  deriving Repr, Inhabited, DecidableEq

namespace Halt

/-- An addition whose result does not fit its type. -/
def addOverflow : Halt := ⟨"attempt to add with overflow"⟩

/-- A subtraction whose result does not fit its type. -/
def subOverflow : Halt := ⟨"attempt to subtract with overflow"⟩

/-- A multiplication whose result does not fit its type. -/
def mulOverflow : Halt := ⟨"attempt to multiply with overflow"⟩

/-- A division by zero. -/
def divByZero : Halt := ⟨"attempt to divide by zero"⟩

/-- A remainder by zero. -/
def remByZero : Halt := ⟨"attempt to calculate the remainder with a divisor of zero"⟩

/-- An element index past the end. -/
def indexOut (len index : Nat) : Halt :=
  ⟨s!"index out of bounds: the len is {len} but the index is {index}"⟩

/-- A range that starts past the end. -/
def rangeStartOut (start len : Nat) : Halt :=
  ⟨s!"range start index {start} out of range for slice of length {len}"⟩

/-- A range that ends past the end. -/
def rangeEndOut (stop len : Nat) : Halt :=
  ⟨s!"range end index {stop} out of range for slice of length {len}"⟩

/-- An allocation of more bytes than a buffer can have, refused and unwrapped. -/
def capacityOverflow : Halt :=
  ⟨"called `Result::unwrap()` on an `Err` value: TryReserveError \x7b kind: CapacityOverflow \x7d"⟩

end Halt

/-! ## Checked fixed-width arithmetic

Bounds and checked arithmetic on the fixed-width integers the bridge counts with. -/

namespace Checked

/-- The least and greatest 64-bit signed integers. -/
def i64Min : Int := -(Nat.pow 2 63)
def i64Max : Int := Nat.pow 2 63 - 1

/-- The greatest 32-bit and 64-bit unsigned integers. -/
def u32Max : Nat := Nat.pow 2 32 - 1
def u64Max : Nat := Nat.pow 2 64 - 1

/-- The most bytes one allocation can have, the greatest 64-bit signed integer. -/
def isizeMax : Nat := Nat.pow 2 63 - 1

/-- A 64-bit signed sum, or a halt when it does not fit. -/
def addI64 (a b : Int) : Except Halt Int :=
  let s := a + b
  if s < i64Min || s > i64Max then .error .addOverflow else .ok s

/-- A 64-bit signed difference, or a halt when it does not fit. -/
def subI64 (a b : Int) : Except Halt Int :=
  let s := a - b
  if s < i64Min || s > i64Max then .error .subOverflow else .ok s

/-- A 32-bit unsigned product, or a halt when it does not fit. -/
def mulU32 (a b : Nat) : Except Halt Nat :=
  if a * b > u32Max then .error .mulOverflow else .ok (a * b)

/-- A 32-bit unsigned sum, or a halt when it does not fit. -/
def addU32 (a b : Nat) : Except Halt Nat :=
  if a + b > u32Max then .error .addOverflow else .ok (a + b)

/-- A 64-bit unsigned sum, or a halt when it does not fit. -/
def addU64 (a b : Nat) : Except Halt Nat :=
  if a + b > u64Max then .error .addOverflow else .ok (a + b)

/-- The 64-bit signed integer with the low 64 bits of `n`. -/
def wrapI64 (n : Int) : Int :=
  let m := n % (Nat.pow 2 64)
  if m ≥ Nat.pow 2 63 then m - Nat.pow 2 64 else m

/-- A double rounded to the nearest integer, a half away from zero, and held to the 64-bit
signed range; NaN becomes zero. -/
def nearestI64 (x : Float) : Int := (Rounding.ofDouble x).nearestIn i64Min i64Max 0

/-- A double rounded toward zero to an unsigned integer below `2^bits`, saturating; NaN and
negative values become zero. -/
def floatToUnsigned (bits : Nat) (x : Float) : Nat :=
  ((Rounding.ofDouble x).truncIn 0 (Nat.pow 2 bits - 1) 0).toNat

end Checked

end DepthBridge
