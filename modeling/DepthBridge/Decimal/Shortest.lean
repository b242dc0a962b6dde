/-!
# Shortest decimal digits of a binary float

A finite binary float `m · 2^q` is read back from a decimal by rounding to the nearest
representable value, ties to even. The set of reals that read back to it is therefore an
interval around it, whose ends belong to it exactly when `m` is even.

`Decimal.shortest` returns the decimal with the fewest significant digits inside that interval;
of two such decimals on the same grid it takes the nearer, and an exact tie goes to the one
with the even last digit. Everything is exact `Nat` arithmetic: for `k = 1, 2, …` digits the
value's two neighbours on the grid of `k` significant digits are tested, and the first grid
with a hit wins.

The same code serves both widths, through `Decimal.Format`.
-/

namespace DepthBridge
namespace Decimal

/-- A binary interchange format, by the widths of its fraction and exponent fields. -/
structure Format where
  fracBits : Nat
  expBits : Nat
  deriving Repr, DecidableEq

namespace Format

/-- Binary64. -/
def double : Format := ⟨52, 11⟩

/-- Binary32. -/
def single : Format := ⟨23, 8⟩

/-- The exponent bias. -/
def bias (f : Format) : Nat := Nat.pow 2 (f.expBits - 1) - 1

/-- The largest number of significant decimal digits that the shortest form can need. -/
def maxDigits (f : Format) : Nat := if f.fracBits ≤ 23 then 9 else 17

end Format

/-- A float taken apart: its class, sign and, when finite, `m · 2^q`. -/
inductive Parts where
  | nan
  | infinite (negative : Bool)
  | finite (negative : Bool) (m : Nat) (q : Int) (lowerCloser : Bool)
  deriving Repr, DecidableEq

/-- Splits the bit pattern `bits` of format `f`. `lowerCloser` says that the value is the least
of its binade, so that the gap below it is half the gap above it. -/
def Parts.ofBits (f : Format) (bits : Nat) : Parts :=
  let frac := bits % Nat.pow 2 f.fracBits
  let expField := (bits / Nat.pow 2 f.fracBits) % Nat.pow 2 f.expBits
  let negative := (bits / Nat.pow 2 (f.fracBits + f.expBits)) % 2 == 1
  if expField = Nat.pow 2 f.expBits - 1 then
    if frac = 0 then .infinite negative else .nan
  else if expField = 0 then
    .finite negative frac (1 - (f.bias : Int) - f.fracBits) false
  else
    .finite negative (frac + Nat.pow 2 f.fracBits) ((expField : Int) - f.bias - f.fracBits)
      (frac = 0 && expField > 1)

/-- `c · 10^e` as a pair of naturals to compare with `x · 2^p`: both sides multiplied by
`10^(-e) · 2^(-p)` where those exponents are positive. -/
def scaledPair (c : Nat) (e : Int) (x : Nat) (p : Int) : Nat × Nat :=
  let a := (-e).toNat
  let b := (-p).toNat
  (c * Nat.pow 10 e.toNat * Nat.pow 2 b, x * Nat.pow 2 p.toNat * Nat.pow 10 a)

/-- Whether `c · 10^e ≤ x · 2^p`. -/
def decLe (c : Nat) (e : Int) (x : Nat) (p : Int) : Bool :=
  let s := scaledPair c e x p
  s.1 ≤ s.2

/-- Whether `c · 10^e < x · 2^p`. -/
def decLt (c : Nat) (e : Int) (x : Nat) (p : Int) : Bool :=
  let s := scaledPair c e x p
  s.1 < s.2

/-- The number of decimal digits of `n` (one for zero). -/
def digitCount (n : Nat) : Nat := (Nat.toDigits 10 n).length

/-- `⌊log₁₀ (x · 2^p)⌋` for `x > 0`. -/
def decimalExponent (x : Nat) (p : Int) : Int :=
  if p ≥ 0 then
    (digitCount (x * Nat.pow 2 p.toNat) : Int) - 1
  else
    let den := Nat.pow 2 (-p).toNat
    if x ≥ den then (digitCount (x / den) : Int) - 1
    else
      -- the least `j` with `x · 10^j ≥ den`
      let c := (den + x - 1) / x
      let j := if c ≤ 1 then 0 else digitCount (c - 1)
      Int.neg j

/-- `⌊x · 2^p / 10^e⌋`. -/
def floorOnGrid (x : Nat) (p : Int) (e : Int) : Nat :=
  let s := scaledPair 1 e x p
  s.2 / s.1

/-- Removes trailing zeros: `c · 10^e` as a digit string without them. -/
def trimZeros (c : Nat) (e : Int) : Nat × Int :=
  go c e (digitCount c)
where
  go (c : Nat) (e : Int) : Nat → Nat × Int
    | 0 => (c, e)
    | fuel + 1 => if c ≠ 0 ∧ c % 10 = 0 then go (c / 10) (e + 1) fuel else (c, e)

/-- Whether the candidate `c · 10^e` lies in the read-back interval of `m · 2^q`, which reaches
`gapLow` quarter units of `2^q` below the value and two above it; its ends count when `closed`. -/
def inInterval (m : Nat) (q : Int) (gapLow : Nat) (closed : Bool) (c : Nat) (e : Int) : Bool :=
  let p := q - 2
  let lo := 4 * m - gapLow
  let hi := 4 * m + 2
  let aboveLo := if closed then !(decLt c e lo p) else !(decLe c e lo p)
  let belowHi := if closed then decLe c e hi p else decLt c e hi p
  aboveLo && belowHi

/-- The two candidates of grid `e` around the value `m · 2^q`, nearer first, with `.eq` when the
value lies exactly halfway between them. -/
def neighbours (m : Nat) (q : Int) (e : Int) : Nat × Nat × Ordering :=
  let t := floorOnGrid m q e
  -- the midpoint of the two candidates is `(2t + 1) · 10^e / 2`; compare it with the value
  let midBelow := decLt (2 * t + 1) e (2 * m) q
  let midAtOrBelow := decLe (2 * t + 1) e (2 * m) q
  if midBelow then (t + 1, t, .gt)
  else if midAtOrBelow then (t, t + 1, .eq)
  else (t, t + 1, .lt)

/-- The shortest decimal `(digits, exponent)` of a finite nonzero `m · 2^q` whose read-back
interval reaches `gapLow` quarter units below it, searching at most `fuel` digit counts. -/
def shortestFinite (m : Nat) (q : Int) (gapLow : Nat) (fuel : Nat) : Nat × Int :=
  let closed := m % 2 == 0
  let d := decimalExponent m q
  let rec search : Nat → Nat → Nat × Int
    | 0, _ => trimZeros m 0
    | fuel + 1, k =>
      let e := d - k + 1
      let (first, second, order) := neighbours m q e
      let ok1 := inInterval m q gapLow closed first e
      let ok2 := inInterval m q gapLow closed second e
      match order with
      | .eq =>
        -- an exact tie between both neighbours: the even one, if both read back
        if ok1 && ok2 then trimZeros (if first % 2 = 0 then first else second) e
        else if ok1 then trimZeros first e
        else if ok2 then trimZeros second e
        else search fuel (k + 1)
      | _ =>
        if ok1 then trimZeros first e
        else if ok2 then trimZeros second e
        else search fuel (k + 1)
  search fuel 1

/-- The shortest decimal form of a float: `none` for NaN and infinities, else the sign, the
significant digits (zero for zero) and the power of ten of the last digit. -/
def shortest (f : Format) (bits : Nat) : Parts × Option (Bool × Nat × Int) :=
  let parts := Parts.ofBits f bits
  match parts with
  | .finite negative 0 _ _ => (parts, some (negative, 0, 0))
  | .finite negative m q lowerCloser =>
    let (c, e) := shortestFinite m q (if lowerCloser then 1 else 2) (f.maxDigits + 2)
    (parts, some (negative, c, e))
  | _ => (parts, none)

end Decimal
end DepthBridge
