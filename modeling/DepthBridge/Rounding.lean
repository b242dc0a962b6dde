/-!
# Rounding binary floats to integers

The bridge turns floats into integers in two ways: to the nearest integer, a half away from
zero (stamps, depth thresholds), and toward zero (pixel positions and bytes). Either result is
then held to the range of the integer type, an infinity going to the end on its side.

Both are computed here from the float's bits, read as an exact value `±m · 2^q`, so that they
can be evaluated and reasoned about like any other integer arithmetic. A NaN has no value; each
caller says which integer it becomes. Rounding a single to a whole single is computed the same
way, and so is widening a single to a double.
-/

namespace DepthBridge
namespace Rounding

/-- What the bits of a binary float stand for. -/
inductive Exact where
  | nan
  | infinite (negative : Bool)
  | finite (negative : Bool) (m : Nat) (q : Int)
  deriving Repr, DecidableEq

/-- The value of the bits of a binary float with `fracBits` fraction bits and `expBits`
exponent bits: sign, biased exponent, fraction, with subnormals and the all-ones exponent
read as IEEE 754 reads them. -/
def decode (fracBits expBits bits : Nat) : Exact :=
  let negative := bits / Nat.pow 2 (fracBits + expBits) % 2 == 1
  let e := bits / Nat.pow 2 fracBits % Nat.pow 2 expBits
  let frac := bits % Nat.pow 2 fracBits
  let bias : Int := (Nat.pow 2 (expBits - 1) : Nat) - 1
  if e = Nat.pow 2 expBits - 1 then (if frac = 0 then .infinite negative else .nan)
  else if e = 0 then .finite negative frac (1 - bias - fracBits)
  else .finite negative (frac + Nat.pow 2 fracBits) (e - bias - fracBits)

/-- The exact value of a double. -/
def ofDouble (x : Float) : Exact := decode 52 11 x.toBits.toNat

/-- The exact value of a single. -/
def ofSingle (x : Float32) : Exact := decode 23 8 x.toBits.toNat

/-- The natural number nearest `m · 2^q`, a half going up. -/
def halfUp (m : Nat) (q : Int) : Nat :=
  if 0 ≤ q then m * Nat.pow 2 q.toNat else (m + Nat.pow 2 (-q).toNat / 2) / Nat.pow 2 (-q).toNat

/-- The whole part of `m · 2^q`. -/
def whole (m : Nat) (q : Int) : Nat :=
  if 0 ≤ q then m * Nat.pow 2 q.toNat else m / Nat.pow 2 (-q).toNat

/-- `n` with the sign, held to `[lo, hi]`. -/
def signedIn (lo hi : Int) (negative : Bool) (n : Nat) : Int :=
  max lo (min hi (if negative then -(n : Int) else n))

namespace Exact

/-- The integer nearest the value, a half away from zero, held to `[lo, hi]`; NaN gives
`ifNaN`. -/
def nearestIn (lo hi ifNaN : Int) : Exact → Int
  | .nan => ifNaN
  | .infinite negative => if negative then lo else hi
  | .finite negative m q => signedIn lo hi negative (halfUp m q)

/-- The value truncated toward zero, held to `[lo, hi]`; NaN gives `ifNaN`. -/
def truncIn (lo hi ifNaN : Int) : Exact → Int
  | .nan => ifNaN
  | .infinite negative => if negative then lo else hi
  | .finite negative m q => signedIn lo hi negative (whole m q)

end Exact

/-- A single rounded to a whole number, a half away from zero, as C's `roundf` does. A NaN, an
infinity and a value that is whole already come back as they are; a value under a half in size
becomes a zero of its sign. -/
def roundSingle (x : Float32) : Float32 :=
  match ofSingle x with
  | .finite negative m q =>
    if 0 ≤ q then x
    else
      let n := Float32.ofNat (halfUp m q)
      if negative then -n else n
  | _ => x

open Float.Model in
/-- A single as a double. Every single is a double, so nothing is rounded away: a finite value
is only brought to the double format's exponent, and zeros, infinities and NaN keep their kind
and sign. -/
def widen (x : Float32) : Float :=
  .ofModel <| .pack <|
    match x.toModel.unpack with
    | .finite s m e _ => UnpackedFloat.round .binary64 s m e
    | u => u

end Rounding
end DepthBridge
