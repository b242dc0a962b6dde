import DepthBridge.Halt

/-!
# Durations from seconds

A duration is a whole number of nanoseconds below `2^64` seconds. A float number of seconds
is rounded to the nearest nanosecond, a tie to the even one; a negative, infinite or NaN
value, or one of `2^64` seconds or more, has no duration.
-/

namespace DepthBridge
namespace Duration

/-- The halt of a value of seconds with no duration. -/
def tooBig : Halt := ⟨"cannot convert float seconds to Duration: value is either too big or NaN"⟩

/-- The halt of a negative value of seconds. -/
def negative : Halt := ⟨"cannot convert float seconds to Duration: value is negative"⟩

/-- The nanoseconds nearest to `secs` seconds, a tie to the even one. -/
def ofSecs (secs : Float) : Except Halt Nat :=
  if secs < 0 then .error negative
  else
    let bits := secs.toBits.toNat
    let expField : Nat := (bits / Nat.pow 2 52) % Nat.pow 2 11
    let frac : Nat := bits % Nat.pow 2 52
    if expField = 2047 then .error tooBig
    else
      -- the value is m · 2^q exactly
      let m := if expField = 0 then frac else frac + Nat.pow 2 52
      let q : Int := (if expField = 0 then (1 : Int) else (expField : Int)) - 1075
      if q ≥ 0 then
        let s := m * Nat.pow 2 q.toNat
        if s ≥ Nat.pow 2 64 then .error tooBig else .ok (s * 1000000000)
      else
        let den := Nat.pow 2 (-q).toNat
        let num := m * 1000000000
        let n := num / den
        let r := num % den
        let rounded := if 2 * r > den || (2 * r = den && n % 2 = 1) then n + 1 else n
        if rounded / 1000000000 ≥ Nat.pow 2 64 then .error tooBig else .ok rounded

end Duration
end DepthBridge
