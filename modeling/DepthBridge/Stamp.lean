import DepthBridge.Halt
import DepthBridge.Decimal.Layout

/-!
# Bus time

A `Stamp` is a point on the bus clock in whole nanoseconds, a 64-bit signed count. Seconds
convert to it by rounding half away from zero and clamping to the 64-bit range (NaN gives
zero); moving a stamp by an amount that leaves the range halts the operation.
A stamp is written as seconds with nine places.
-/

namespace DepthBridge

/-- A point on the bus clock, in nanoseconds. -/
structure Stamp where
  nanos : Int
  deriving DecidableEq, Repr, Inhabited

namespace Stamp

/-- The stamp nearest `secs` seconds, clamped to the 64-bit range. -/
def ofSecs (secs : Float) : Stamp := ⟨Checked.nearestI64 (secs * 1e9)⟩

/-- The stamp in seconds, the nearest double. -/
def toSecs (s : Stamp) : Float := Float.ofInt s.nanos / 1e9

/-- The stamp moved by `delta` nanoseconds, rounded half away from zero and clamped. -/
def offset (s : Stamp) (delta : Float) : Except Halt Stamp :=
  (Checked.addI64 s.nanos (Checked.nearestI64 delta)).map Stamp.mk

/-- The stamp moved forward by a duration of `nanos` nanoseconds, of which the low 64 bits
count, read as a signed number. -/
def addDuration (s : Stamp) (nanos : Nat) : Except Halt Stamp :=
  (Checked.addI64 s.nanos (Checked.wrapI64 nanos)).map Stamp.mk

/-- Seconds with nine places. -/
def display (s : Stamp) : String := Decimal.fixed 9 s.toSecs

end Stamp

end DepthBridge
