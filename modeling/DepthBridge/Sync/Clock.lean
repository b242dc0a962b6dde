import DepthBridge.Stamp

/-!
# Clocks

A `Clock` is a scripted source of bus time: its `n`-th reading (from zero) is
`start + n · step`, wrapped to 64 bits. Reading it is an effect, so stamps reveal how often the
bridge looks at the clock.

A `ClockBase` ties device time to bus time. The first frame fixes the reference: the bus time
read at that moment and the frame's device time in milliseconds. From then on a device time
maps to the reference stamp moved by the elapsed device time; before that, every conversion
reads the clock instead.
-/

namespace DepthBridge

/-- A scripted bus clock and how many times it has been read. -/
structure Clock where
  start : Int
  step : Int
  reads : Nat := 0
  deriving Repr, Inhabited

/-- Computations that read the clock and may halt. -/
abbrev Timed := StateT Clock (Except Halt)

namespace Clock

/-- The clock's next reading. -/
def now : Timed Stamp := do
  let c ← get
  set { c with reads := c.reads + 1 }
  return ⟨Checked.wrapI64 (c.start + c.reads * c.step)⟩

end Clock

/-- The moment that ties device time to bus time. -/
structure ClockReference where
  bus : Stamp
  deviceMs : Float
  deriving Inhabited

/-- The tie between device time and bus time, once the first frame has fixed it. -/
structure ClockBase where
  reference : Option ClockReference := none
  deriving Inhabited

namespace ClockBase

/-- Fixes the reference at device time `deviceMs` unless it is fixed already; says whether it
did. Only the first call reads the clock. -/
def ensureInitialized (b : ClockBase) (deviceMs : Float) : Timed (Bool × ClockBase) := do
  match b.reference with
  | some _ => return (false, b)
  | none =>
    let bus ← Clock.now
    return (true, { reference := some ⟨bus, deviceMs⟩ })

/-- Whether the reference is fixed. -/
def isInitialized (b : ClockBase) : Bool := b.reference.isSome

/-- The bus time of device time `deviceMs`; before the reference is fixed, the clock's time. -/
def toBusTime (b : ClockBase) (deviceMs : Float) : Timed Stamp :=
  match b.reference with
  | some r => monadLift (r.bus.offset ((deviceMs - r.deviceMs) * 1e6) : Except Halt Stamp)
  | none => Clock.now

/-- Nanoseconds of device time since the reference; zero before it is fixed. -/
def elapsedNs (b : ClockBase) (deviceMs : Float) : Float :=
  match b.reference with
  | some r => (deviceMs - r.deviceMs) * 1e6
  | none => 0

/-- The bus time `elapsed` nanoseconds after the reference; before it is fixed, the clock's
time. -/
def busTimeFromElapsed (b : ClockBase) (elapsed : Float) : Timed Stamp :=
  match b.reference with
  | some r => monadLift (r.bus.offset elapsed : Except Halt Stamp)
  | none => Clock.now

end ClockBase
end DepthBridge
