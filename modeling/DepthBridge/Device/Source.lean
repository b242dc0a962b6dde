import DepthBridge.Device.Scene

/-!
# The streaming source

The simulated camera streams in groups, each on its own fixed-rate schedule: the framesets,
the accelerometer, the gyroscope and, when enabled, the pose tracker. Every group renders its
own scene, seeded by the device seed plus the group's seed, and numbers its samples from one.

What a run delivers depends on how long it lasts; what is fixed is the order of events for each
group: the first sample carries number one and the clock reading at the moment it was taken.
The source's own state is whether it streams and how many samples it has handed out; starting a
source that already streams changes nothing.
-/

namespace DepthBridge

/-- A stream group of the simulated source. -/
inductive SourceGroup where
  | frames
  | accel
  | gyro
  | pose
  deriving DecidableEq, Repr, Inhabited

namespace SourceGroup

/-- The group's name. -/
def name : SourceGroup → String
  | .frames => "frames" | .accel => "accel" | .gyro => "gyro" | .pose => "pose"

/-- The stream seed of the group's scene. -/
def seed : SourceGroup → UInt64
  | .frames => 0 | .accel => 1 | .gyro => 2 | .pose => 3

/-- The groups of a device with settings `c`, with their rates. -/
def ofConfig (c : DeviceConfig) : List (SourceGroup × UInt32) :=
  [(.frames, c.fps), (.accel, c.accelHz), (.gyro, c.gyroHz)]
    ++ (if c.enablePose then [(.pose, Simulated.poseRateHz)] else [])

end SourceGroup

/-- The clock that stamps the samples, in the device's domain. -/
structure SourceClock where
  domain : TimestampDomain
  /-- The system clock's reading when streaming started, in milliseconds since the epoch. -/
  epochMs : Float

namespace SourceClock

/-- The device clock's reading when streaming starts. -/
def deviceStartMs : Float := 5000

/-- The reading `elapsedMs` after streaming started: the system time in the system domain,
else the device clock, which starts at `deviceStartMs`. -/
def now (c : SourceClock) (elapsedMs : Float) : Float :=
  match c.domain with
  | .systemTime => c.epochMs + elapsedMs
  | _ => deviceStartMs + elapsedMs

/-- Whether a reading lies where its domain puts readings taken within a minute of the start:
past the year 2001 for system time, else within the first minute of the device clock. -/
def inRange (domain : TimestampDomain) (ts : Float) : Bool :=
  match domain with
  | .systemTime => ts > 1e12
  | _ => deviceStartMs ≤ ts && ts < deviceStartMs + 60000

end SourceClock

/-- One sample of a group's scene: number `number` taken at `ts` (ms), or the halt of its
rendering. -/
def Scene.sampleOf (s : Scene) (g : SourceGroup) (number : UInt64) (ts : Float) :
    Except Halt (Option Sample × Scene) :=
  match g with
  | .frames => do
    let (fs, s) ← s.frameset number ts
    return (some (.frameset fs), s)
  | .accel =>
    let (f, s) := s.motion .accel number ts
    .ok (f.map .frame, s)
  | .gyro =>
    let (f, s) := s.motion .gyro number ts
    .ok (f.map .frame, s)
  | .pose => .ok ((s.pose number ts).map .frame, s)

/-- The simulated source: the device settings, whether it streams, and how many samples it has
handed out. -/
structure SimulatedSource where
  config : DeviceConfig
  streaming : Bool := false
  emitted : Nat := 0

namespace SimulatedSource

/-- The source of a device with settings `c`, once they are checked. -/
def create (c : DeviceConfig) : Except DeviceError SimulatedSource := do
  Simulated.validate c
  return { config := c }

/-- Starts streaming. The flag says whether this call started it (and so installed its
callback); a source that already streams is left as it is. -/
def start (s : SimulatedSource) : SimulatedSource × Bool :=
  if s.streaming then (s, false) else ({ s with streaming := true }, true)

/-- Stops streaming. -/
def stop (s : SimulatedSource) : SimulatedSource := { s with streaming := false }

/-- The clock of a run started when the system clock read `epochMs`. -/
def clock (s : SimulatedSource) (epochMs : Float) : SourceClock :=
  { domain := if s.config.systemTimeDomain then .systemTime else .hardwareClock, epochMs }

/-- The first sample of each group that has one, taken right at the start of streaming, and
the source having handed them out; a group whose rendering halts hands out nothing. -/
def firstSamples (s : SimulatedSource) (epochMs : Float) : List (SourceGroup × Sample) × SimulatedSource :=
  let ts := (s.clock epochMs).now 0
  let firsts := (SourceGroup.ofConfig s.config).filterMap fun (g, _) =>
    let scene : Scene := { config := s.config, rng := SeededRng.ofSeed (s.config.seed + g.seed) }
    match scene.sampleOf g 1 ts with
    | .ok (some x, _) => some (g, x)
    | _ => none
  (firsts, { s with emitted := s.emitted + firsts.length })

end SimulatedSource

end DepthBridge
