import DepthBridge.Device.Simulated
import DepthBridge.Decimal.Shortest
import DepthBridge.Random.ChaCha

/-!
# The synthetic scene

What the simulated camera sees: a back wall 3 m away with a round obstacle sweeping left and
right in front of it. The rig itself sits still (gravity on the accelerometer, a small wobble on
the gyroscope) unless a pose tracker is enabled, which circles the origin.

A scene draws its noise from a `SeededRng` seeded by the device seed plus a stream seed, so that
two scenes of one device differ and one scene is reproducible. The draws happen in a fixed
order: depth pixels row by row (only where the wall or the obstacle is seen), then the three
axes of an inertial sample.

Depth is measured in singles, as the sensor stores it, and quantized to the device's depth unit;
the infrared images are brighter where the scene is nearer and dark where depth is missing.
-/

namespace DepthBridge

/-- The remainder of `x` divided by `y`, the quotient truncated toward zero. It is computed
exactly on the binary values: the result is representable, so it needs no rounding. -/
def truncRem (x y : Float) : Float :=
  match Decimal.Parts.ofBits .double x.toBits.toNat, Decimal.Parts.ofBits .double y.toBits.toNat with
  | .finite negative m q _, .finite _ n p _ =>
    if n = 0 then 0 / 0
    else
      let low := min q p
      let r := (m * Nat.pow 2 (q - low).toNat) % (n * Nat.pow 2 (p - low).toNat)
      let v := (Float.ofNat r).scaleB low
      if negative then -v else v
  | .finite _ _ _ _, .infinite _ => x
  | _, _ => 0 / 0

/-- `x` limited to `[lo, hi]`; NaN stays NaN. -/
def clampSingle (x lo hi : Float32) : Float32 :=
  let x := if x < lo then lo else x
  if x > hi then hi else x

/-- A scene of the simulated camera: the device settings it renders for and its noise source. -/
structure Scene where
  config : DeviceConfig
  rng : SeededRng

namespace Scene

/-- The distance of the back wall, in meters. -/
def wallM : Float32 := 3.0

/-- How far the obstacle's center stands out from the wall, in meters. -/
def obstacleM : Float32 := 1.5

/-- The half-width of the depth noise, in meters. -/
def depthNoiseM : Float32 := 0.002

/-- Standard gravity, in meters per second squared. -/
def gravity : Float32 := 9.81

/-- The half-width of the accelerometer noise. -/
def accelNoise : Float32 := 0.02

/-- The half-width of the gyroscope noise. -/
def gyroNoise : Float32 := 0.002

/-- The radius of the pose tracker's circle, in meters. -/
def poseRadiusM : Float := 1.0

/-- The pose tracker's angular rate, in radians per second. -/
def poseRateRadS : Float := 0.5

/-- A full turn in radians. -/
def tau : Float := 6.283185307179586

/-- The scene of a device with settings `c`, its noise seeded by the device seed plus
`streamSeed` (wrapping). The settings are checked as the device checks them. -/
def create (c : DeviceConfig) (streamSeed : UInt64) : Except DeviceError Scene := do
  Simulated.validate c
  return { config := c, rng := SeededRng.ofSeed (c.seed + streamSeed) }

/-- The profile of stream `key`, if the device has it. -/
def profile? (s : Scene) (key : StreamKey) : Option Profile :=
  (Simulated.profiles s.config).find? (·.key == key)

/-- The clock the scene's timestamps come from. -/
def domain (s : Scene) : TimestampDomain :=
  if s.config.systemTimeDomain then .systemTime else .hardwareClock

/-- The scene's depth in meters at pixel `(u, v)` at time `seconds`; zero in the left band of
width `width / 16` that the stereo pair does not both see. -/
def depthAt (width height u v : Nat) (seconds : Float) : Float32 :=
  if u < width / 16 then 0
  else
    let cx := width.toFloat / 2 + width.toFloat / 4 * seconds.sin
    let cy := height.toFloat / 2
    let radius := height.toFloat / 4
    let dx := u.toFloat - cx
    let dy := v.toFloat - cy
    let inside := 1 - (dx * dx + dy * dy) / (radius * radius)
    if inside > 0 then wallM - obstacleM * inside.sqrt.toFloat32 else wallM

/-- A frame of this scene. -/
def frameOf (s : Scene) (p : Profile) (number : UInt64) (ts : Float) (payload : Payload) : Frame :=
  { profile := p, timestampMs := ts, domain := s.domain, number, payload }

/-- The little-endian bytes of a 16-bit value. -/
def u16Bytes (x : UInt16) : List UInt8 := [x.toUInt8, (x >>> 8).toUInt8]

/-- The noisy depths of a `w × h` image at time `seconds`, row by row, with the advanced noise
source: noise is drawn only for pixels that see something. -/
def depths (rng : SeededRng) (w h : Nat) (seconds : Float) : List Float32 × SeededRng :=
  let step := fun (acc : Array Float32 × SeededRng) (i : Nat) =>
    let d := depthAt w h (i % w) (i / w) seconds
    if d > 0 then
      let (n, g) := acc.2.noise depthNoiseM
      (acc.1.push (d + n), g)
    else (acc.1.push d, acc.2)
  let (ds, g) := (List.range (w * h)).foldl step (#[], rng)
  (ds.toList, g)

/-- A depth in meters as a count of depth units, rounded and held to 16 bits. -/
def units (scale d : Float32) : UInt16 := (clampSingle (d / scale).round 0 65535).toUInt16

/-- The color image of frame `number`: red grows along rows, green down columns, blue with both
and with the frame number. -/
def colorBytes (w h : Nat) (number : UInt64) : ByteArray :=
  let shift := number.toNat % 256
  ⟨((List.range (w * h)).flatMap fun i =>
    let u := i % w
    let v := i / w
    [(u * 255 / max w 1).toUInt8, (v * 255 / max h 1).toUInt8, ((u + v + shift) % 256).toUInt8]).toArray⟩

/-- The infrared brightness of a depth: brighter when nearer, dark where depth is missing. -/
def brightness (d : Float32) : UInt8 :=
  if d ≤ 0 then 0 else (clampSingle (255 * (1 - d / (wallM * 1.5))) 0 255).toUInt8

/-- Checks the 32-bit sizes an image of `p` is laid out with, `bpp` bytes a pixel: the pixel
count and the byte count. -/
def checkSize (p : Profile) (bpp : Nat) : Except Halt Unit := do
  let pixels ← Checked.mulU32 p.width.toNat p.height.toNat
  discard (Checked.mulU32 pixels bpp)

/-- Checks the 32-bit products of the color ramps: the largest column and row times 255. -/
def checkRamps (p : Profile) : Except Halt Unit := do
  let (w, h) := (p.width.toNat, p.height.toNat)
  if w = 0 || h = 0 then return
  discard (Checked.mulU32 (w - 1) 255)
  discard (Checked.mulU32 (h - 1) 255)

/-- The depth, color and infrared frames of one instant, sharing the timestamp `ts` (ms), and
the scene with its noise source advanced. An image whose pixel or byte count does not fit 32 bits
halts the rendering. -/
def frameset (s : Scene) (number : UInt64) (ts : Float) : Except Halt (Frameset × Scene) := do
  let seconds := ts / 1000
  let (depthFrames, depthM, rng) ← match s.profile? ⟨.depth, 0⟩ with
    | some p => do
      checkSize p 2
      let (ds, g) := depths s.rng p.width.toNat p.height.toNat seconds
      let bytes : ByteArray := ⟨(ds.flatMap fun d => u16Bytes (units s.config.depthScale d)).toArray⟩
      pure ([s.frameOf p number ts (.video ⟨p.width, p.height, 2, bytes⟩)], ds, g)
    | none => pure ([], [], s.rng)
  let colorFrames ← match s.profile? ⟨.color, 0⟩ with
    | some p => do
      checkSize p 3
      checkRamps p
      pure [s.frameOf p number ts (.video ⟨p.width, p.height, 3, colorBytes p.width.toNat p.height.toNat number⟩)]
    | none => pure []
  let infrared := ([1, 2] : List UInt8).filterMap fun i => s.profile? ⟨.infrared, i⟩
  infrared.forM fun p => checkSize p 1
  let infraredFrames := infrared.map fun p =>
    let bytes : ByteArray := ⟨((List.range (p.width.toNat * p.height.toNat)).map fun j =>
      brightness (depthM.getD j wallM)).toArray⟩
    s.frameOf p number ts (.video ⟨p.width, p.height, 1, bytes⟩)
  return ({ frames := depthFrames ++ colorFrames ++ infraredFrames }, { s with rng })

/-- Three noise draws of half-width `n`, in order. -/
def noise3 (g : SeededRng) (n : Float32) : (Float32 × Float32 × Float32) × SeededRng :=
  let (a, g) := g.noise n
  let (b, g) := g.noise n
  let (c, g) := g.noise n
  ((a, b, c), g)

/-- One accelerometer or gyroscope sample at `ts` (ms), or `none` for another kind or a device
without that sensor (no noise is drawn then). -/
def motion (s : Scene) (kind : StreamKind) (number : UInt64) (ts : Float) : Option Frame × Scene :=
  let seconds := ts / 1000
  let reading : Option (Profile × MotionReading × SeededRng) :=
    match kind with
    | .accel => (s.profile? ⟨.accel, 0⟩).map fun p =>
      let ((x, y, z), g) := noise3 s.rng accelNoise
      (p, ⟨x, -gravity + y, z⟩, g)
    | .gyro => (s.profile? ⟨.gyro, 0⟩).map fun p =>
      let ((x, y, z), g) := noise3 s.rng gyroNoise
      (p, ⟨0.01 * seconds.sin.toFloat32 + x, y, z⟩, g)
    | _ => none
  match reading with
  | some (p, r, g) => (some (s.frameOf p number ts (.motion r.encode)), { s with rng := g })
  | none => (none, s)

/-- The tracker's pose at `ts` (ms) on its circle around the origin, in device axes (y up,
z back), or `none` without a pose tracker. -/
def pose (s : Scene) (number : UInt64) (ts : Float) : Option Frame :=
  (s.profile? ⟨.pose, 0⟩).map fun p =>
    let angle := truncRem (ts / 1000 * poseRateRadS) tau
    let sin := angle.sin
    let cos := angle.cos
    let speed := poseRadiusM * poseRateRadS
    let half := angle / 2
    let data : PoseData :=
      { translation := PoseData.triple (poseRadiusM * cos).toFloat32 0 (poseRadiusM * sin).toFloat32
        velocity := PoseData.triple (-speed * sin).toFloat32 0 (speed * cos).toFloat32
        acceleration := PoseData.triple 0 0 0
        rotation := PoseData.quad 0 half.sin.toFloat32 0 half.cos.toFloat32
        angularVelocity := PoseData.triple 0 poseRateRadS.toFloat32 0
        angularAcceleration := PoseData.triple 0 0 0
        trackerConfidence := 3
        mapperConfidence := 3 }
    s.frameOf p number ts (.pose data.encode)

end Scene

end DepthBridge
