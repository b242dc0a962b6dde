import DepthBridge.Message
import DepthBridge.Config.Basic

/-!
# Combining accelerometer and gyroscope samples

The two inertial sensors sample at their own rates; the combined inertial channel carries both
readings in one message. A synchronizer takes samples one at a time and returns the combined
samples that became complete:

* `copy` pairs each gyroscope sample with the latest accelerometer reading (nothing before the
  first one);
* `linear interpolation` waits for an accelerometer sample after a run of gyroscope samples and
  places each of them on the line between the accelerometer readings around it. It keeps a
  history; once at least three samples are held and an accelerometer sample arrives, the whole
  history is consumed, except its last sample, which starts the next history.
-/

namespace DepthBridge

/-- The two inertial sensors. -/
inductive ImuAxis where
  | accel | gyro
  deriving DecidableEq, Repr, Inhabited

namespace ImuAxis

/-- The sensor behind a stream kind. -/
def ofKind? : StreamKind → Option ImuAxis
  | .accel => some .accel
  | .gyro => some .gyro
  | _ => none

end ImuAxis

/-- One sample of one sensor, at a time in nanoseconds since the clock reference. -/
structure InertialSample where
  axis : ImuAxis
  reading : Vector3
  timeNs : Float
  deriving Inhabited

/-- A combined sample. -/
structure UnifiedInertial where
  timeNs : Float
  linearAcceleration : Vector3
  angularVelocity : Vector3
  deriving Inhabited

/-- The diagonal 3×3 matrix with `v` on its diagonal, row-major. -/
def diagonal3 (v : Float) : List Float := [v, 0, 0, 0, v, 0, 0, 0, v]

/-- An inertial message with no readings: unknown orientation (its covariance starts with
`-1`) and the configured covariances. -/
def emptyImuMessage (stamp : Stamp) (frameId : String) (cov : ImuCovariance) : ImuMessage :=
  { header := ⟨stamp, frameId⟩
    orientation := .zero
    orientationCovariance := [-1, 0, 0, 0, 0, 0, 0, 0, 0]
    angularVelocity := .zero
    angularVelocityCovariance := diagonal3 cov.angularVelocityCov
    linearAcceleration := .zero
    linearAccelerationCovariance := diagonal3 cov.linearAccelCov }

/-- The message of a combined sample. -/
def UnifiedInertial.toMessage (u : UnifiedInertial) (stamp : Stamp) (frameId : String)
    (cov : ImuCovariance) : ImuMessage :=
  { emptyImuMessage stamp frameId cov with
    linearAcceleration := u.linearAcceleration, angularVelocity := u.angularVelocity }

/-- The point `t` of the way from `a` to `b`: `t · b + (1 - t) · a`, or `t · b` alone when
`1 - t` is zero. -/
def lerp (a b : Vector3) (t : Float) : Vector3 :=
  let s := 1 - t
  if s == 0 then ⟨t * b.x, t * b.y, t * b.z⟩
  else ⟨t * b.x + s * a.x, t * b.y + s * a.y, t * b.z + s * a.z⟩

/-- A synchronizer and what it remembers. -/
inductive ImuSynchronizer where
  | copy (latestAccel : Option InertialSample)
  | linear (history : List InertialSample)
  deriving Inhabited

namespace ImuSynchronizer

/-- The synchronizer of a method; `none` combines nothing. -/
def forMethod? : ImuSyncMethod → Option ImuSynchronizer
  | .none => none
  | .copy => some (.copy none)
  | .linearInterpolation => some (.linear [])

/-- The method of a synchronizer. -/
def method : ImuSynchronizer → ImuSyncMethod
  | .copy _ => .copy
  | .linear _ => .linearInterpolation

/-- The samples held by the interpolating synchronizer. -/
def historyLen : ImuSynchronizer → Nat
  | .copy _ => 0
  | .linear h => h.length

/-- The gyroscope samples between the accelerometer samples `a0` and `a1`, placed on the line
between their readings. -/
def interpolate (a0 a1 : InertialSample) (gyros : List InertialSample) : List UnifiedInertial :=
  let span := a1.timeNs - a0.timeNs
  gyros.map fun g =>
    let alpha := if span > 0 then (g.timeNs - a0.timeNs) / span else 0
    ⟨g.timeNs, lerp a0.reading a1.reading alpha, g.reading⟩

/-- Consumes a history in order: the accelerometer sample seen last, the gyroscope samples
waiting since, and the output so far (latest last). -/
def sweep : List InertialSample → Option InertialSample → List InertialSample →
    List UnifiedInertial → List UnifiedInertial
  | [], _, _, out => out
  | s :: rest, accel0, pending, out =>
    match s.axis, accel0 with
    | .accel, none => sweep rest (some s) pending out
    | .accel, some a0 => sweep rest (some s) [] (out ++ interpolate a0 s pending)
    | .gyro, some a0 =>
      if s.timeNs ≥ a0.timeNs then sweep rest accel0 (pending ++ [s]) out
      else sweep rest accel0 pending out
    | .gyro, none => sweep rest accel0 pending out

/-- Takes one sample; returns the combined samples it completed. -/
def ingest (sync : ImuSynchronizer) (s : InertialSample) : List UnifiedInertial × ImuSynchronizer :=
  match sync with
  | .copy latest =>
    match s.axis, latest with
    | .accel, _ => ([], .copy (some s))
    | .gyro, some a => ([⟨s.timeNs, a.reading, s.reading⟩], .copy latest)
    | .gyro, none => ([], .copy latest)
  | .linear history =>
    let history := history ++ [s]
    if s.axis != .accel || history.length < 3 then ([], .linear history)
    else
      let last := history.getLast?.getD s
      (sweep history none [] [], .linear [last])

end ImuSynchronizer
end DepthBridge
