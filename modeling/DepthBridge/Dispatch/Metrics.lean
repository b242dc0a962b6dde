/-!
# Dispatch counters

What the bridge has done so far: framesets processed and failed, frames, inertial messages and
poses published, samples skipped for want of subscribers, and how many frameset latencies were
measured (one per frameset, whatever its outcome).
-/

namespace DepthBridge

/-- The dispatch counters. -/
structure Metrics where
  framesetsProcessed : Nat := 0
  framesetsFailed : Nat := 0
  framesPublished : Nat := 0
  imuPublished : Nat := 0
  posesPublished : Nat := 0
  samplesSkipped : Nat := 0
  latencyCount : Nat := 0
  deriving Inhabited, Repr, DecidableEq

namespace Metrics

/-- Counts one frameset and its latency. -/
def recordFrameset (m : Metrics) (success : Bool) : Metrics :=
  if success then { m with framesetsProcessed := m.framesetsProcessed + 1, latencyCount := m.latencyCount + 1 }
  else { m with framesetsFailed := m.framesetsFailed + 1, latencyCount := m.latencyCount + 1 }

/-- Counts one published frame. -/
def frame (m : Metrics) : Metrics := { m with framesPublished := m.framesPublished + 1 }

/-- Counts published inertial messages. -/
def imu (m : Metrics) (n : Nat) : Metrics := { m with imuPublished := m.imuPublished + n }

/-- Counts one published pose. -/
def pose (m : Metrics) : Metrics := { m with posesPublished := m.posesPublished + 1 }

/-- Counts one skipped sample. -/
def skip (m : Metrics) : Metrics := { m with samplesSkipped := m.samplesSkipped + 1 }

end Metrics
end DepthBridge
