import DepthBridge.Bridge.Node
import DepthBridge.Bridge.Summary
import DepthBridge.Bus.Log
import DepthBridge.Device.Simulated

/-!
# Bridge sessions

A session runs the bridge against the simulated camera: it builds the device from the
settings, a logging bus and a node, starts the node (calibration, one-shot messages, transform
tree, background tasks), lets the requested time pass, shuts the node down and reports what
happened.

The samples the camera delivers while the session runs depend on the wall clock, so they are
not part of this model: the session's time passes for the node's own tasks only. What the
session publishes while it starts does not depend on time, and neither do its failures: a
device whose settings are refused, or a node that cannot start.
-/

namespace DepthBridge

/-- What a session is asked to do. -/
structure SessionConfig where
  driver : DriverConfig
  /-- How long to stream, in nanoseconds; `none` streams until a shutdown request. -/
  durationNs : Option Nat := none
  deriving Inhabited

/-- The causes of a dispatch error, outermost first. -/
def DispatchError.chain (e : DispatchError) : List String :=
  e.message :: match e with
    | .unexpectedSample _ => []
    | .sync s => [s.message]
    | .calibration c => [c.message]
    | .transform t => [t.message]
    | .contract c => c.message :: c.causes

namespace Session

/-- The bus clock of a session: a fixed instant, since nothing reported depends on it. -/
def clock : Clock := { start := 1700000000000000000, step := 0 }

/-- The logging bus of a session. -/
def bus : LogBus := { name := "log" }

/-- Runs a session: the summary of the run, a report of why it could not run, or the halt
that stopped it. -/
def run (c : SessionConfig) : Except Halt (Except Report RunSummary) :=
  match Device.simulated c.driver.device with
  | .error e => .ok (.error ⟨["Failed to create simulated device", e.message]⟩)
  | .ok device => do
    let node : Node LogBus ← Node.create c.driver device bus clock
    let body : NodeM LogBus (Except Report RunSummary) := do
      match ← Node.start with
      | .error e => return .error ⟨"Failed to start bridge node" :: e.chain⟩
      | .ok () =>
        Node.advance ((c.durationNs.getD 0 + 999999) / 1000000)
        let metrics ← Node.shutdown
        let n ← get
        return .ok { durationNs := c.durationNs.getD 0, metrics, channels := n.dispatcher.bus.counts }
    match body.run node with
    | .ok r _ => .ok r
    | .error h _ => .error h

/-- The channels a session publishes once while it starts: calibration of the inertial
sensors, the motion between sensors, and the static transforms. -/
def isSetupChannel (name : String) : Bool :=
  (name.splitOn "imu_info").length > 1 || (name.splitOn "extrinsics").length > 1 || name == "/tf_static"

end Session

end DepthBridge
