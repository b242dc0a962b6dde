import DepthBridge.Bus.Basic
import DepthBridge.Sync.Clock
import DepthBridge.Sync.Gate
import DepthBridge.Sync.Inertial
import DepthBridge.Calibration.Registry
import DepthBridge.Dispatch.Metrics
import DepthBridge.Dispatch.Pipeline
import DepthBridge.Dispatch.Depth
import DepthBridge.Transform.Names

/-!
# The dispatcher's state

Everything the handling of samples reads and changes: the device and the settings taken from
the configuration, the post-processing pipeline, the bus, the bus clock and its tie to device
time, the gate in front of the combined inertial channel, the inertial synchronizer, the
calibration registry and the counters.

Handling runs in `Handling β`: it may refuse a sample with a `DispatchError` or halt, and in
both cases the state reached so far stays, as a real bus keeps what it was sent.
-/

namespace DepthBridge

/-- The state of sample handling over a bus of type `β`. -/
structure Dispatcher (β : Type) where
  device : Device
  names : FrameNames
  covariance : ImuCovariance
  clipDistance : Float32
  alignDepth : Bool
  publishOdomTf : Bool
  depthScale : Float32
  pipeline : Pipeline
  bus : β
  clock : Clock
  base : ClockBase := {}
  gate : Gate ImuMessage
  sync : Option ImuSynchronizer
  calibration : CalibrationRegistry := {}
  metrics : Metrics := {}

instance [Inhabited β] : Inhabited (Dispatcher β) :=
  ⟨{ device := default, names := {}, covariance := {}, clipDistance := -1, alignDepth := false,
     publishOdomTf := true, depthScale := 0.001, pipeline := {}, bus := default,
     clock := ⟨0, 0, 0⟩, gate := Gate.create "synced_imu" 1 false, sync := none }⟩

/-- The name of the gate in front of the combined inertial channel. -/
def syncedGateName : String := "synced_imu"

/-- The dispatcher that a configuration describes, over a device, a bus and a clock. -/
def Dispatcher.ofConfig (c : DriverConfig) (device : Device) (bus : β) (clock : Clock) : Dispatcher β :=
  let sync := ImuSynchronizer.forMethod? c.uniteImuMethod
  { device, names := ⟨c.cameraName⟩, covariance := c.imu, clipDistance := c.clipDistance
    alignDepth := c.alignDepth, publishOdomTf := c.publishOdomTf, depthScale := device.depthScale
    pipeline := Pipeline.ofConfig c.filters device c.pointcloud, bus, clock
    gate := Gate.create syncedGateName c.imuQueueCapacity.toNat sync.isSome, sync }

/-- Builds the dispatcher a configuration describes. The gate's queue is allocated first, which
halts when it takes more bytes than a buffer can have: validation asks the bound only to be
positive. -/
def Dispatcher.create (c : DriverConfig) (device : Device) (bus : β) (clock : Clock) :
    Except Halt (Dispatcher β) := do
  Gate.reserve c.imuQueueCapacity.toNat ImuMessage.bytes
  return ofConfig c device bus clock

/-- Sample handling that may halt, keeping the state reached. -/
abbrev Dispatching (β : Type) := EStateM Halt (Dispatcher β)

/-- Sample handling that may also refuse the sample. -/
abbrev Handling (β : Type) := ExceptT DispatchError (Dispatching β)

namespace Dispatching

variable {β : Type} [MessageBus β]

/-- Halts unless `x` has a value. -/
def orHalt (x : Except Halt α) : Dispatching β α :=
  match x with
  | .ok a => pure a
  | .error h => throw h

/-- Runs a computation on the bus clock. -/
def timed (f : Timed α) : Dispatching β α := do
  let d ← get
  match f.run d.clock with
  | .ok (a, c) => set { d with clock := c }; pure a
  | .error h => throw h

/-- Publishes a message. -/
def publish (c : Channel) (m : Message) : Dispatching β Unit :=
  modify fun d => { d with bus := MessageBus.publish d.bus c m }

/-- Whether anybody listens on a channel. -/
def listened (c : Channel) : Dispatching β Bool := do
  return MessageBus.hasSubscribers (← get).bus c

/-- Changes the counters. -/
def count (f : Metrics → Metrics) : Dispatching β Unit :=
  modify fun d => { d with metrics := f d.metrics }

/-- Publication of a combined inertial message behind the gate: the bus never refuses. -/
def deliver (m : ImuMessage) : StateM β (Except ContractError Unit) := do
  modify fun b => MessageBus.publish b .syncedImu (.imu m)
  return .ok ()

/-- Runs a gate operation, publishing through the bus. -/
def withGate (f : Gate ImuMessage → StateM β (α × Gate ImuMessage)) : Dispatching β α := do
  let d ← get
  let ((a, g), bus) := (f d.gate).run d.bus
  set { d with gate := g, bus }
  return a

/-- One more level of pause on the gate. -/
def pause : Dispatching β Unit := modify fun d => { d with gate := d.gate.pause }

/-- Pauses the gate once more and takes a guard for the pause. -/
def takeGuard : Dispatching β Gate.Guard := withGate fun g => pure g.takeGuard

/-- Closes one level of pause, flushing the queue after the last. -/
def resume : Dispatching β (Except SyncError Nat) := withGate (Gate.resume deliver)

/-- Drops a guard on the gate, resuming when it is active. -/
def dropGuard (guard : Gate.Guard) : Dispatching β Unit :=
  withGate fun g => do return ((), ← guard.drop deliver g)

/-- Runs `body` under a pause guard and resumes through the guard afterwards; when `body` halts
the guard is dropped instead, and the halt goes on. The result of resuming is returned beside
the body's. -/
def paused (body : Dispatching β α) : Dispatching β (α × Except SyncError Nat) := do
  let guard ← takeGuard
  let a ← tryCatch body fun h => do
    dropGuard guard
    throw h
  return (a, ← resume)

end Dispatching

namespace Handling

variable {β : Type} [MessageBus β]

/-- Lifts handling that cannot refuse. -/
def lift (x : Dispatching β α) : Handling β α := ExceptT.lift x

/-- Refuses with a contract error. -/
def contract (x : Except ContractError α) : Handling β α :=
  match x with
  | .ok a => pure a
  | .error e => throw (.contract e)

end Handling

namespace Dispatcher

/-- Clears depth beyond the clipping distance in a 16-bit depth frame; other frames, and every
frame when clipping is off, pass unchanged. -/
def clip (d : Dispatcher β) (f : Frame) : Frame :=
  if d.clipDistance ≤ 0 || !f.isDepthZ16 then f
  else match f.payload with
    | .video v => { f with payload := .video { v with data := (Depth.clip v.data v.width d.depthScale d.clipDistance).1 } }
    | _ => f

end Dispatcher
end DepthBridge
