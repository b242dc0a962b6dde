import DepthBridge.Dispatch.Sample
import DepthBridge.Calibration.Motion
import DepthBridge.Transform.Tree
import DepthBridge.Bridge.Duration

/-!
# The bridge node

A node ties a device to a bus. Setting it up records the calibration of every imager,
publishes the calibration of each inertial sensor and the extrinsics from depth to each other
imager, computes the transform tree and publishes it: once on the static channel, or, at a
positive rate, periodically on the dynamic channel from a background task. Starting it sets it
up and connects a sample source; shutting it down disconnects the source, ends the background
tasks and reports the counters. When the node goes away the gate delivers what it still holds.

Background tasks run on a paused runtime clock (nanoseconds), which moves only when the node is
told to wait. A republishing task starts its schedule when it first runs: a tick at once, then
one per period. Timers fire on whole milliseconds, so a deadline fires at the first millisecond
at or after it. Each tick reads the bus clock, restamps every transform and publishes them.
-/

namespace DepthBridge

/-- A republishing task: its period in nanoseconds, and its next deadline once it has first
run. -/
structure Republisher where
  periodNs : Nat
  next : Option Nat := none
  deriving Inhabited, Repr

/-- A bridge node over a bus of type `β`. -/
structure Node (β : Type) where
  config : DriverConfig
  dispatcher : Dispatcher β
  tree : TransformTree
  republishers : List Republisher := []
  /-- The runtime clock, in nanoseconds. -/
  nowNs : Nat := 0
  /-- Whether the sample source is connected. -/
  streaming : Bool := false

instance [Inhabited β] : Inhabited (Node β) := ⟨{ config := {}, dispatcher := default, tree := default }⟩

/-- Node operations that may halt, keeping the state reached. -/
abbrev NodeM (β : Type) := EStateM Halt (Node β)

namespace Node

variable {β : Type} [MessageBus β]

/-- A node for a configuration, device, bus and clock; building its dispatcher may halt. -/
def create (c : DriverConfig) (device : Device) (bus : β) (clock : Clock) : Except Halt (Node β) := do
  let dispatcher ← Dispatcher.create c device bus clock
  return { config := c, dispatcher, tree := { names := ⟨c.cameraName⟩ } }

/-- Runs sample handling on the node's dispatcher. -/
def dispatching (x : Dispatching β α) : NodeM β α := fun n =>
  match x n.dispatcher with
  | .ok a d => .ok a { n with dispatcher := d }
  | .error h d => .error h { n with dispatcher := d }

/-- Publishes a message. -/
def publish (c : Channel) (m : Message) : NodeM β Unit := dispatching (Dispatching.publish c m)

/-- Reads the bus clock. -/
def now : NodeM β Stamp := dispatching (Dispatching.timed Clock.now)

/-- Publishes the calibration of every inertial sensor, stamped with one clock reading. -/
def publishImuInfo (profiles : List Profile) : NodeM β Unit := do
  let stamp ← now
  let n ← get
  for p in profiles.filter (·.key.kind.isMotion) do
    let header : Header := ⟨stamp, n.dispatcher.names.opticalFrameId p.key⟩
    publish (.imuInfo p.key) (.imuInfo (imuInfo p n.dispatcher.device header))

/-- Publishes the extrinsics from depth 0 to every other imager, when there is a depth 0;
imagers without calibration are skipped, any other refusal stops. -/
def publishExtrinsics (profiles : List Profile) : NodeM β (Except DispatchError Unit) := do
  let depthKey : StreamKey := ⟨.depth, 0⟩
  let some depth := profiles.find? (·.key == depthKey) | return .ok ()
  let stamp ← now
  let n ← get
  let header : Header := ⟨stamp, n.dispatcher.names.opticalFrameId depthKey⟩
  for p in profiles.filter fun p => p.isVideo && p.key != depthKey do
    match n.dispatcher.device.extrinsics depth p with
    | .ok ex => publish (.extrinsics p.key) (.extrinsics (extrinsicsMessage ex header))
    | .error (.extrinsicsUnavailable ..) => pure ()
    | .error e => return .error (.contract e)
  return .ok ()

/-- Publishes the transform tree once on the static channel. -/
def publishOnce : NodeM β Unit := do
  publish .tfStatic (.transforms (← get).tree.transforms)

/-- Restamps the transform tree and publishes it on the dynamic channel. -/
def republish (stamp : Stamp) : NodeM β Unit := do
  modify fun n => { n with tree := n.tree.restamp stamp }
  publish .tf (.transforms (← get).tree.transforms)

/-- Calibration, one-shot messages, transforms and background tasks. -/
def setup : NodeM β (Except DispatchError Unit) := do
  let n ← get
  let device := n.dispatcher.device
  let profiles := device.profiles
  modify fun n => { n with dispatcher := { n.dispatcher with
    calibration := n.dispatcher.calibration.updateProfiles profiles device } }
  publishImuInfo profiles
  if let .error e ← publishExtrinsics profiles then return .error e
  if n.config.publishTf then
    let stamp ← now
    let (tree, result) := (← get).tree.computeAll device profiles stamp
    modify fun n => { n with tree }
    if let .error e := result then return .error (.transform e)
    let rate := n.config.tfPublishRate
    if rate > 0 then
      match Duration.ofSecs (1 / rate) with
      | .ok period => modify fun n => { n with republishers := n.republishers ++ [⟨period, none⟩] }
      | .error h => throw h
    else publishOnce
  return .ok ()

/-- Sets the node up and connects the source, unless it already streams. -/
def start : NodeM β (Except DispatchError Unit) := do
  match ← setup with
  | .error e => return .error e
  | .ok () =>
    modify fun n => { n with streaming := true }
    return .ok ()

/-- Delivers a sample through the source, if connected; failures are swallowed. Whether the
source was connected. -/
def emit (s : Sample) : NodeM β Bool := do
  if !(← get).streaming then return false
  discard (dispatching (Handling.onSample s).run)
  return true

/-- The first millisecond at or after a time in nanoseconds. -/
def fireTime (ns : Nat) : Nat := (ns + 999999) / 1000000 * 1000000

/-- The ticks of a task up to time `stop`: (fire time, task, deadline). A task that has not
run yet starts its schedule at `start`. -/
def ticksOf (start stop : Nat) (task : Nat) (r : Republisher) : List (Nat × Nat × Nat) :=
  let first := r.next.getD start
  if r.periodNs = 0 || first > stop then []
  else (List.range ((stop - first) / r.periodNs + 1)).map fun k =>
    let d := first + k * r.periodNs
    (fireTime d, task, d)

/-- The task after its ticks up to `stop`. -/
def advanceTask (start stop : Nat) (r : Republisher) : Republisher :=
  let first := r.next.getD start
  if r.periodNs = 0 then r
  else if first > stop then { r with next := some first }
  else { r with next := some (first + ((stop - first) / r.periodNs + 1) * r.periodNs) }

/-- Lets `ms` milliseconds of runtime time pass: every task tick due meanwhile republishes
the transforms, earliest first. -/
def advance (ms : Nat) : NodeM β Unit := do
  let n ← get
  let stop := n.nowNs + ms * 1000000
  let ticks := (n.republishers.zipIdx.flatMap fun (r, i) => ticksOf n.nowNs stop i r).mergeSort
    fun a b => a.1 ≤ b.1
  modify fun n => { n with republishers := n.republishers.map (advanceTask n.nowNs stop) }
  for _ in ticks do
    republish (← now)
  modify fun n => { n with nowNs := stop }

/-- Delivers what the gate still holds, as the node goes away. -/
def release : NodeM β Unit :=
  dispatching (Dispatching.withGate fun g => do return ((), ← Gate.drain Dispatching.deliver g))

/-- Disconnects the source, ends the background tasks, reports the counters and lets the node
go. -/
def shutdown : NodeM β Metrics := do
  modify fun n => { n with streaming := false, republishers := [] }
  let m := (← get).dispatcher.metrics
  release
  return m

/-- The dispatcher's diagnostic text. -/
def dispatcherText (n : Node β) : String :=
  let d := n.dispatcher
  "FrameDispatcher \x7b device: " ++ Text.quoted d.device.name ++ ", pipeline: " ++ d.pipeline.debugText
    ++ ", clip_distance: " ++ Decimal.Style.debug.single d.clipDistance ++ ", align_depth: "
    ++ Pipeline.flagText d.alignDepth ++ " \x7d"

/-- The clock tie's diagnostic text. -/
def clockText (b : ClockBase) : String :=
  match b.reference with
  | none => "ClockBase \x7b reference: None \x7d"
  | some r => "ClockBase \x7b reference: Some(ClockReference \x7b bus: Stamp \x7b nanos: " ++ toString r.bus.nanos
      ++ " \x7d, device_ms: " ++ Decimal.Style.debug.double r.deviceMs ++ " \x7d) \x7d"

end Node
end DepthBridge
