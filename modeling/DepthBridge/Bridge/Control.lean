import DepthBridge.Bridge.Node

/-!
# Controlling a node

Everything a node can be told or asked, one command at a time, and what it answers. Commands
that can fail answer with a `DispatchError`; any command may halt, and the node keeps the state
reached.

Samples are handled directly, or delivered through the connected source, which swallows their
failures and answers whether it was connected.
-/

namespace DepthBridge

/-- A command to a node. -/
inductive Control where
  | setup
  | start
  | sample (s : Sample)
  | emit (s : Sample)
  | advance (ms : Nat)
  | describe
  | setEnabled (tag : StageTag) (on : Bool)
  | setSubscribers (c : Channel) (n : Nat)
  | pause
  | resume
  | republish (stamp : Stamp)
  | publishOnce
  | transforms
  | lookup (key : StreamKey)
  | calibrationCount
  | clock (deviceMs : Float)
  | pipeline
  | shutdown
  deriving Inhabited

/-- A node's answer. -/
inductive Reply where
  | done
  | flag (b : Bool)
  | count (n : Nat)
  /-- Diagnostic texts of the dispatcher, the transform tree, the clock tie and the gate. -/
  | describe (dispatcher tree clock gate : String)
  | tree (base : Option StreamKey) (transforms : List Transform)
  | record (r : Option CalibrationRecord)
  | clock (initialized : Bool) (bus : Stamp) (elapsedNs : Float)
  | pipeline (p : Pipeline)
  | metrics (m : Metrics)
  deriving Inhabited

namespace Node

variable {β : Type} [MessageBus β]

/-- Carries out a command; `tune` sets a channel's subscribers on the bus. -/
def control (tune : Channel → Nat → β → β) : Control → NodeM β (Except DispatchError Reply)
  | .setup => (·.map fun _ => .done) <$> setup
  | .start => (·.map fun _ => .done) <$> start
  | .sample s => (·.map fun _ => .done) <$> dispatching (Handling.onSample s).run
  | .emit s => (.ok ∘ .flag) <$> emit s
  | .advance ms => do advance ms; return .ok .done
  | .describe => do
    let n ← get
    return .ok (.describe n.dispatcherText n.tree.debugText (clockText n.dispatcher.base) n.dispatcher.gate.debugText)
  | .setEnabled tag on => do
    let n ← get
    let (found, p) := n.dispatcher.pipeline.setEnabled tag on
    set { n with dispatcher := { n.dispatcher with pipeline := p } }
    return .ok (.flag found)
  | .setSubscribers c k => do
    modify fun n => { n with dispatcher := { n.dispatcher with bus := tune c k n.dispatcher.bus } }
    return .ok .done
  | .pause => do dispatching Dispatching.pause; return .ok .done
  | .resume => do
    match ← dispatching Dispatching.resume with
    | .ok k => return .ok (.count k)
    | .error e => return .error (.sync e)
  | .republish stamp => do republish stamp; return .ok .done
  | .publishOnce => do publishOnce; return .ok .done
  | .transforms => do
    let t := (← get).tree
    return .ok (.tree (t.base.map (·.key)) t.transforms)
  | .lookup k => do return .ok (.record ((← get).dispatcher.calibration.lookup k))
  | .calibrationCount => do return .ok (.count (← get).dispatcher.calibration.size)
  | .clock ms => do
    let base := (← get).dispatcher.base
    let bus ← dispatching (Dispatching.timed (base.toBusTime ms))
    return .ok (.clock base.isInitialized bus (base.elapsedNs ms))
  | .pipeline => do return .ok (.pipeline (← get).dispatcher.pipeline)
  | .shutdown => (.ok ∘ .metrics) <$> shutdown

end Node
end DepthBridge
