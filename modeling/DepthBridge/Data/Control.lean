import DepthBridge.Data.Bridge
import DepthBridge.Bridge.Control

/-!
# Node commands as JSON

A command is an object whose `op` names it, with its arguments beside: `setup`, `start`,
`sample` and `emit` (with a sample), `advance {ms}`, `debug`, `set_enabled {tag, enabled}`,
`set_subscribers {channel, count}`, `pause`, `resume`, `republish {stamp}`, `publish_once`,
`transforms`, `lookup {stream, index}`, `calibration_len`, `clock {device_ms}`, `pipeline`
and `shutdown`. Waiting is only possible on a runtime whose clock is paused.
-/

namespace DepthBridge
namespace Data

open Json

/-- A command; samples merge against `base`, and `paused` says whether waiting is possible. -/
def readControl (base : List Profile) (paused : Bool) (o : Json) : Decode Control := do
  let sample : Decode Sample := do
    match ← readSample? base o with
    | some s => pure s
    | none => throw "sample step without a sample"
  match ← need o "op" asStr? with
  | "setup" => return .setup
  | "start" => return .start
  | "sample" => return .sample (← sample)
  | "emit" => return .emit (← sample)
  | "advance" =>
    if !paused then throw "advance without paused_time"
    return .advance (← optional o "ms" asNat? 0)
  | "debug" => return .describe
  | "set_enabled" => return .setEnabled (← readStageTag o "tag") (← optional o "enabled" asBool? true)
  | "set_subscribers" => return .setSubscribers (← readChannel o "channel") (← optional o "count" asNat? 1)
  | "pause" => return .pause
  | "resume" => return .resume
  | "republish" => return .republish ⟨← optional o "stamp" asInt? 0⟩
  | "publish_once" => return .publishOnce
  | "transforms" => return .transforms
  | "lookup" => return .lookup (← readKey o)
  | "calibration_len" => return .calibrationCount
  | "clock" => return .clock (← optional o "device_ms" asFloat? 0)
  | "pipeline" => return .pipeline
  | "shutdown" => return .shutdown
  | other => throw s!"unknown session op {other}"

/-- A node's answer. -/
def reply : Reply → Json
  | .done => .bool true
  | .flag b => .bool b
  | .count n => .nat n
  | .describe d t c g => .obj [("dispatcher", .str d), ("transforms", .str t), ("clock", .str c), ("sink", .str g)]
  | .tree base ts => .obj [("base", match base with | some k => key k | none => .null), ("transforms", transforms ts)]
  | .record r => match r with | some r => record r | none => .null
  | .clock i bus e => .obj [("initialized", .bool i), ("bus_time", .int bus.nanos), ("elapsed_ns", .num e)]
  | .pipeline p => pipeline p
  | .metrics m => metrics m

end Data
end DepthBridge
