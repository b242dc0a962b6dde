import DepthBridge.Data.Device
import DepthBridge.Data.Bridge
import DepthBridge.Data.Error
import DepthBridge.Device.Scene

/-!
# Scene requests

A scene request names the device settings, a stream seed and a list of steps; each step renders
one thing and the scene's noise source carries over from step to step. Pose frames carry their
record decoded next to the bytes.
-/

namespace DepthBridge
namespace Data

open Json

/-- A pose frame with its record decoded. -/
def poseFrame (f : Frame) : Json :=
  match frame f, f.payload with
  | .obj fields, .pose bytes =>
    match readRecord PoseData f.key bytes with
    | .ok p => .obj (fields ++ [("decoded", pose p)])
    | .error e => .obj (fields ++ [("decoded", contractError e)])
  | j, _ => j

/-- One step on the scene: its answer and the scene afterwards, or the halt of its rendering. -/
def sceneStep (s : Scene) (o : Json) : Decode (Except Halt (Json × Scene)) := do
  let number := (← optional o "number" (asBounded? 64) 0).toUInt64
  let ts ← optional o "timestamp_ms" asFloat? 0
  match ← need o "op" asStr? with
  | "frameset" => return (s.frameset number ts).map fun (fs, s) => (frames fs, s)
  | "motion" =>
    let (f, s) := s.motion (← needChoice o "stream" kindTable) number ts
    return .ok ((f.map frame).getD .null, s)
  | "pose" => return .ok (((s.pose number ts).map poseFrame).getD .null, s)
  | "domain" => return .ok (.str s.domain.tag, s)
  | other => throw s!"unknown scene op {other}"

/-- The answers to the steps `ops`, in order, or the first halt. -/
def sceneSteps (s : Scene) : List Json → Decode (Except Halt (List Json))
  | [] => pure (.ok [])
  | o :: rest => do
    match ← sceneStep s o with
    | .error h => return .error h
    | .ok (a, s) => return (← sceneSteps s rest).map (a :: ·)

/-- A scene request: the answers of its steps, the device's error for settings it refuses, or
the halt of a rendering. -/
def sceneAnswer (j : Json) : Decode Json := do
  let c ← readDeviceConfigIn j "config"
  let seed := (← optional j "stream_seed" (asBounded? 64) 0).toUInt64
  match Scene.create c seed with
  | .ok s => return match ← sceneSteps s (← optional j "ops" asArr? []) with
    | .ok answers => .arr answers
    | .error h => halt h
  | .error e => return deviceError e

end Data
end DepthBridge
