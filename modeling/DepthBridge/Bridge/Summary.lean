import DepthBridge.Stats.Running
import DepthBridge.Dispatch.Metrics

/-!
# Run summaries

What one run of the bridge did: its wall time, the samples the device delivered, the
dispatcher's counters with a summary of frameset latencies, and the message count of each bus
channel. The frame rate is processed framesets per second of wall time, and the failure rate
the failed share of all framesets, in percent; both are zero when there is nothing to divide
by.
-/

namespace DepthBridge

/-- The statistics of one run. -/
structure RunSummary where
  durationNs : Nat := 0
  samplesEmitted : Nat := 0
  metrics : Metrics := {}
  latency : StatsSummary Float := StatsSummary.ofStats RunningStats.empty
  channels : List (String × Nat) := []
  deriving Inhabited

namespace RunSummary

/-- The wall time in seconds: whole seconds plus the nanoseconds' fraction. -/
def seconds (r : RunSummary) : Float :=
  (r.durationNs / 1000000000).toFloat + (r.durationNs % 1000000000).toFloat / 1e9

/-- Processed framesets per second. -/
def fps (r : RunSummary) : Float :=
  if r.seconds > 0 then r.metrics.framesetsProcessed.toFloat / r.seconds else 0

/-- Failed framesets, in percent of all. -/
def failureRate (r : RunSummary) : Float :=
  let total := r.metrics.framesetsProcessed + r.metrics.framesetsFailed
  if total > 0 then r.metrics.framesetsFailed.toFloat / total.toFloat * 100 else 0

/-- The printed summary. -/
def text (r : RunSummary) : String :=
  let m := r.metrics
  let f := Decimal.fixed 2
  let channels :=
    if r.channels.isEmpty then ""
    else "\n📡 Channels\n" ++ String.join (r.channels.zipIdx.map fun ((c, n), i) =>
      "   " ++ (if i + 1 == r.channels.length then "└─" else "├─") ++ " " ++ c ++ ": " ++ toString n ++ "\n")
  "\n╔══════════════════════════════════════════════════════════════╗\n"
    ++ "║                    Bridge Statistics                         ║\n"
    ++ "╚══════════════════════════════════════════════════════════════╝\n\n"
    ++ "📊 Overview\n"
    ++ "   ├─ Duration: " ++ f r.seconds ++ "s\n"
    ++ "   ├─ Samples received: " ++ toString r.samplesEmitted ++ "\n"
    ++ "   ├─ Framesets: " ++ toString m.framesetsProcessed ++ " (" ++ f r.fps ++ " fps)\n"
    ++ "   └─ Failed framesets: " ++ toString m.framesetsFailed ++ " (" ++ f r.failureRate ++ "%)\n"
    ++ "\n📤 Published\n"
    ++ "   ├─ Frames: " ++ toString m.framesPublished ++ "\n"
    ++ "   ├─ IMU: " ++ toString m.imuPublished ++ "\n"
    ++ "   ├─ Poses: " ++ toString m.posesPublished ++ "\n"
    ++ "   ├─ Skipped (no subscribers): " ++ toString m.samplesSkipped ++ "\n"
    ++ "   └─ Frameset latency (ms): " ++ r.latency.text ++ "\n"
    ++ channels ++ "\n"

end RunSummary
end DepthBridge
