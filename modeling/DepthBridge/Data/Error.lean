import DepthBridge.Error
import DepthBridge.Halt
import DepthBridge.Json.Value

/-!
# Errors as JSON

An error is reported as `{error, message}`: the error's kind (its type and the path of variants
down to the innermost one) and its message. A halted operation is of kind `panic`; a report of
the command line also lists its chain of causes.
-/

namespace DepthBridge
namespace Data

/-- An error of the given kind and message. -/
def failure (kind message : String) : Json :=
  .obj [("error", .str kind), ("message", .str message)]

/-- A contract error. -/
def contractError (e : ContractError) : Json := failure e.kind e.message

/-- A gate error. -/
def syncError (e : SyncError) : Json := failure e.kind e.message

/-- A calibration error. -/
def calibrationError (e : CalibrationError) : Json := failure e.kind e.message

/-- A transform error. -/
def transformError (e : TransformError) : Json := failure e.kind e.message

/-- A dispatcher error. -/
def dispatchError (e : DispatchError) : Json := failure e.kind e.message

/-- A device error. -/
def deviceError (e : DeviceError) : Json := failure e.kind e.message

/-- A halted operation. -/
def halt (h : Halt) : Json := failure "panic" h.message

/-- A command-line report with its chain of causes. -/
def report (r : Report) : Json :=
  .obj [("error", .str "anyhow"), ("message", .str r.message),
    ("chain", .arr (r.chain.map .str))]

/-- `{ok: value}`. -/
def ok (j : Json) : Json := .obj [("ok", j)]

end Data
end DepthBridge
