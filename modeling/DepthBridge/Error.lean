import DepthBridge.Stream

/-!
# Errors

Each layer of the bridge has its own error type; an error of a lower layer is carried inside
as a cause. Every error has a message, and a *kind*: its type and the path of variants down to
the innermost one (`DispatcherError.Sync.QueueOverflow`).

The contract errors are the ones every layer shares. Errors of the inertial gate, of the
transform tree and of the simulated device also convert back into contract errors
(`toContract`): an overflowing gate becomes a buffer overflow, a missing base stream stays one,
an unusable device setting becomes a validation error.
-/

namespace DepthBridge

/-- Errors shared by every layer. -/
inductive ContractError where
  | configParse (message : String) (cause : Option String)
  | configValidation (field message : String)
  | device (message : String)
  | extrinsicsUnavailable (source target : String)
  | motionIntrinsicsUnavailable (stream : String)
  | optionUnsupported (option : String)
  | payloadParse (stream message : String)
  | unsupportedFormat (stream : String) (bpp : Nat)
  | bufferOverflow (channel : String) (depth max : Nat)
  | noBaseStream
  | publish (channel message : String)
  | io (detail : String)
  | other (message : String)
  deriving Repr, Inhabited

namespace ContractError

/-- The variant's name. -/
def variant : ContractError → String
  | .configParse .. => "ConfigParse"
  | .configValidation .. => "ConfigValidation"
  | .device .. => "Device"
  | .extrinsicsUnavailable .. => "ExtrinsicsUnavailable"
  | .motionIntrinsicsUnavailable .. => "MotionIntrinsicsUnavailable"
  | .optionUnsupported .. => "OptionUnsupported"
  | .payloadParse .. => "PayloadParse"
  | .unsupportedFormat .. => "UnsupportedFormat"
  | .bufferOverflow .. => "BufferOverflow"
  | .noBaseStream => "NoBaseStream"
  | .publish .. => "Publish"
  | .io .. => "Io"
  | .other .. => "Other"

/-- The error's message. -/
def message : ContractError → String
  | .configParse m _ => s!"config parse error: {m}"
  | .configValidation f m => s!"config validation error at '{f}': {m}"
  | .device m => s!"device error: {m}"
  | .extrinsicsUnavailable a b => s!"extrinsics not available from '{a}' to '{b}'"
  | .motionIntrinsicsUnavailable s => s!"motion intrinsics not available for '{s}'"
  | .optionUnsupported o => s!"option '{o}' is not supported by the device"
  | .payloadParse s m => s!"payload parse error for stream '{s}': {m}"
  | .unsupportedFormat s b => s!"unsupported format for stream '{s}': {b} bytes per pixel"
  | .bufferOverflow c d m => s!"buffer overflow for '{c}': depth={d}, max={m}"
  | .noBaseStream => "no known base_stream found for transformations"
  | .publish c m => s!"publish on '{c}' failed: {m}"
  | .io d => s!"io error: {d}"
  | .other m => m

/-- The messages of the error's causes, outermost first. -/
def causes : ContractError → List String
  | .configParse _ (some c) => [c]
  | .io d => [d]
  | _ => []

/-- The kind of the error. -/
def kind (e : ContractError) : String := "ContractError." ++ e.variant

end ContractError

/-- Errors of the gate in front of the combined inertial channel. -/
inductive SyncError where
  | queueOverflow (sink : String) (depth max : Nat)
  | contract (e : ContractError)
  deriving Repr, Inhabited

namespace SyncError

/-- The error's message. -/
def message : SyncError → String
  | .queueOverflow s d m => s!"queue overflow on '{s}': depth={d}, max={m}"
  | .contract e => s!"contract error: {e.message}"

/-- The variant path below the type name. -/
def path : SyncError → String
  | .queueOverflow .. => "QueueOverflow"
  | .contract e => "Contract." ++ e.variant

/-- The kind of the error. -/
def kind (e : SyncError) : String := "SyncError." ++ e.path

/-- The contract error it stands for: an overflow is a buffer overflow of the gate. -/
def toContract : SyncError → ContractError
  | .queueOverflow s d m => .bufferOverflow s d m
  | .contract e => e

end SyncError

/-- Errors of the calibration registry. -/
inductive CalibrationError where
  | missingIntrinsics (stream : String)
  | notCalibrated (stream : String)
  | contract (e : ContractError)
  deriving Repr, Inhabited

namespace CalibrationError

/-- The error's message. -/
def message : CalibrationError → String
  | .missingIntrinsics s => s!"stream '{s}' has no intrinsics"
  | .notCalibrated s => s!"stream '{s}' is not calibrated yet"
  | .contract e => s!"contract error: {e.message}"

/-- The variant path below the type name. -/
def path : CalibrationError → String
  | .missingIntrinsics .. => "MissingIntrinsics"
  | .notCalibrated .. => "NotCalibrated"
  | .contract e => "Contract." ++ e.variant

/-- The kind of the error. -/
def kind (e : CalibrationError) : String := "CalibrationError." ++ e.path

end CalibrationError

/-- Errors of the transform tree. -/
inductive TransformError where
  | noBaseStream
  | contract (e : ContractError)
  deriving Repr, Inhabited

namespace TransformError

/-- The error's message. -/
def message : TransformError → String
  | .noBaseStream => "No known base_stream found for transformations."
  | .contract e => s!"contract error: {e.message}"

/-- The variant path below the type name. -/
def path : TransformError → String
  | .noBaseStream => "NoBaseStream"
  | .contract e => "Contract." ++ e.variant

/-- The kind of the error. -/
def kind (e : TransformError) : String := "TransformError." ++ e.path

/-- The contract error it stands for. -/
def toContract : TransformError → ContractError
  | .noBaseStream => .noBaseStream
  | .contract e => e

end TransformError

/-- Errors of the frame dispatcher, with the layer they come from. -/
inductive DispatchError where
  | unexpectedSample (stream : String)
  | sync (e : SyncError)
  | calibration (e : CalibrationError)
  | transform (e : TransformError)
  | contract (e : ContractError)
  deriving Repr, Inhabited

namespace DispatchError

/-- The error's message. -/
def message : DispatchError → String
  | .unexpectedSample s => s!"unexpected sample from stream '{s}'"
  | .sync e => s!"imu path: {e.message}"
  | .calibration e => s!"calibration: {e.message}"
  | .transform e => s!"transforms: {e.message}"
  | .contract e => s!"contract error: {e.message}"

/-- The variant path below the type name. -/
def path : DispatchError → String
  | .unexpectedSample .. => "UnexpectedSample"
  | .sync e => "Sync." ++ e.path
  | .calibration e => "Calibration." ++ e.path
  | .transform e => "Transform." ++ e.path
  | .contract e => "Contract." ++ e.variant

/-- The kind of the error. -/
def kind (e : DispatchError) : String := "DispatcherError." ++ e.path

end DispatchError

/-- Errors of the simulated device. -/
inductive DeviceError where
  | invalidConfig (field message : String)
  | contract (e : ContractError)
  deriving Repr, Inhabited

namespace DeviceError

/-- The error's message; a contract error speaks for itself. -/
def message : DeviceError → String
  | .invalidConfig f m => s!"invalid device setting '{f}': {m}"
  | .contract e => e.message

/-- The variant path below the type name. -/
def path : DeviceError → String
  | .invalidConfig .. => "InvalidConfig"
  | .contract e => "Contract." ++ e.variant

/-- The kind of the error. -/
def kind (e : DeviceError) : String := "DeviceError." ++ e.path

/-- The contract error it stands for: an unusable setting is a validation error. -/
def toContract : DeviceError → ContractError
  | .invalidConfig f m => .configValidation f m
  | .contract e => e

end DeviceError

/-- An error reported at the top of a command: its message and the messages of its causes,
outermost first (the first is the message itself). -/
structure Report where
  chain : List String
  deriving Repr, Inhabited

namespace Report

/-- A report with a single message. -/
def plain (message : String) : Report := ⟨[message]⟩

/-- A report of a contract error, with its causes. -/
def ofContract (e : ContractError) : Report := ⟨e.message :: e.causes⟩

/-- The report wrapped in an outer context message. -/
def context (outer : String) (r : Report) : Report := ⟨outer :: r.chain⟩

/-- The top-level message. -/
def message (r : Report) : String := r.chain.headD ""

end Report

end DepthBridge
