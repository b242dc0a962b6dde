import DepthBridge.Cli.Parse
import DepthBridge.Config.Load
import DepthBridge.Config.Write
import DepthBridge.Bridge.Session
import DepthBridge.Json.Value
import DepthBridge.Logging

/-!
# The commands

What the parsed command line asks for, and what each command prints and reports:

* `validate` loads a configuration file and prints whether it is valid, with a summary and
  warnings about settings that do nothing or do harm; an invalid file fails the command;
* `info` prints the configuration (the defaults without a file), optionally its whole filter
  list and the simulated camera's streams;
* `run` applies its overrides to the configuration and checks it; with `--dry-run` it prints
  the configuration as TOML, else it runs a bridge session and prints its summary.

Files are looked up in a `FileTree`; a path names a file or a directory of it.
-/

namespace DepthBridge
namespace Cli

/-! ## The parsed command line -/

/-- The options every command shares. -/
structure Globals where
  verbose : Nat
  quiet : Bool
  logFormat : LogFormat
  deriving Inhabited

/-- The options of `run`. -/
structure RunOptions where
  config : Option String
  cameraName : Option String
  uniteImuMethod : Option ImuSyncMethod
  alignDepth : Bool
  clipDistance : Option Float32
  tfPublishRate : Option Float
  durationSecs : Nat
  dryRun : Bool
  metricsPort : Nat
  deriving Inhabited

/-- The options of `validate`. -/
structure ValidateOptions where
  config : String
  json : Bool
  deriving Inhabited

/-- The options of `info`. -/
structure InfoOptions where
  config : Option String
  json : Bool
  filters : Bool
  streams : Bool
  deriving Inhabited

/-- A subcommand with its options. -/
inductive Invocation where
  | run (o : RunOptions)
  | validate (o : ValidateOptions)
  | info (o : InfoOptions)
  deriving Inhabited

namespace Invocation

/-- The subcommand's name. -/
def name : Invocation → String
  | .run _ => "run" | .validate _ => "validate" | .info _ => "info"

end Invocation

/-- A parsed command line. -/
structure CommandLine where
  globals : Globals
  invocation : Invocation
  deriving Inhabited

/-- The value matched for option `id`. -/
def valueOf? (ms : List Match) (id : String) : Option ArgValue := (ms.find? (·.arg.id == id)).map (·.value)

/-- The text matched for option `id`. -/
def textOf? (ms : List Match) (id : String) : Option String :=
  match valueOf? ms id with
  | some (.text s) => some s
  | _ => none

/-- Whether switch `id` is on. -/
def flagOf (ms : List Match) (id : String) : Bool :=
  match valueOf? ms id with
  | some (.flag b) => b
  | _ => false

/-- The number matched for option `id` (a count or a whole number). -/
def natOf (ms : List Match) (id : String) : Nat :=
  match valueOf? ms id with
  | some (.count n) => n
  | some (.nat n) => n
  | _ => 0

/-- The synchronisation method named on the command line. -/
def imuMethodOf : String → Option ImuSyncMethod
  | "none" => some .none
  | "copy" => some .copy
  | "linear-interpolation" => some .linearInterpolation
  | _ => none

/-- The log format named on the command line. -/
def logFormatOf : String → LogFormat
  | "json" => .json
  | "compact" => .compact
  | _ => .pretty

/-- The command line a parse describes. -/
def CommandLine.ofParsed (p : Parsed) : CommandLine :=
  let globals : Globals :=
    { verbose := natOf p.root "verbose", quiet := flagOf p.root "quiet"
      logFormat := logFormatOf ((textOf? p.root "log_format").getD "pretty") }
  let s := p.sub
  let invocation : Invocation := match p.subcommand with
    | "run" => .run
        { config := textOf? s "config", cameraName := textOf? s "camera_name"
          uniteImuMethod := (textOf? s "unite_imu_method").bind imuMethodOf
          alignDepth := flagOf s "align_depth"
          clipDistance := match valueOf? s "clip_distance" with
            | some (.single x) => some x
            | _ => none
          tfPublishRate := match valueOf? s "tf_publish_rate" with
            | some (.double x) => some x
            | _ => none
          durationSecs := natOf s "duration", dryRun := flagOf s "dry_run", metricsPort := natOf s "metrics_port" }
    | "validate" => .validate { config := (textOf? s "config").getD "bridge.toml", json := flagOf s "json" }
    | _ => .info { config := textOf? s "config", json := flagOf s "json", filters := flagOf s "filters"
                   streams := flagOf s "streams" }
  { globals, invocation }

/-! ## Files and configurations -/

/-- The configuration at `path`, or the defaults without one. -/
def loadConfig (files : FileTree) : Option String → Except Report DriverConfig
  | none => .ok {}
  | some path =>
    if !FileTree.present files path then .error (.plain ("Configuration file not found: " ++ path))
    else match DriverConfig.loadFile files path with
      | .ok c => .ok c
      | .error e => .error ((Report.ofContract e).context ("Failed to load config from " ++ path))

/-- The names of the enabled filter stages, in order. -/
def enabledFilters (c : DriverConfig) : List String := (c.filters.filter (·.enabled)).map (·.name.name)

/-- A single as a JSON number, or `null` when it is not finite. -/
def jsonSingle (x : Float32) : Json := if x.isNaN || x.isInf then .null else .single x

/-- A double as a JSON number, or `null` when it is not finite. -/
def jsonDouble (x : Float) : Json := if x.isNaN || x.isInf then .null else .double x

/-! ## validate -/

/-- The outcome of checking a configuration file. -/
structure Validation where
  valid : Bool
  path : String
  error : Option String := none
  warnings : List String := []
  config : Option DriverConfig := none

/-- Settings that are accepted but do nothing or do harm. -/
def warningsOf (c : DriverConfig) : List String :=
  (if !c.publishTf && c.tfPublishRate > 0 then ["tf_publish_rate is ignored while publish_tf is false"] else [])
  ++ (if c.clipDistance > 0 && c.clipDistance < 0.1 then
        ["clip_distance " ++ Decimal.Style.plain.single c.clipDistance ++ " m removes nearly all depth"] else [])
  ++ (if c.filterEnabled .pointcloud && c.pointcloud.textureStream == .infrared && !c.device.enableInfrared then
        ["point cloud textured by infrared but the device has infrared disabled"] else [])
  ++ (let n := c.filters.length
      let all := StageTag.canonical.length
      if n < all then [toString (all - n) ++ " of " ++ toString all
        ++ " filter stages not listed; they cannot be toggled at runtime"] else [])

/-- Checks the configuration file at `path`. -/
def validation (files : FileTree) (path : String) : Validation :=
  if !FileTree.present files path then { valid := false, path, error := some ("File not found: " ++ path) }
  else match DriverConfig.loadFile files path with
    | .ok c => { valid := true, path, warnings := warningsOf c, config := some c }
    | .error e => { valid := false, path, error := some e.message }

/-- The check as JSON. -/
def Validation.json (v : Validation) : Json :=
  .obj ([("valid", .bool v.valid), ("config_path", .str v.path)]
    ++ (match v.error with
        | some e => [("error", .str e)]
        | none => [])
    ++ (if v.warnings.isEmpty then [] else [("warnings", .arr (v.warnings.map .str))])
    ++ (match v.config with
        | some c => [("summary", .obj [("camera_name", .str c.cameraName),
            ("unite_imu_method", .str c.uniteImuMethod.label), ("align_depth", .bool c.alignDepth),
            ("clip_distance", jsonSingle c.clipDistance), ("publish_tf", .bool c.publishTf),
            ("tf_publish_rate", jsonDouble c.tfPublishRate),
            ("filters", .arr ((enabledFilters c).map .str))])]
        | none => []))

/-- The check as text. -/
def Validation.text (v : Validation) : String :=
  if v.valid then
    "✓ Configuration is valid: " ++ v.path ++ "\n"
      ++ (match v.config with
          | some c =>
            "\n  Camera: " ++ c.cameraName ++ "\n"
              ++ "  IMU sync: " ++ c.uniteImuMethod.label ++ "\n"
              ++ "  Align depth: " ++ toString c.alignDepth ++ "\n"
              ++ "  Clip distance: " ++ Decimal.Style.plain.single c.clipDistance ++ "\n"
              ++ "  TF: " ++ toString c.publishTf ++ " (" ++ Decimal.Style.plain.double c.tfPublishRate ++ " Hz)\n"
              ++ "  Filters: [" ++ ", ".intercalate ((enabledFilters c).map Text.quoted) ++ "]\n"
          | none => "")
      ++ (if v.warnings.isEmpty then ""
          else "\n⚠ Warnings:\n" ++ String.join (v.warnings.map fun w => "  - " ++ w ++ "\n"))
  else
    "✗ Configuration is invalid: " ++ v.path ++ "\n"
      ++ (match v.error with
          | some e => "\n  Error: " ++ e ++ "\n"
          | none => "")

/-- What a command printed and how it ended. -/
structure Outcome where
  stdout : String := ""
  result : Except Report Unit := .ok ()
  deriving Inhabited

/-- The `validate` command. -/
def runValidate (files : FileTree) (o : ValidateOptions) : Outcome :=
  let v := validation files o.config
  { stdout := if o.json then v.json.pretty ++ "\n" else v.text
    result := if v.valid then .ok () else .error (.plain "Configuration validation failed") }

/-! ## info -/

/-- The box heading a printed page. -/
def boxed (title : String) : String :=
  "╔══════════════════════════════════════════════════════════════╗\n"
    ++ title ++ "\n"
    ++ "╚══════════════════════════════════════════════════════════════╝\n"

/-- Tree rows: every entry but the last behind a branch, the last behind a corner. -/
def treeRows (rows : List String) : String :=
  String.join (rows.zipIdx.map fun (r, i) =>
    "   " ++ (if i + 1 == rows.length then "└─" else "├─") ++ " " ++ r ++ "\n")

/-- The information page as text. -/
def infoText (c : DriverConfig) (o : InfoOptions) (streams : List Profile) : String :=
  let enabled := c.filters.filter (·.enabled)
  let shown := if o.filters then c.filters else enabled
  boxed "║               rs-bridge Configuration                        ║" ++ "\n"
    ++ "📷 Camera: " ++ c.cameraName ++ "\n"
    ++ "\n🧭 IMU\n"
    ++ "   ├─ Sync method: " ++ c.uniteImuMethod.label ++ "\n"
    ++ "   ├─ Queue capacity: " ++ toString c.imuQueueCapacity.toNat ++ "\n"
    ++ "   └─ Covariance: accel " ++ Decimal.Style.plain.double c.imu.linearAccelCov ++ " / gyro "
      ++ Decimal.Style.plain.double c.imu.angularVelocityCov ++ "\n"
    ++ "\n📏 Depth\n"
    ++ (if c.clipDistance > 0 then "   ├─ Clip distance: " ++ Decimal.Style.plain.single c.clipDistance ++ " m\n"
        else "   ├─ Clip distance: disabled\n")
    ++ "   └─ Aligned depth: " ++ toString c.alignDepth ++ "\n"
    ++ "\n⚙️  Transforms\n"
    ++ "   ├─ Publish TF: " ++ toString c.publishTf ++ "\n"
    ++ (if c.tfPublishRate > 0 then "   ├─ Republish: " ++ Decimal.Style.plain.double c.tfPublishRate ++ " Hz\n"
        else "   ├─ Republish: static only\n")
    ++ "   └─ Odom TF: " ++ toString c.publishOdomTf ++ "\n"
    ++ "\n🔧 Filters (" ++ toString enabled.length ++ " enabled)\n"
    ++ treeRows (shown.map fun f => f.name.name ++ " (" ++ (if f.enabled then "on" else "off") ++ ")")
    ++ (if streams.isEmpty then ""
        else "\n📡 Streams (" ++ toString streams.length ++ ")\n"
          ++ treeRows (streams.map fun p =>
            if p.width > 0 then
              p.key.name ++ " (" ++ p.format.label ++ ", " ++ toString p.width.toNat ++ "x" ++ toString p.height.toNat
                ++ " @ " ++ toString p.fps.toNat ++ " Hz)"
            else p.key.name ++ " (" ++ p.format.label ++ ", " ++ toString p.fps.toNat ++ " Hz)"))
    ++ "\n"

/-- The information page as JSON. -/
def infoJson (c : DriverConfig) (o : InfoOptions) (streams : List Profile) : Json :=
  .obj ([("camera_name", .str c.cameraName),
    ("imu", .obj [("unite_imu_method", .str c.uniteImuMethod.label), ("queue_capacity", .nat c.imuQueueCapacity.toNat),
      ("linear_accel_cov", jsonDouble c.imu.linearAccelCov), ("angular_velocity_cov", jsonDouble c.imu.angularVelocityCov)]),
    ("depth", .obj [("clip_distance", jsonSingle c.clipDistance), ("align_depth", .bool c.alignDepth)]),
    ("tf", .obj [("publish_tf", .bool c.publishTf), ("tf_publish_rate", jsonDouble c.tfPublishRate),
      ("publish_odom_tf", .bool c.publishOdomTf)])]
    ++ (if o.filters && !c.filters.isEmpty then
          [("filters", .arr (c.filters.map fun f => .obj [("name", .str f.name.name), ("enabled", .bool f.enabled)]))]
        else [])
    ++ (if streams.isEmpty then [] else
          [("streams", .arr (streams.map fun p => .obj [("name", .str p.key.name), ("format", .str p.format.label),
            ("width", .nat p.width.toNat), ("height", .nat p.height.toNat), ("fps", .nat p.fps.toNat)]))]))

/-- The `info` command. -/
def runInfo (files : FileTree) (o : InfoOptions) : Outcome :=
  match loadConfig files o.config with
  | .error r => { result := .error r }
  | .ok c =>
    let streams : Except Report (List Profile) :=
      if o.streams then
        match Device.simulated c.device with
        | .ok d => .ok d.profiles
        | .error e => .error ⟨["Failed to create simulated device", e.message]⟩
      else .ok []
    match streams with
    | .error r => { result := .error r }
    | .ok ps => { stdout := if o.json then (infoJson c o ps).pretty ++ "\n" else infoText c o ps }

/-! ## run -/

/-- The configuration of `run`: the file's (or the defaults), with the command line's
overrides, checked. -/
def runConfig (files : FileTree) (o : RunOptions) : Except Report DriverConfig := do
  let c ← loadConfig files o.config
  let c := match o.cameraName with
    | some n => { c with cameraName := n }
    | none => c
  let c := match o.uniteImuMethod with
    | some m => { c with uniteImuMethod := m }
    | none => c
  let c := if o.alignDepth then { c with alignDepth := true } else c
  let c := match o.clipDistance with
    | some d => { c with clipDistance := d }
    | none => c
  let c := match o.tfPublishRate with
    | some r => { c with tfPublishRate := r }
    | none => c
  match c.validate with
  | .ok () => return c
  | .error e => throw ((Report.ofContract e).context "Invalid configuration")

/-- The `run` command with `--dry-run`: the checked configuration as TOML. -/
def runDry (files : FileTree) (o : RunOptions) : Outcome :=
  match runConfig files o with
  | .ok c => { stdout := c.toToml ++ "\n" }
  | .error r => { result := .error r }

/-- The `run` command streaming for its duration: the session's printed summary, or why it
failed; a halt of the session is passed on. -/
def runSessionCommand (files : FileTree) (o : RunOptions) : Except Halt Outcome :=
  match runConfig files o with
  | .error r => .ok { result := .error r }
  | .ok c =>
    let durationNs := if o.durationSecs > 0 then some (o.durationSecs * 1000000000) else none
    match Session.run { driver := c, durationNs } with
    | .error h => .error h
    | .ok (.ok summary) => .ok { stdout := summary.text }
    | .ok (.error r) => .ok { result := .error (r.context "Bridge execution failed") }

end Cli
end DepthBridge
