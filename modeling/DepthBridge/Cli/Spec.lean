/-!
# The command line, as data

The bridge's command line is described once, as data: a root command with the options that
every subcommand shares, and three subcommands (`run`, `validate`, `info`). The parser, the
help pages and the error messages all read this description.

An option is named by a long name and perhaps a one-letter short name; it is a switch, a
counter, or takes one value read by a value kind. It may fall back on an environment variable
and on a default. Help pages list options by their display rank, then by name; the help and
version switches come last.
-/

namespace DepthBridge
namespace Cli

/-- What an option does when it is given. -/
inductive ArgAction where
  /-- Takes one value. -/
  | set
  /-- A switch. -/
  | setTrue
  /-- Counts how often it is given. -/
  | count
  /-- Prints the help page. -/
  | help
  /-- Prints the version. -/
  | version
  deriving DecidableEq, Repr, Inhabited

/-- How an option's value is read. -/
inductive ValueKind where
  /-- A path: any nonempty text. -/
  | path
  /-- Any text. -/
  | text
  /-- One of the named values, each perhaps with its own help. -/
  | choice (values : List (String × String))
  /-- A whole number in `0 ..= max`, read as a signed 64-bit number first. -/
  | bounded (max : Nat)
  /-- An unsigned 64-bit number. -/
  | unsigned
  /-- A single-precision float. -/
  | single
  /-- A double-precision float. -/
  | double
  /-- No value. -/
  | none
  deriving Repr, Inhabited

/-- One option of a command. -/
structure ArgSpec where
  id : String
  short : Option Char := Option.none
  long : String
  action : ArgAction
  value : ValueKind := .none
  valueName : String := ""
  help : String := ""
  longHelp : Option String := Option.none
  env : Option String := Option.none
  default : Option String := Option.none
  global : Bool := false
  conflicts : List String := []
  /-- The display rank; options without one come last. -/
  rank : Nat := 999
  deriving Repr, Inhabited

namespace ArgSpec

/-- Whether the option takes a value. -/
def takesValue (a : ArgSpec) : Bool := a.action == .set

/-- The names of its choices, if it has any. -/
def choiceNames (a : ArgSpec) : List String :=
  match a.value with
  | .choice vs => vs.map (·.1)
  | _ => []

/-- Whether some choice has its own help. -/
def choicesHaveHelp (a : ArgSpec) : Bool :=
  match a.value with
  | .choice vs => vs.any (·.2 != "")
  | _ => false

/-- How the option is named in messages: its long name (or its short one), then its value
placeholder, or `...` for a counter. -/
def display (a : ArgSpec) : String :=
  let name := if a.long != "" then "--" ++ a.long
    else match a.short with
      | some c => "-" ++ String.singleton c
      | Option.none => ""
  let suffix := if a.takesValue then " <" ++ a.valueName ++ ">"
    else if a.action == .count then "..." else ""
  name ++ suffix

/-- The sort key of the option in help pages: its short letter (lower case, then a mark for
the case), else its long name. -/
def sortKey (a : ArgSpec) : String :=
  match a.short with
  | some c => String.singleton c.toLower ++ (if c.isLower then "0" else "1")
  | Option.none => a.long

end ArgSpec

/-- A command: its name as written in usage lines, its descriptions and its options. -/
structure CommandSpec where
  /-- The name as it appears in usage lines (`rs-bridge run`). -/
  path : String
  /-- The name the user types. -/
  name : String
  about : String
  longAbout : Option String := Option.none
  args : List ArgSpec
  /-- The subcommands, by name and description (the root's only). -/
  subcommands : List (String × String) := []
  deriving Repr, Inhabited

namespace CommandSpec

/-- The option with id `id`. -/
def find? (c : CommandSpec) (id : String) : Option ArgSpec := c.args.find? (·.id == id)

/-- The option with long name `l`. -/
def findLong? (c : CommandSpec) (l : String) : Option ArgSpec := c.args.find? (·.long == l)

/-- The option with short name `s`. -/
def findShort? (c : CommandSpec) (s : Char) : Option ArgSpec := c.args.find? (·.short == some s)

/-- Whether the command has subcommands. -/
def hasSubcommands (c : CommandSpec) : Bool := !c.subcommands.isEmpty

end CommandSpec

/-- The program's name. -/
def binName : String := "rs-bridge"

/-- The program's version. -/
def version : String := "0.1.0"

/-- The log format option's values and their help. -/
def logFormats : List (String × String) :=
  [("json", "JSON structured logging"), ("pretty", "Human-readable pretty format"),
   ("compact", "Compact single-line format")]

/-- The options every command shares. -/
def globalArgs : List ArgSpec :=
  [{ id := "verbose", short := some 'v', long := "verbose", action := .count, value := .bounded 255
     help := "Increase logging verbosity (-v for debug, -vv for trace)", env := some "RS_BRIDGE_VERBOSE"
     global := true, rank := 0 },
   { id := "quiet", short := some 'q', long := "quiet", action := .setTrue
     help := "Suppress all output except warnings and errors", global := true, conflicts := ["verbose"]
     rank := 1 },
   { id := "log_format", long := "log-format", action := .set, value := .choice logFormats
     valueName := "LOG_FORMAT", help := "Log output format", env := some "RS_BRIDGE_LOG_FORMAT"
     default := some "pretty", global := true, rank := 2 }]

/-- The help switch. -/
def helpArg : ArgSpec :=
  { id := "help", short := some 'h', long := "help", action := .help
    help := "Print help (see more with '--help')", longHelp := some "Print help (see a summary with '-h')" }

/-- The version switch (the root's only). -/
def versionArg : ArgSpec :=
  { id := "version", short := some 'V', long := "version", action := .version, help := "Print version" }

/-- The root command. -/
def rootSpec : CommandSpec :=
  { path := binName, name := binName, about := "Depth camera to message bus bridge"
    longAbout := some ("Streams a (simulated) depth camera onto a message bus.\n\n"
      ++ "Publishes images with camera info, synchronised IMU, odometry, \n"
      ++ "point clouds and the static transform tree of the rig.")
    args := globalArgs ++ [helpArg, versionArg]
    subcommands := [("run", "Run the bridge against the simulated device"),
      ("validate", "Validate a configuration file without running"),
      ("info", "Display configuration information"),
      ("help", "Print this message or the help of the given subcommand(s)")] }

/-- A subcommand with its own options, then the shared ones, then the help switch. -/
def subcommand (name about : String) (own : List ArgSpec) : CommandSpec :=
  { path := binName ++ " " ++ name, name, about, args := own ++ globalArgs ++ [helpArg] }

/-- The `run` subcommand. -/
def runSpec : CommandSpec :=
  subcommand "run" "Run the bridge against the simulated device"
    [{ id := "config", short := some 'c', long := "config", action := .set, value := .path, valueName := "CONFIG"
       help := "Path to configuration file (TOML or JSON); defaults apply when omitted"
       env := some "RS_BRIDGE_CONFIG", rank := 0 },
     { id := "camera_name", long := "camera-name", action := .set, value := .text, valueName := "CAMERA_NAME"
       help := "Override the camera name (frame id prefix)", env := some "RS_BRIDGE_CAMERA_NAME", rank := 1 },
     { id := "unite_imu_method", long := "unite-imu-method", action := .set
       value := .choice [("none", ""), ("copy", ""), ("linear-interpolation", "")]
       valueName := "UNITE_IMU_METHOD", help := "Override the IMU synchronisation method", rank := 2 },
     { id := "align_depth", long := "align-depth", action := .setTrue
       help := "Publish depth aligned to the other streams", rank := 3 },
     { id := "clip_distance", long := "clip-distance", action := .set, value := .single
       valueName := "CLIP_DISTANCE", help := "Override the depth clipping distance in meters", rank := 4 },
     { id := "tf_publish_rate", long := "tf-publish-rate", action := .set, value := .double
       valueName := "TF_PUBLISH_RATE", help := "Override the TF republish rate in Hz (0 = static only)", rank := 5 },
     { id := "duration", long := "duration", action := .set, value := .unsigned, valueName := "DURATION"
       help := "Run time in seconds (0 = until Ctrl+C)", env := some "RS_BRIDGE_DURATION", default := some "0"
       rank := 6 },
     { id := "dry_run", long := "dry-run", action := .setTrue
       help := "Validate configuration and exit without streaming", rank := 7 },
     { id := "metrics_port", long := "metrics-port", action := .set, value := .bounded 65535
       valueName := "METRICS_PORT", help := "Metrics server port (0 = disabled)"
       env := some "RS_BRIDGE_METRICS_PORT", default := some "0", rank := 8 }]

/-- The `validate` subcommand. -/
def validateSpec : CommandSpec :=
  subcommand "validate" "Validate a configuration file without running"
    [{ id := "config", short := some 'c', long := "config", action := .set, value := .path, valueName := "CONFIG"
       help := "Path to configuration file to validate", default := some "bridge.toml", rank := 0 },
     { id := "json", long := "json", action := .setTrue, help := "Output validation result as JSON", rank := 1 }]

/-- The `info` subcommand. -/
def infoSpec : CommandSpec :=
  subcommand "info" "Display configuration information"
    [{ id := "config", short := some 'c', long := "config", action := .set, value := .path, valueName := "CONFIG"
       help := "Path to configuration file; defaults apply when omitted", rank := 0 },
     { id := "json", long := "json", action := .setTrue, help := "Output as JSON", rank := 1 },
     { id := "filters", long := "filters", action := .setTrue
       help := "Show the filter list including disabled stages", rank := 2 },
     { id := "streams", long := "streams", action := .setTrue, help := "Show the simulated device streams", rank := 3 }]

/-- The `help` subcommand: it prints the help page of the subcommands named after it, and
takes no options. -/
def helpSpec : CommandSpec :=
  { path := binName ++ " help", name := "help"
    about := "Print this message or the help of the given subcommand(s)", args := [] }

/-- The subcommand named `name`. -/
def subcommandSpec? (name : String) : Option CommandSpec :=
  [runSpec, validateSpec, infoSpec, helpSpec].find? (·.name == name)

end Cli
end DepthBridge
