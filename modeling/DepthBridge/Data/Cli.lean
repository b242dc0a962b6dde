import DepthBridge.Cli.Program
import DepthBridge.Data.Device
import DepthBridge.Data.Error

/-!
# Command-line and session requests

A command request parses a command line (with a directory of files and environment variables)
and runs the command, reporting the parse, the command's report and what it printed. A program
request runs the whole program and reports its exit status and both outputs. A session request
runs a bridge session and reports the channels it published once while starting.
-/

namespace DepthBridge
namespace Data

open Json

/-- The files of field `files`, by relative path. -/
def readFileTree (j : Json) : Decode FileTree := do
  let entries ← optional j "files" asObj? []
  entries.mapM fun (k, v) => match v with
    | .str s => pure (k, s)
    | _ => throw "file content must be a string"

/-- The words of field `args`. -/
def readWords (j : Json) : Decode (List String) := do
  let items ← need j "args" asArr?
  items.mapM fun w => match w with
    | .str s => pure s
    | _ => throw "arguments must be strings"

/-- The variables of field `env`. -/
def readEnv (j : Json) : Decode Cli.Env := do
  let entries ← optional j "env" asObj? []
  entries.mapM fun (k, v) => match v with
    | .str s => pure (k, s)
    | _ => throw "environment values must be strings"

/-- The lines of a printed text, without the empty line after its last line break. -/
def printedLines (s : String) : List String :=
  let parts := s.splitOn "\n"
  if parts.getLast? == some "" then parts.dropLast else parts

/-- A command's ending: success, or its report. -/
def commandResult (r : Except Report Unit) : Json :=
  match r with
  | .ok () => .obj [("ok", .bool true)]
  | .error e => report e

/-- A command request. -/
def commandAnswer (j : Json) : Decode Json := do
  let words ← readWords j
  let files ← readFileTree j
  let env ← readEnv j
  match Cli.parse env words with
  | .error e =>
    return .obj [("parse_error", .obj [("kind", .str e.kind.name), ("exit_code", .nat e.kind.exitCode),
      ("message", .str e.message)])]
  | .ok p =>
    let cl := Cli.CommandLine.ofParsed p
    let parsed := Json.obj [("verbose", .nat cl.globals.verbose), ("quiet", .bool cl.globals.quiet),
      ("log_format", .str cl.globals.logFormat.label)]
    let answer := fun (out : Cli.Outcome) (stdout : Json) => Json.obj [("parsed", parsed),
      ("command", .str cl.invocation.name), ("result", commandResult out.result), ("stdout", stdout)]
    match cl.invocation with
    | .run o =>
      if o.dryRun then
        let out := Cli.runDry files o
        return answer out (.str out.stdout)
      else
        if o.durationSecs = 0 then throw "run needs a duration"
        if o.metricsPort ≠ 0 then throw "run with a metrics port"
        match Cli.runSessionCommand files o with
        | .error h => return halt h
        | .ok out =>
          return answer out (.obj [("summary_head", .arr (((printedLines out.stdout).take 6).map .str))])
    | inv =>
      match Cli.execute files inv with
      | .ok out => return answer out (.str out.stdout)
      | .error h => return halt h

/-- A program request: the exit status and both outputs of a whole run. -/
def programAnswer (j : Json) : Decode Json := do
  let words ← readWords j
  let files ← readFileTree j
  let r := Cli.runProgram words [] files
  return .obj [("status", .nat r.status), ("stdout", .str r.stdout), ("stderr", .str r.stderr)]

/-- A session request: the channels published once while the session started, with their
counts. -/
def sessionAnswer (j : Json) : Decode Json := do
  let config : Except ContractError DriverConfig ← match j.field? "config_toml", j.field? "config" with
    | some (.str text), _ => pure (DriverConfig.load text .toml)
    | _, some c => Except.ok <$> readDriverConfig c
    | _, none => pure (.ok {})
  let durationMs := (j.field? "duration_ms").bind asNat?
  match ← optional j "shutdown" asStr? "ready" with
  | "ready" => pure ()
  | "pending" => if durationMs.isNone then throw "no duration and no shutdown never ends"
  | other => throw ("shutdown " ++ other)
  match config with
  | .error e => return contractError e
  | .ok driver =>
    match Session.run { driver, durationNs := durationMs.map (· * 1000000) } with
    | .error h => return halt h
    | .ok (.error r) => return report r
    | .ok (.ok s) =>
      return ok (.obj [("setup_channels", .arr ((s.channels.filter fun (n, _) => Session.isSetupChannel n).map
        fun (n, k) => .arr [.str n, .nat k]))])

end Data
end DepthBridge
