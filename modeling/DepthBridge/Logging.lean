import DepthBridge.Error

/-!
# Log output

Log lines are written as JSON objects, as indented human-readable text, or as compact single
lines. A format is named case-insensitively (ASCII letters only).

Logging is installed once per process: a second installation fails, after the requested
format has been understood.
-/

namespace DepthBridge

/-- How log lines are written. -/
inductive LogFormat where
  | json | pretty | compact
  deriving DecidableEq, Repr, Inhabited

namespace LogFormat

/-- The format's name in diagnostic text. -/
def label : LogFormat → String
  | .json => "Json" | .pretty => "Pretty" | .compact => "Compact"

/-- The format named `s`, in any ASCII case. -/
def parse (s : String) : Except Report LogFormat :=
  match String.ofList (s.toList.map Char.toLower) with
  | "json" => .ok .json
  | "pretty" => .ok .pretty
  | "compact" => .ok .compact
  | other => .error (.plain s!"unknown log format '{other}'")

end LogFormat

/-- Installs logging in format `format` at level `level`, when `installed` says whether
logging is already in place. -/
def installLogging (installed : Bool) (format : String) (_level : String) : Except Report Unit := do
  let _ ← LogFormat.parse format
  if installed then
    throw ⟨["Failed to initialize tracing subscriber", "a global default trace dispatcher has already been set"]⟩

end DepthBridge
