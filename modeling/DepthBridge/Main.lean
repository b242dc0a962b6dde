import DepthBridge.Cli.Program

/-!
# The executable

The thin outer layer of the program: it gathers the arguments, the environment variables the
command line falls back on, and the files the command line may name, runs the program, prints
what it printed and exits with its status.
-/

open DepthBridge Cli

/-- The environment variables the command line reads. -/
def fallbackNames : List String :=
  ((rootSpec :: [runSpec, validateSpec, infoSpec]).flatMap fun c => c.args.filterMap (·.env)).eraseDups

/-- The paths a command line may name: every word, the value part of each word, the
configured fallback and the default file, and the `.env` file. -/
def candidatePaths (args : List String) (env : Env) : List String :=
  let parts := args.flatMap fun w =>
    let afterEq := match w.splitOn "=" with
      | _ :: v :: more => ["=".intercalate (v :: more)]
      | _ => []
    let attached := if w.startsWith "-" && !w.startsWith "--" && w.length > 2 then [String.ofList (w.toList.drop 2)] else []
    w :: afterEq ++ attached
  (parts ++ ((env.lookup "RS_BRIDGE_CONFIG").toList) ++ ["bridge.toml", ".env"]).eraseDups

/-- What the directory holds at `path`: the file's text, a marker below a directory, or nothing. -/
def probe (path : String) : IO (List (String × String)) := do
  if path.isEmpty then return []
  try
    let text ← IO.FS.readFile path
    return [(path, text)]
  catch e =>
    let text := toString e
    if (text.splitOn "directory").length > 1 then return [(path ++ "/\x00", "")] else return []

/-- Runs the program. -/
def main (args : List String) : IO UInt32 := do
  let mut env : Env := []
  for name in fallbackNames do
    if let some v ← IO.getEnv name then env := env ++ [(name, v)]
  let mut files : FileTree := []
  for p in candidatePaths args env do
    files := files ++ (← probe p)
  let r := runProgram args env files
  IO.print r.stdout
  IO.eprint r.stderr
  return r.status.toUInt32
