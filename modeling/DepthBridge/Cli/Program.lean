import DepthBridge.Cli.Commands

/-!
# The program

One run of the program: the command line is parsed with the environment's fallbacks; a parse
that stops prints its text (help and version on standard output, mistakes on standard error)
and exits with the parse's status; otherwise the command runs, and a failed command prints its
report on standard error and exits with status 1.

A report is printed as its message, then, when it has causes, a `Caused by:` section: a single
cause indented by four blanks, several causes numbered.

Before parsing, the program reads a `.env` file in its directory, if there is one: each
`NAME=value` line sets a variable that the environment does not already set.
-/

namespace DepthBridge
namespace Cli

/-- What a run of the program printed, and its exit status. -/
structure ProcessResult where
  status : Nat
  stdout : String
  stderr : String
  deriving Inhabited

/-- A cause of a report, indented: numbered when there are several. -/
def causeText (numbered : Option Nat) (text : String) : String :=
  let lines := text.splitOn "\n"
  let first := match numbered with
    | some n => let s := toString n
      blanks (5 - s.length) ++ s ++ ": "
    | none => "    "
  let rest := if numbered.isSome then blanks 7 else blanks 4
  first ++ "\n".intercalate (lines.zipIdx.map fun (l, i) => if i = 0 then l else rest ++ l)

/-- A report as printed when the program fails. -/
def printedReport (r : Report) : String :=
  let causes := r.chain.drop 1
  let caused := match causes with
    | [] => ""
    | [c] => "\n\nCaused by:\n" ++ causeText none c
    | cs => "\n\nCaused by:" ++ String.join (cs.zipIdx.map fun (c, i) => "\n" ++ causeText (some i) c)
  "Error: " ++ r.message ++ caused ++ "\n"

/-- A value of a `.env` line: quotes removed, and an unquoted value cut at a ` #` comment. -/
def envValue (raw : String) : String :=
  let v := String.ofList (raw.toList.dropWhile (· == ' '))
  let cs := v.toList
  match cs with
  | '"' :: rest => String.ofList (rest.takeWhile (· != '"'))
  | '\'' :: rest => String.ofList (rest.takeWhile (· != '\''))
  | _ => trimEnd ((v.splitOn " #").headD "")

/-- The variables a `.env` file sets, in order. -/
def dotenvVars (text : String) : Env :=
  (text.splitOn "\n").filterMap fun line =>
    let line := trimEnd (String.ofList (line.toList.dropWhile Char.isWhitespace))
    let line := if line.startsWith "export " then String.ofList (line.toList.drop 7) else line
    if line.isEmpty || line.startsWith "#" then none
    else match line.splitOn "=" with
      | name :: value :: more =>
        let name := trimEnd name
        if name.isEmpty then none else some (name, envValue ("=".intercalate (value :: more)))
      | _ => none

/-- The environment after reading the directory's `.env` file: its variables come after the
ones already set, which they do not replace. -/
def withDotenv (env : Env) (files : FileTree) : Env :=
  match files.find? fun (p, _) => FileTree.components p == [".env"] with
  | some (_, text) => env ++ (dotenvVars text).filter fun (n, _) => (env.lookup n).isNone
  | none => env

/-- Runs a parsed command; `run` without `--dry-run` runs a session, whose halt is passed on. -/
def execute (files : FileTree) : Invocation → Except Halt Outcome
  | .validate o => .ok (runValidate files o)
  | .info o => .ok (runInfo files o)
  | .run o => if o.dryRun then .ok (runDry files o) else runSessionCommand files o

/-- A whole run of the program with arguments `args` (after its name), environment `env` and
the files of its directory. -/
def runProgram (args : List String) (env : Env) (files : FileTree) : ProcessResult :=
  let env := withDotenv env files
  match parse env args with
  | .error e =>
    if e.toStdout then ⟨e.kind.exitCode, e.message, ""⟩ else ⟨e.kind.exitCode, "", e.message⟩
  | .ok p =>
    match execute files (CommandLine.ofParsed p).invocation with
    | .error h => ⟨101, "", "thread 'main' panicked:\n" ++ h.message ++ "\n"⟩
    | .ok out =>
      match out.result with
      | .ok () => ⟨0, out.stdout, ""⟩
      | .error r => ⟨1, out.stdout, printedReport r⟩

end Cli
end DepthBridge
