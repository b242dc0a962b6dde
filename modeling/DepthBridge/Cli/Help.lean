import DepthBridge.Cli.Spec

/-!
# Help pages, usage lines and parse errors

A help page has the command's description, its usage line, its subcommands and its options.
Its short form keeps each option on one line when that fits, with the help text wrapped into a
column; its long form (and a short form whose column would be too narrow) puts each help text
on the lines below its option. Text is wrapped greedily at word boundaries to a width of 100
columns, counted in bytes.

A parse error is one line of diagnosis, perhaps tips, perhaps the usage line, and a pointer to
`--help`. Suggestions for mistyped names use the Jaro similarity and keep candidates scoring
above 0.7.
-/

namespace DepthBridge
namespace Cli

/-- Environment variables, by name. -/
abbrev Env := List (String × String)

/-- The width help pages are wrapped to. -/
def termWidth : Nat := 100

/-- `n` blanks. -/
def blanks (n : Nat) : String := String.ofList (List.replicate n ' ')

/-- The width of a text in columns: one per character, except that an escape sequence, from an
ASCII control character to the next `m`, takes none. -/
def width (s : String) : Nat :=
  (s.toList.foldl (fun (acc : Nat × Bool) ch =>
    if ch.toNat < 32 || ch.toNat == 127 then (acc.1, true)
    else if acc.2 then (acc.1, ch != 'm')
    else (acc.1 + 1, false)) (0, false)).1

/-- A text without its trailing white space. -/
def trimEnd (s : String) : String := String.ofList (s.toList.reverse.dropWhile Char.isWhitespace).reverse

/-- The words of a line: each word keeps the blanks that follow it. -/
def words (line : String) : List String :=
  let step := fun (acc : List String × List Char × Bool) (ch : Char) =>
    let (done, cur, inBlank) := acc
    if inBlank && ch != ' ' then (String.ofList cur.reverse :: done, [ch], ch == ' ')
    else (done, ch :: cur, ch == ' ')
  let (done, cur, _) := line.toList.foldl step ([], [], false)
  (if cur.isEmpty then done else String.ofList cur.reverse :: done).reverse

/-- The lines of a text, each keeping its line break. -/
def linesKeepingBreaks (s : String) : List String :=
  let parts := s.splitOn "\n"
  let n := parts.length
  (parts.zipIdx.filterMap fun (p, i) =>
    if i + 1 < n then some (p ++ "\n") else if p.isEmpty then none else some p)

/-- One line wrapped greedily to `limit` columns: a word that would pass the limit starts a new
line, and the line it leaves loses its trailing blanks. -/
def wrapLine (limit : Nat) (line : String) : String :=
  let step := fun (acc : List String × Nat × Bool) (w : String) =>
    let (out, carry, first) := acc
    let trimmed := trimEnd w
    let wd := width trimmed
    let delta := width w - wd
    if !first && limit < carry + wd then
      let out := match out with
        | prev :: rest => "\n" :: trimEnd prev :: rest
        | [] => ["\n"]
      (w :: out, wd + delta, false)
    else (w :: out, carry + wd + delta, false)
  let (out, _, _) := (words line).foldl step ([], 0, true)
  String.join out.reverse

/-- A text wrapped line by line to `limit` columns. -/
def wrap (limit : Nat) (s : String) : String := String.join ((linesKeepingBreaks s).map (wrapLine limit))

/-- Every line after the first indented by `indent`. -/
def indentRest (indent : String) (s : String) : String := s.replace "\n" ("\n" ++ indent)

/-! ## Options -/

/-- The bracketed facts shown after an option's help: its environment variable (with its
value), its default and, unless listed in full, its possible values. -/
def specVals (a : ArgSpec) (env : Env) (useLong : Bool) : List String :=
  let envPart := match a.env with
    | some v => ["[env: " ++ v ++ "=" ++ (env.lookup v).getD "" ++ "]"]
    | none => []
  let defaultPart := if a.takesValue then
      match a.default with
      | some d => ["[default: " ++ d ++ "]"]
      | none => []
    else []
  let valuesPart :=
    if !a.choiceNames.isEmpty && !(useLong && a.choicesHaveHelp) then
      ["[possible values: " ++ ", ".intercalate a.choiceNames ++ "]"]
    else []
  envPart ++ defaultPart ++ valuesPart

/-- The option's help text for the page's form. -/
def aboutOf (a : ArgSpec) (useLong : Bool) : String :=
  if useLong then a.longHelp.getD a.help else a.help

/-- Whether the option's help would not fit beside an option column of width `longest`. -/
def wouldWrap (a : ArgSpec) (env : Env) (longest : Nat) : Bool :=
  let spec := " ".intercalate (specVals a env false)
  let helpWidth := width (aboutOf a false) + width spec
  let taken := longest + 8
  termWidth ≥ taken && 5 * taken > 2 * termWidth && helpWidth > termWidth - taken

/-- The help text of an option, starting where its column starts. -/
def argHelp (a : ArgSpec) (env : Env) (useLong nextLine : Bool) (longest : Nat) : String :=
  let spaces := if nextLine then 10 else longest + 8
  let indent := blanks spaces
  let about := aboutOf a useLong
  let spec := specVals a env useLong
  let limit := termWidth - spaces
  if useLong && a.choicesHaveHelp then
    let first := indentRest indent (wrap limit about)
    let names := a.choiceNames
    let widest := (names.map String.length).foldl max 0
    let entries := match a.value with
      | .choice vs => vs.map fun (name, help) =>
        let descr := name ++ (if help == "" then "" else ": " ++ blanks (widest - name.length) ++ help)
        "\n" ++ indent ++ "- " ++ indentRest (indent ++ "  ") (wrap (limit - 2) descr)
      | _ => []
    let values := (if about.isEmpty then "" else "\n\n" ++ indent) ++ "Possible values:" ++ String.join entries
    let specPart := if spec.isEmpty then "" else indentRest indent (wrap limit ("\n\n" ++ "\n".intercalate spec))
    first ++ values ++ specPart
  else
    let specText := (if useLong then "\n" else " ").intercalate spec
    let text := if spec.isEmpty then about
      else if about.isEmpty then specText
      else about ++ (if useLong then "\n\n" else " ") ++ specText
    indentRest indent (wrap limit text)

/-- One option's entry in a help page. -/
def argRow (a : ArgSpec) (env : Env) (useLong nextLine : Bool) (longest : Nat) : String :=
  let shortPart := match a.short with
    | some c => "-" ++ String.singleton c
    | none => "    "
  let longPart := if a.long == "" then "" else (if a.short.isSome then ", " else "") ++ "--" ++ a.long
  let suffix := if a.takesValue then " <" ++ a.valueName ++ ">" else if a.action == .count then "..." else ""
  let align := if nextLine then "\n" ++ blanks 10 else blanks (longest + 2 - a.display.length)
  "  " ++ shortPart ++ longPart ++ suffix ++ align ++ argHelp a env useLong nextLine longest

/-- The options of a command, ordered by display rank and then by name. -/
def optionsSection (c : CommandSpec) (env : Env) (useLong : Bool) : String :=
  let longest := (c.args.map fun a => a.display.length).foldl max 2
  let nextLine := useLong || c.args.any fun a => wouldWrap a env longest
  let sorted := c.args.mergeSort fun a b => a.rank < b.rank || (a.rank == b.rank && decide (a.sortKey ≤ b.sortKey))
  (if nextLine && useLong then "\n\n" else "\n").intercalate
    (sorted.map fun a => argRow a env useLong nextLine longest)

/-- The subcommands of a command, one per line. -/
def commandsSection (c : CommandSpec) : String :=
  let longest := (c.subcommands.map fun (n, _) => n.length).foldl max 2
  "\n".intercalate (c.subcommands.map fun (name, about) =>
    "  " ++ name ++ blanks (longest - name.length + 2)
      ++ indentRest (blanks (longest + 4)) (wrap (termWidth - (longest + 4)) about))

/-! ## Usage lines -/

/-- Whether an option is an ordinary one, worth the `[OPTIONS]` mark. -/
def isOrdinary (a : ArgSpec) : Bool :=
  a.action == .set || a.action == .setTrue || a.action == .count

/-- The usage line of a command: its name, `[OPTIONS]` and, with subcommands, `<COMMAND>`. -/
def plainUsage (c : CommandSpec) : String :=
  c.path ++ (if c.args.any isOrdinary then " [OPTIONS]" else "")
    ++ (if c.name == "help" then " [COMMAND]..." else "")
    ++ (if c.hasSubcommands then " <COMMAND>" else "")

/-- The usage line of a command naming the options `used`, each once. -/
def usageWith (c : CommandSpec) (used : List ArgSpec) : String :=
  let names := used.foldl (fun acc a => if acc.contains a.display then acc else acc ++ [a.display]) []
  c.path ++ String.join (names.map (" " ++ ·)) ++ (if c.hasSubcommands then " <COMMAND>" else "")

/-- The usage line after a parse: the plain one when no option was used. -/
def usageAfter (c : CommandSpec) (used : List ArgSpec) : String :=
  if used.isEmpty then plainUsage c else usageWith c used

/-! ## Help pages -/

/-- A command's help page, short or long. -/
def helpPage (c : CommandSpec) (env : Env) (useLong : Bool) : String :=
  let about := if useLong then c.longAbout.getD c.about else c.about
  let commands := if c.hasSubcommands then "Commands:\n" ++ commandsSection c ++ "\n\n" else ""
  let arguments := if c.name == "help" then
      "Arguments:\n  [COMMAND]..." ++ (if useLong then "\n          " else "  ")
        ++ "Print help for the subcommand(s)\n\n"
    else ""
  let options := if c.args.isEmpty then "" else "Options:\n" ++ optionsSection c env useLong
  let body := wrap termWidth about ++ "\n\nUsage: " ++ plainUsage c ++ "\n\n" ++ commands ++ arguments
    ++ options
  trimEnd body ++ "\n"

/-- The version line. -/
def versionText : String := binName ++ " " ++ version ++ "\n"

/-! ## Errors -/

/-- What went wrong, or what was asked for instead of a run. -/
inductive ErrorKind where
  | displayHelp
  | displayHelpOnMissing
  | displayVersion
  | invalidValue
  | valueValidation
  | invalidSubcommand
  | unknownArgument
  | argumentConflict
  | missingSubcommand
  | tooManyValues
  deriving DecidableEq, Repr, Inhabited

namespace ErrorKind

/-- The kind's name. -/
def name : ErrorKind → String
  | .displayHelp => "DisplayHelp"
  | .displayHelpOnMissing => "DisplayHelpOnMissingArgumentOrSubcommand"
  | .displayVersion => "DisplayVersion"
  | .invalidValue => "InvalidValue"
  | .valueValidation => "ValueValidation"
  | .invalidSubcommand => "InvalidSubcommand"
  | .unknownArgument => "UnknownArgument"
  | .argumentConflict => "ArgumentConflict"
  | .missingSubcommand => "MissingSubcommand"
  | .tooManyValues => "TooManyValues"

/-- The exit status: zero for help and version, two for mistakes. -/
def exitCode (k : ErrorKind) : Nat :=
  if k == .displayHelp || k == .displayVersion then 0 else 2

end ErrorKind

/-- A parse that stopped: why, and the text to print. -/
structure ParseError where
  kind : ErrorKind
  message : String
  deriving Repr, Inhabited

namespace ParseError

/-- Whether the text goes to standard output (help and version) rather than standard error. -/
def toStdout (e : ParseError) : Bool := e.kind == .displayHelp || e.kind == .displayVersion

end ParseError

/-- An error's text: the diagnosis, the tips, the usage line and, for a command with a help
option, the pointer to `--help`. -/
def errorText (body : String) (tips : List String) (usage : Option String) (hint : Bool) : String :=
  "error: " ++ body
    ++ (if tips.isEmpty then "" else "\n\n" ++ "\n".intercalate (tips.map ("  tip: " ++ ·)))
    ++ (match usage with
        | some u => "\n\nUsage: " ++ u
        | none => "")
    ++ (if hint then "\n\nFor more information, try '--help'.\n" else "\n")

/-- A list of values, as appended to a diagnosis. -/
def valuesList (label : String) (values : List String) : String :=
  if values.isEmpty then "" else "\n  [" ++ label ++ ": " ++ ", ".intercalate values ++ "]"

/-! ## Suggestions -/

/-- The Jaro similarity of two texts, by characters: hits are looked for within half the
longer length, less one, and half the transposed hits count against. -/
def jaro (a b : String) : Float :=
  let xs := a.toList.toArray
  let ys := b.toList.toArray
  if xs.isEmpty && ys.isEmpty then 1
  else if xs.isEmpty || ys.isEmpty then 0
  else
    let range := max xs.size ys.size / 2 - 1
    let step := fun (acc : Array Bool × Array Bool × Nat) (i : Nat) =>
      let (aFlags, bFlags, hits) := acc
      let lo := i - range
      let hi := min ys.size (i + range + 1)
      match (List.range' lo (hi - lo)).find? fun j => xs[i]? == ys[j]? && !(bFlags.getD j true) with
      | some j => (aFlags.setIfInBounds i true, bFlags.setIfInBounds j true, hits + 1)
      | none => (aFlags, bFlags, hits)
    let (aFlags, bFlags, hits) :=
      (List.range xs.size).foldl step (Array.replicate xs.size false, Array.replicate ys.size false, 0)
    if hits = 0 then 0
    else
      let aMatched := (xs.toList.zip aFlags.toList).filterMap fun (c, f) => if f then some c else none
      let bMatched := (ys.toList.zip bFlags.toList).filterMap fun (c, f) => if f then some c else none
      let transpositions := ((aMatched.zip bMatched).filter fun (c, d) => c != d).length / 2
      let m := hits.toFloat
      (m / xs.size.toFloat + m / ys.size.toFloat + (hits - transpositions).toFloat / m) / 3

/-- The candidates similar to `v`, least similar first. -/
def similar (v : String) (candidates : List String) : List String :=
  let scored := (candidates.map fun c => (jaro v c, c)).filter fun (s, _) => s > 0.7
  (scored.mergeSort fun x y => x.1 ≤ y.1).map (·.2)

end Cli
end DepthBridge
