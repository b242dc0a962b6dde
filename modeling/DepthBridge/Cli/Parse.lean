import DepthBridge.Cli.Help
import DepthBridge.Cli.Value

/-!
# Parsing the command line

The words are read left to right at the root, until one names a subcommand; the rest belong to
that subcommand. At each level:

* `--name`, `--name=value`, and clusters of short letters `-abc` (the last one may carry its
  value, `-cfile` or `-c=file`) name options; a word that follows an option still waiting for
  its value is that value, unless it looks like an option itself;
* `--` ends the options, and any other word is a mistake (at the root, a mistyped subcommand).

An option's value is checked when the next option is seen or the words end. A level then takes
the values of environment variables for the options not given, then defaults, and is checked:
the root needs a subcommand (with no word at all it shows its help), and conflicting options
may not both be given. The subcommand is finished and checked before the root.

The shared options can be given at either level; the level whose value has the stronger source
wins (command line over environment over default), the subcommand on a tie.
-/

namespace DepthBridge
namespace Cli

/-- Where a matched value came from, weakest first. -/
inductive Source where
  | default
  | env
  | commandLine
  deriving DecidableEq, Repr, Inhabited

namespace Source

/-- The strength of a source. -/
def rank : Source → Nat
  | .default => 0 | .env => 1 | .commandLine => 2

/-- Whether the user gave the value (anything but a default). -/
def explicit (s : Source) : Bool := s != .default

end Source

/-- A value read for an option. -/
inductive ArgValue where
  | text (s : String)
  | flag (b : Bool)
  | count (n : Nat)
  | nat (n : Nat)
  | single (x : Float32)
  | double (x : Float)
  deriving Inhabited

/-- An option matched at a level, with its source and value. -/
structure Match where
  arg : ArgSpec
  source : Source
  value : ArgValue
  deriving Inhabited

/-- An option given on the command line whose value is still to be read. -/
structure Pending where
  arg : ArgSpec
  values : List String
  deriving Inhabited

/-- The parse of one command level in progress. -/
structure Level where
  spec : CommandSpec
  env : Env
  /-- The matched options, in the order they were (last) matched. -/
  matched : List Match := []
  pending : Option Pending := none
  /-- Whether the pending option still waits for its value. -/
  awaiting : Bool := false
  /-- Whether `--` has been seen. -/
  trailing : Bool := false
  deriving Inhabited

namespace Level

/-- The options the user gave, in order. -/
def used (l : Level) : List ArgSpec := (l.matched.filter (·.source.explicit)).map (·.arg)

/-- Whether option `id` is matched. -/
def has (l : Level) (id : String) : Bool := l.matched.any (·.arg.id == id)

end Level

/-! ## Errors -/

/-- A parse error of kind `kind` with the given diagnosis, tips and usage line. -/
def failure (kind : ErrorKind) (body : String) (tips : List String := []) (usage : Option String := none) :
    ParseError :=
  ⟨kind, errorText body tips usage true⟩

/-- The diagnosis of a missing value. -/
def missingValueBody (a : ArgSpec) : String :=
  "a value is required for '" ++ a.display ++ "' but none was supplied" ++ valuesList "possible values" a.choiceNames

/-- A value that is not one of the option's choices. -/
def invalidChoice (a : ArgSpec) (raw : String) : ParseError :=
  let body := if raw.isEmpty then missingValueBody a
    else "invalid value '" ++ raw ++ "' for '" ++ a.display ++ "'" ++ valuesList "possible values" a.choiceNames
  let tips := match (similar raw a.choiceNames).getLast? with
    | some s => ["a similar value exists: '" ++ s ++ "'"]
    | none => []
  failure .invalidValue body tips

/-- A value its reader refused, with the reader's complaint. -/
def refusedValue (a : ArgSpec) (raw complaint : String) : ParseError :=
  failure .valueValidation ("invalid value '" ++ raw ++ "' for '" ++ a.display ++ "': " ++ complaint)

/-- An option given twice. -/
def givenTwice (c : CommandSpec) (a : ArgSpec) : ParseError :=
  failure .argumentConflict ("the argument '" ++ a.display ++ "' cannot be used multiple times") [] (some (plainUsage c))

/-! ## Values -/

/-- A whole number in `0 ..= max`, read as a signed number first. -/
def readBounded (a : ArgSpec) (max : Nat) (raw : String) : Except ParseError Nat :=
  match readSigned raw with
  | .error m => .error (refusedValue a raw m)
  | .ok v =>
    if v < 0 || v > max then .error (refusedValue a raw (toString v ++ " is not in 0..=" ++ toString max))
    else .ok v.toNat

/-- Reads the value `raw` of option `a`. -/
def readValue (a : ArgSpec) (raw : String) : Except ParseError ArgValue :=
  match a.value with
  | .path => if raw.isEmpty then .error (failure .invalidValue (missingValueBody a)) else .ok (.text raw)
  | .text => .ok (.text raw)
  | .choice _ => if a.choiceNames.contains raw then .ok (.text raw) else .error (invalidChoice a raw)
  | .bounded max => ArgValue.nat <$> readBounded a max raw
  | .unsigned =>
    match readUnsigned raw with
    | .ok n => .ok (.nat n)
    | .error m => .error (refusedValue a raw m)
  | .single =>
    match readSingle raw with
    | .ok x => .ok (.single x)
    | .error m => .error (refusedValue a raw m)
  | .double =>
    match readDouble raw with
    | .ok x => .ok (.double x)
    | .error m => .error (refusedValue a raw m)
  | .none => .ok (.text raw)

/-! ## Reacting to options -/

/-- The matches without option `id`. -/
def without (ms : List Match) (id : String) : List Match := ms.filter (·.arg.id != id)

/-- Records option `a` with the values `raw` from `source`; `long` says whether it was named
by its long name (for the help switch). -/
def apply (l : Level) (a : ArgSpec) (source : Source) (raw : List String) (long : Bool) : Except ParseError Level :=
  if source == .commandLine && a.takesValue && raw.isEmpty then .error (failure .invalidValue (missingValueBody a))
  else match a.action with
  | .help => .error ⟨.displayHelp, helpPage l.spec l.env long⟩
  | .version => .error ⟨.displayVersion, versionText⟩
  | .count => do
    let n ← match raw with
      | v :: _ => readBounded a 255 v
      | [] =>
        let before : Option ArgValue := (l.matched.find? (·.arg.id == a.id)).map (·.value)
        pure (match before with
          | some (ArgValue.count k) => min 255 (k + 1)
          | _ => 1)
    return { l with matched := without l.matched a.id ++ [⟨a, source, .count n⟩] }
  | .setTrue =>
    if l.has a.id then .error (givenTwice l.spec a)
    else
      let b := match raw with
        | v :: _ => v == "true"
        | [] => true
      .ok { l with matched := l.matched ++ [⟨a, source, .flag b⟩] }
  | .set => do
    if l.has a.id then throw (givenTwice l.spec a)
    let v ← readValue a (raw.headD "")
    return { l with matched := l.matched ++ [⟨a, source, v⟩] }

/-- Reads the pending option's values, if any. -/
def resolvePending (l : Level) : Except ParseError Level :=
  match l.pending with
  | none => .ok l
  | some p => apply { l with pending := none, awaiting := false } p.arg .commandLine p.values true

/-- The level after reading the pending option, its errors ignored (as before reporting a
different mistake). -/
def settle (l : Level) : Level :=
  match resolvePending l with
  | .ok l => l
  | .error _ => { l with pending := none, awaiting := false }

/-- Reacts to option `a` given on the command line: first the pending option is read. -/
def react (l : Level) (a : ArgSpec) (raw : List String) (long : Bool) : Except ParseError Level := do
  let l ← resolvePending l
  apply l a .commandLine raw long

/-- Option `a` now waits for its value. -/
def await (l : Level) (a : ArgSpec) : Except ParseError Level := do
  let l ← resolvePending l
  return { l with pending := some ⟨a, []⟩, awaiting := true }

/-! ## Words -/

/-- The subcommand names of the root. -/
def subcommandNames : List String := rootSpec.subcommands.map (·.1)

/-- The long names of a command's options. -/
def longNames (c : CommandSpec) : List String := (c.args.map (·.long)).filter (· != "")

/-- An unknown `--name`: a similar long name at this level is suggested; else, at the root, a
similar one of a subcommand named later on the line. -/
def unknownLong (l : Level) (name : String) (rest : List String) : ParseError :=
  let l := settle l
  match (similar name (longNames l.spec)).getLast? with
  | some cand =>
    let used := l.used ++ (l.spec.findLong? cand).toList
    failure .unknownArgument ("unexpected argument '--" ++ name ++ "' found")
      ["a similar argument exists: '--" ++ cand ++ "'"] (some (usageAfter l.spec used))
  | none =>
    let hits := (subcommandNames.filterMap fun s =>
      match subcommandSpec? s, rest.idxOf? s with
      | some spec, some pos => ((similar name (longNames spec)).getLast?).map fun cand => (pos, s, cand)
      | _, _ => none)
    let best := hits.foldl (fun acc h => match acc with
      | some b => if h.1 < b.1 then some h else some b
      | none => some h) none
    let tips := match best with
      | some (_, s, cand) => ["'" ++ s ++ " --" ++ cand ++ "' exists"]
      | none => []
    failure .unknownArgument ("unexpected argument '--" ++ name ++ "' found") tips (some (usageAfter l.spec l.used))

/-- A word that is neither an option nor a value. -/
def unexpectedWord (l : Level) (w : String) : ParseError :=
  let l := settle l
  if l.trailing && l.spec.hasSubcommands && subcommandNames.contains w then
    failure .unknownArgument ("unexpected argument '" ++ w ++ "' found")
      ["subcommand '" ++ w ++ "' exists; to use it, remove the '--' before it"] (some (plainUsage l.spec))
  else if l.spec.hasSubcommands then
    let cands := similar w subcommandNames
    let tips := match cands with
      | [] => []
      | [c] => ["a similar subcommand exists: '" ++ c ++ "'"]
      | cs => ["some similar subcommands exist: " ++ ", ".intercalate (cs.map fun c => "'" ++ c ++ "'")]
    failure .invalidSubcommand ("unrecognized subcommand '" ++ w ++ "'") tips (some (plainUsage l.spec))
  else
    failure .unknownArgument ("unexpected argument '" ++ w ++ "' found") [] (some (plainUsage l.spec))

/-- A `--name` or `--name=value` word. -/
def longWord (l : Level) (body : String) (rest : List String) : Except ParseError Level :=
  let (name, value) := match body.splitOn "=" with
    | [] => ("", none)
    | n :: [] => (n, none)
    | n :: vs => (n, some ("=".intercalate vs))
  match l.spec.findLong? name with
  | none => .error (unknownLong l name rest)
  | some a =>
    if a.takesValue then
      match value with
      | some v => react l a [v] true
      | none => await l a
    else match value with
      | some v =>
        .error (failure .tooManyValues ("unexpected value '" ++ v ++ "' for '" ++ a.display
          ++ "' found; no more were expected") [] (some (usageAfter l.spec (l.used ++ [a]))))
      | none => react l a [] true

/-- The letters of a `-abc` word. -/
def shortWord (l : Level) : List Char → Except ParseError Level
  | [] => .ok l
  | c :: cs =>
    match l.spec.findShort? c with
    | none =>
      .error (failure .unknownArgument ("unexpected argument '-" ++ String.singleton c ++ "' found") []
        (some (plainUsage l.spec)))
    | some a =>
      if !a.takesValue then do
        let l ← react l a [] false
        shortWord l cs
      else if cs.isEmpty then await l a
      else
        let v := match cs with
          | '=' :: r => String.ofList r
          | r => String.ofList r
        react l a [v] false

/-- The help subcommand: the long help page of the subcommand named by the words. -/
def helpFor (env : Env) : CommandSpec → List String → ParseError
  | c, [] => ⟨.displayHelp, helpPage c env true⟩
  | c, w :: ws =>
    if c.hasSubcommands then
      match subcommandSpec? w with
      | some s => helpFor env s ws
      | none => failure .invalidSubcommand ("unrecognized subcommand '" ++ w ++ "'") [] (some (plainUsage c))
    else ⟨.invalidSubcommand, errorText ("unrecognized subcommand '" ++ w ++ "'") [] (some (plainUsage c))
      (c.name != "help")⟩

/-- Reads the words of a level; at the root, stops at a subcommand with the words after it. -/
def walk (l : Level) : List String → Except ParseError (Level × Option (String × List String))
  | [] => .ok (l, none)
  | w :: rest =>
    if l.trailing then .error (unexpectedWord l w)
    else if l.spec.hasSubcommands && subcommandNames.contains w then
      if w == "help" then .error (helpFor l.env rootSpec rest) else .ok (l, some (w, rest))
    else if w == "--" then walk { l with trailing := true } rest
    else if w.startsWith "--" then do
      let l ← longWord l (String.ofList (w.toList.drop 2)) rest
      walk l rest
    else if w.startsWith "-" && w != "-" then do
      let l ← shortWord l (w.toList.drop 1)
      walk l rest
    else if l.awaiting then
      match l.pending with
      | some p => walk { l with pending := some { p with values := p.values ++ [w] }, awaiting := false } rest
      | none => .error (unexpectedWord l w)
    else .error (unexpectedWord l w)

/-! ## Finishing a level -/

/-- The implicit default of a switch or counter, else the option's default. -/
def defaultOf (a : ArgSpec) : Option String :=
  match a.action with
  | .setTrue => some "false"
  | .count => some "0"
  | _ => a.default

/-- Takes values from the environment for the options not given, in the order of the options. -/
def addEnv (l : Level) : Except ParseError Level :=
  let step := fun (l : Level) (a : ArgSpec) =>
    match a.env.bind (l.env.lookup ·) with
    | some v => if l.has a.id then pure l else apply l a .env [v] true
    | none => pure l
  List.foldlM step l l.spec.args

/-- Takes defaults for the options still missing. -/
def addDefaults (l : Level) : Except ParseError Level :=
  let step := fun (l : Level) (a : ArgSpec) =>
    match defaultOf a with
    | some d =>
      if l.has a.id then pure l
      else match a.action with
        | .count => pure { l with matched := l.matched ++ [⟨a, .default, .count 0⟩] }
        | .setTrue => pure { l with matched := l.matched ++ [⟨a, .default, .flag false⟩] }
        | _ => do
          let v ← readValue a d
          pure { l with matched := l.matched ++ [⟨a, .default, v⟩] }
    | none => pure l
  List.foldlM step l l.spec.args

/-- The first given option that conflicts with other given ones, with those. -/
def firstConflict (l : Level) : Option (ArgSpec × List ArgSpec) :=
  let given := l.used
  given.findSome? fun a =>
    let others := given.filter fun b => b.id != a.id && (a.conflicts.contains b.id || b.conflicts.contains a.id)
    if others.isEmpty then none else some (a, others)

/-- What a root without a subcommand reports: its help page when nothing at all was given, else
the missing subcommand. -/
def noSubcommand (l : Level) : ParseError :=
  match resolvePending l >>= addEnv >>= addDefaults with
  | .error e => e
  | .ok l =>
    if l.used.isEmpty then ⟨.displayHelpOnMissing, helpPage l.spec l.env false⟩
    else failure .missingSubcommand ("'" ++ binName ++ "' requires a subcommand but one was not provided"
      ++ valuesList "subcommands" subcommandNames) [] (some (plainUsage l.spec))

/-- Checks that no two given options conflict. -/
def checkConflicts (l : Level) : Except ParseError Unit :=
  match firstConflict l with
  | some (a, others) =>
    let with_ := match others with
      | [b] => " '" ++ b.display ++ "'"
      | bs => String.join (bs.map fun b => "\n  '" ++ b.display ++ "'")
    let used := l.used.filter fun u => !others.any (·.id == u.id)
    .error (failure .argumentConflict ("the argument '" ++ a.display ++ "' cannot be used with" ++ with_) []
      (some (usageAfter l.spec used)))
  | none => .ok ()

/-- Reads the pending option, the environment and the defaults, and checks the level. -/
def finish (l : Level) : Except ParseError Level := do
  let l ← resolvePending l
  let l ← addEnv l
  let l ← addDefaults l
  checkConflicts l
  return l

/-! ## The whole line -/

/-- The result of a parse: the root's options and the subcommand's, after the shared options
have been settled between the levels. -/
structure Parsed where
  root : List Match
  subcommand : String
  sub : List Match
  deriving Inhabited

/-- The winner between the root's and the subcommand's value of a shared option. -/
def settleShared (root sub : List Match) (id : String) : Option Match :=
  match root.find? (·.arg.id == id), sub.find? (·.arg.id == id) with
  | some r, some s => if r.source.rank > s.source.rank then some r else some s
  | some r, none => some r
  | none, s => s

/-- Parses the words after the program's name, with the environment `env`. -/
def parse (env : Env) (words : List String) : Except ParseError Parsed := do
  let (root, sub?) ← walk { spec := rootSpec, env } words
  match sub? with
  | none => throw (noSubcommand root)
  | some (name, rest) =>
    let spec := (subcommandSpec? name).getD rootSpec
    let (sub, _) ← walk { spec, env } rest
    let sub ← finish sub
    let root ← finish root
    let shared := globalArgs.filterMap fun a => settleShared root.matched sub.matched a.id
    let replace := fun (ms : List Match) =>
      ms.map fun m => (shared.find? (·.arg.id == m.arg.id)).getD m
    return { root := replace root.matched, subcommand := name, sub := replace sub.matched }

end Cli
end DepthBridge
