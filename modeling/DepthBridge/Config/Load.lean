import DepthBridge.Config.FromJson
import DepthBridge.Config.FromToml
import DepthBridge.Config.Write

/-!
# Loading a configuration

A configuration is read from text in one of two syntaxes, then validated; the first problem,
of syntax, of shape, or of a validation rule, is the error. A file's syntax comes from its
extension, in either case.

Each syntax is a `Codec`: what its library provides, a writer of data and a reader against a
shape. The configuration goes through its datum both ways (`writeWith`, `loadWith`), so the
codec is all that differs between the syntaxes.

Files are looked up in a `FileTree`, a list of relative paths with their contents, so that
loading stays a function of its input.
-/

namespace DepthBridge

/-- The two configuration syntaxes. -/
inductive ConfigFormat where
  | toml | json
  deriving DecidableEq, Repr, Inhabited

namespace ConfigFormat

/-- The syntax's name. -/
def name : ConfigFormat → String
  | .toml => "toml" | .json => "json"

/-- The syntax of a file extension, in any case. -/
def ofExtension? (ext : String) : Option ConfigFormat :=
  match ext.toLower with
  | "toml" => some .toml
  | "json" => some .json
  | _ => none

end ConfigFormat

/-! ## Codecs -/

/-- What the library of a syntax provides for configurations: writing a datum of a shape as a
document, and reading a document back against a shape, or the parse error. -/
structure Codec (τ : Type) where
  write : Shape → Datum → τ
  read : Shape → τ → Except ContractError Datum

namespace Codec

/-- TOML: a parse error shows the fault's place in the text. -/
def toml : Codec String where
  write := Toml.writeDocument
  read s text :=
    match Toml.readDocument s text with
    | .ok d => .ok d
    | .error f =>
      let shown := f.render text
      .error (.configParse s!"TOML parse error: {shown}" (some shown))

/-- JSON, indented by two spaces, singles with their own shortest digits. -/
def json : Codec String where
  write s d := (Json.ofDatum .single .double s d).pretty
  read s text :=
    match Json.readDocument s text with
    | .ok d => .ok d
    | .error f => .error (.configParse s!"JSON parse error: {f.text}" (some f.text))

end Codec

/-- The codec of a syntax. -/
def ConfigFormat.codec : ConfigFormat → Codec String
  | .toml => .toml
  | .json => .json

namespace DriverConfig

variable {τ : Type}

/-- The configuration as a document of a codec. -/
def writeWith (k : Codec τ) (c : DriverConfig) : τ := k.write shape c.toDatum

/-- Reads a configuration document with a codec, then validates it. -/
def loadWith (k : Codec τ) (doc : τ) : Except ContractError DriverConfig := do
  let d ← k.read shape doc
  let c := ofDatum d
  c.validate
  return c

/-- Parses a configuration text in syntax `fmt`, without validating it. -/
def parse (text : String) (fmt : ConfigFormat) : Except ContractError DriverConfig :=
  ofDatum <$> fmt.codec.read shape text

/-- Parses and validates a configuration text in syntax `fmt`. -/
def load (text : String) (fmt : ConfigFormat) : Except ContractError DriverConfig :=
  loadWith fmt.codec text

/-- The configuration as a TOML document. -/
def toToml (c : DriverConfig) : String := c.writeWith Codec.toml

/-- The configuration as indented JSON text. -/
def toJsonText (c : DriverConfig) : String := c.writeWith Codec.json

end DriverConfig

/-- Relative file paths with their contents. -/
abbrev FileTree := List (String × String)

namespace FileTree

/-- The components of a path: its parts between slashes, without empty and `.` parts. -/
def components (path : String) : List String :=
  (path.splitOn "/").filter fun p => p != "" && p != "."

/-- The last component of a path, unless the path ends in `..`, `.` or nothing. -/
def fileName? (path : String) : Option String :=
  match (components path).getLast? with
  | some ".." => none
  | some name => some name
  | none => none

/-- The extension of a path: what follows the last dot of its file name, unless that dot
starts the name. -/
def extension? (path : String) : Option String :=
  (fileName? path).bind fun name =>
    let cs := name.toList
    match cs.reverse.idxOf? '.' with
    | none => none
    | some k =>
      let i := cs.length - 1 - k
      if i = 0 then none else some (String.ofList (cs.drop (i + 1)))

/-- What a path names in a tree of files. -/
inductive Entry where
  /-- A file, with its text. -/
  | file (text : String)
  /-- A directory: a proper prefix of some file's path. -/
  | directory
  /-- Nothing, because a file stands where the path needs a directory. -/
  | notDirectory
  /-- Nothing at all. -/
  | missing
  deriving Inhabited

/-- Whether a path asks for a directory: it ends in a slash or in `.`. -/
def wantsDirectory (path : String) : Bool :=
  path.endsWith "/" || path == "." || path.endsWith "/."

/-- What `path` names. An absolute path names only the root, as a directory; a file named
with a trailing slash or `.` is not a directory. -/
def entry (files : FileTree) (path : String) : Entry :=
  let want := components path
  if path.startsWith "/" then (if want.isEmpty then .directory else .missing)
  else if want.isEmpty then .directory
  else match files.find? (fun (p, _) => components p == want) with
  | some (_, text) => if wantsDirectory path then .notDirectory else .file text
  | none =>
    if files.any (fun (p, _) => let ps := components p; ps.length > want.length && ps.take want.length == want) then
      .directory
    else if files.any (fun (p, _) => let ps := components p; ps.length < want.length && want.take ps.length == ps) then
      .notDirectory
    else .missing

/-- Whether `path` names a file or a directory. -/
def present (files : FileTree) (path : String) : Bool :=
  match entry files path with
  | .file _ | .directory => true
  | .notDirectory | .missing => false

/-- The text of the file at `path`, or the system's complaint. -/
def read (files : FileTree) (path : String) : Except String String :=
  match entry files path with
  | .file text => .ok text
  | .directory => .error "Is a directory (os error 21)"
  | .notDirectory => .error "Not a directory (os error 20)"
  | .missing => .error "No such file or directory (os error 2)"

end FileTree

namespace DriverConfig

/-- Loads the configuration file at `path`, its syntax given by its extension. -/
def loadFile (files : FileTree) (path : String) : Except ContractError DriverConfig := do
  let ext ← match FileTree.extension? path with
    | some e => pure e
    | none => throw (.configParse "cannot determine file format from extension" none)
  let fmt ← match ConfigFormat.ofExtension? ext with
    | some f => pure f
    | none => throw (.configParse s!"unsupported config format: .{ext}" none)
  let text ← match FileTree.read files path with
    | .ok t => pure t
    | .error e => throw (.io e)
  load text fmt

end DriverConfig

end DepthBridge
