import DepthBridge.Toml.Token

/-!
# Faults of TOML reading

A fault is a message and, nearly always, the stretch of text it is about. Its message names what
is wrong and, for most syntax faults, what would have been right: a list of literal texts
(shown in backticks, a line feed as `newline`) and of descriptions, or `nothing`.

`Fault.render` writes a fault the way the bridge reports it: the line and column where the span
starts, the line of text with the span underlined, then the message. Lines count line feeds;
the column counts characters from the start of the line, or bytes where the position falls
inside a character; the underline is as long as the span in bytes, cut at the end of the line,
and at least one mark. A fault without a span is just its message.
-/

namespace DepthBridge
namespace Toml

/-- A reading failure: a message and the span it is about, if any. -/
structure Fault where
  message : String
  span : Option Span
  deriving Repr, Inhabited

/-- One thing a fault says would have been right. -/
inductive Expected where
  /-- A text that would have been right as it stands. -/
  | literal (text : String)
  /-- A kind of text that would have been right. -/
  | description (text : String)
  deriving Repr, Inhabited

namespace Expected

/-- How an expectation is written: literals in backticks, a line feed as `newline`. -/
def render : Expected → String
  | .literal "\n" => "newline"
  | .literal "`" => "'`'"
  | .literal s => "`" ++ s ++ "`"
  | .description s => s

/-- A list of expectations: `nothing` for none, else the items joined with commas. -/
def renderAll (es : List Expected) : String :=
  if es.isEmpty then "nothing" else ", ".intercalate (es.map render)

end Expected

namespace Fault

/-- A fault over `span` with what would have been right. -/
def expecting (description : String) (expected : List Expected) (span : Span) : Fault :=
  ⟨description ++ ", expected " ++ Expected.renderAll expected, some span⟩

/-- A fault over `span` that says nothing about what would have been right. -/
def spanning (description : String) (span : Span) : Fault := ⟨description, some span⟩

/-- The line (from zero) and column (from zero) of byte `index` of `bytes`. The column counts
the characters of the line up to and including the one at `index`, less one, or the bytes when
that stretch is not whole characters; a position past the end is placed one further than the
last byte. -/
def position (bytes : ByteArray) (index : Nat) : Nat × Nat :=
  if bytes.size = 0 then (0, index)
  else
    let safe := min index (bytes.size - 1)
    let beyond := index - safe
    let before := (bytes.extract 0 safe).toList
    let lineStart := before.length - (before.reverse.takeWhile (· != 10)).length
    let line := (before.take lineStart).count 10
    let column := match String.fromUTF8? (bytes.extract lineStart (safe + 1)) with
      | some s => s.length - 1
      | none => safe - lineStart
    (line, column + beyond)

/-- The fault as the bridge reports it (see the module comment). -/
def render (f : Fault) (text : String) : String :=
  match f.span with
  | none => f.message ++ "\n"
  | some span =>
    let bytes := text.toUTF8
    let (lineIdx, column) := position bytes span.start
    let content := (text.splitOn "\n").getD lineIdx ""
    let width := min (span.stop - span.start) (content.utf8ByteSize - column)
    let lineNo := lineIdx + 1
    let gutter := String.ofList (List.replicate (toString lineNo).length ' ')
    s!"TOML parse error at line {lineNo}, column {column + 1}\n{gutter} |\n{lineNo} | {content}\n"
      ++ gutter ++ " |" ++ String.ofList (List.replicate (column + 1) ' ')
      ++ String.ofList (List.replicate (max 1 width) '^') ++ "\n" ++ f.message ++ "\n"

end Fault

end Toml
end DepthBridge
