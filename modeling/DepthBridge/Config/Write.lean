import DepthBridge.Config.Schema
import DepthBridge.Json.Value

/-!
# Writing a configuration

A configuration is written from its datum (`DriverConfig.toDatum`), directed by its shape. As
JSON (`Json.ofDatum`) a record is an object of its fields in declaration order. As a TOML
document (`Toml.writeDocument`) the fields that are values come first, then one section per
nested record and one `[[filters]]` table per stage, each after a blank line; an empty stage
list stays a top-level `filters = []`.

A TOML string takes the first of four forms that can hold it without escapes:

* a basic string `"…"`: no quote, backslash, control character or newline;
* a literal string `'…'`: no apostrophe, control character or newline;
* a multi-line basic string: no backslash or control character, at most two quotes in a row;
* a multi-line literal string: no control character, at most two apostrophes in a row;

and otherwise an escaped basic string, multi-line when the text has a newline. A multi-line
form opens with a newline only for a text that has one.
-/

namespace DepthBridge
namespace Toml

/-- What a text needs in order to be quoted: its longest runs of apostrophes and quotes, and
whether it has a backslash, a newline, or another control character. -/
structure TextNeeds where
  apostrophes : Nat := 0
  quotes : Nat := 0
  backslash : Bool := false
  newline : Bool := false
  control : Bool := false

/-- The needs of the characters `cs`, given the current runs of apostrophes and quotes. -/
def measure : List Char → Nat → Nat → TextNeeds → TextNeeds
  | [], _, _, m => m
  | c :: rest, a, q, m =>
    let a := if c = '\'' then a + 1 else 0
    let q := if c = '"' then q + 1 else 0
    let m := { m with apostrophes := max m.apostrophes a, quotes := max m.quotes q }
    let m :=
      if c = '\\' then { m with backslash := true }
      else if c = '\t' then m
      else if c = '\n' then { m with newline := true }
      else if c.toNat < 32 || c.toNat = 127 then { m with control := true }
      else m
    measure rest a q m

/-- The escaped form of a character in a basic string; a multi-line one keeps its newlines. -/
def escapeBasic (multiline : Bool) (c : Char) : String :=
  if c.toNat = 8 then "\\b"
  else if c = '\t' then "\\t"
  else if c = '\n' then (if multiline then "\n" else "\\n")
  else if c.toNat = 12 then "\\f"
  else if c = '\r' then "\\r"
  else if c = '"' then (if multiline then "\"" else "\\\"")
  else if c = '\\' then "\\\\"
  else if c.toNat < 32 || c.toNat = 127 then
    "\\u00" ++ String.singleton (Json.hexDigit (c.toNat / 16)).toUpper
      ++ String.singleton (Json.hexDigit (c.toNat % 16)).toUpper
  else String.singleton c

/-- A text escaped for a basic string. In a multi-line one a quote that would make three in a
row is escaped, and the count starts again after it. -/
def escapeText (multiline : Bool) (s : String) : String :=
  let step := fun (acc : String × Nat) (c : Char) =>
    if c = '"' && multiline then
      if acc.2 + 1 > 2 then (acc.1 ++ "\\\"", 0) else (acc.1 ++ "\"", acc.2 + 1)
    else (acc.1 ++ escapeBasic multiline c, 0)
  (s.toList.foldl step ("", 0)).1

/-- A string value in the first form that holds it. A multi-line form starts with a newline
only when the text has one; a tab is always escaped in a basic string. -/
def quoteText (s : String) : String :=
  let m := measure s.toList 0 0 {}
  let escaped (multiline : Bool) := escapeText multiline s
  let opening (delimiter : String) := delimiter ++ (if m.newline then "\n" else "")
  if !(m.control || m.backslash || m.quotes > 0 || m.newline) then "\"" ++ escaped false ++ "\""
  else if !(m.control || m.apostrophes > 0 || m.newline) then "'" ++ s ++ "'"
  else if !(m.control || m.backslash || m.quotes > 2) then opening "\"\"\"" ++ escaped true ++ "\"\"\""
  else if !(m.control || m.apostrophes > 2) then opening "'''" ++ s ++ "'''"
  else if m.newline then opening "\"\"\"" ++ escaped true ++ "\"\"\""
  else "\"" ++ escaped false ++ "\""

/-- A `key = value` line. -/
def line (key value : String) : String := key ++ " = " ++ value ++ "\n"

/-- A boolean value. -/
def flag (b : Bool) : String := if b then "true" else "false"

/-- A section: a blank line, the header, then its lines. -/
def block (header : String) (lines : List String) : String :=
  "\n" ++ header ++ "\n" ++ String.join lines

/-! ## Documents from data -/

mutual

/-- A datum of a shape as a TOML value: scalars in their own syntax, a name as its text, a list
inline. -/
def valueText : Shape → Datum → String
  | _, .flag b => flag b
  | _, .text s => quoteText s
  | _, .single x => Decimal.Style.toml.single x
  | _, .double x => Decimal.Style.toml.double x
  | _, .nat n => toString n
  | .choice _ names, .choice i => quoteText (names.getD i "")
  | .list item, .list items => "[" ++ ", ".intercalate (valueTexts item items) ++ "]"
  | _, _ => ""

/-- The values of a list's items. -/
def valueTexts (item : Shape) : List Datum → List String
  | [] => []
  | d :: rest => valueText item d :: valueTexts item rest

end

/-- Whether a field is written as sections of its own rather than as a value: a record, or a
nonempty list of records. -/
def isSection : Shape → Datum → Bool
  | .record .., .record _ => true
  | .list (.record ..), .list (_ :: _) => true
  | _, _ => false

/-- The `key = value` lines of a table's fields that are values, in order. -/
def valueLines (fields : List (String × Shape × Bool)) (fs : List (String × Datum)) :
    List String :=
  fs.filterMap fun p =>
    let s := Shape.fieldShape fields p.1
    if isSection s p.2 then none else some (line p.1 (valueText s p.2))

mutual

/-- The sections of a table's fields under the dotted path `pre`, in order. -/
def sections (pre : String) (fields : List (String × Shape × Bool)) :
    List (String × Datum) → String
  | [] => ""
  | (k, d) :: rest => fieldSections (pre ++ k) (Shape.fieldShape fields k) d ++ sections pre fields rest

/-- A field as sections: a record as a table `[path]`, a list of records as one table
`[[path]]` for each item; each table's values, then its own sections. -/
def fieldSections (path : String) : Shape → Datum → String
  | .record _ sub, .record fs =>
    block ("[" ++ path ++ "]") (valueLines sub fs) ++ sections (path ++ ".") sub fs
  | .list (.record _ sub), .list items => tables path sub items
  | _, _ => ""

/-- The tables `[[path]]` of the items of a list of records. -/
def tables (path : String) (sub : List (String × Shape × Bool)) : List Datum → String
  | [] => ""
  | .record fs :: rest =>
    block ("[[" ++ path ++ "]]") (valueLines sub fs) ++ sections (path ++ ".") sub fs
      ++ tables path sub rest
  | _ :: rest => tables path sub rest

end

/-- A datum of a record shape as a TOML document: the fields that are values first, then the
sections, each in field order. -/
def writeDocument : Shape → Datum → String
  | .record _ fields, .record fs => String.join (valueLines fields fs) ++ sections "" fields fs
  | _, _ => ""

end Toml

namespace Json

mutual

/-- A datum of a shape as JSON: a name as its text, a record as an object of its fields in
order; singles written by `single` and doubles by `double`. -/
def ofDatum (single : Float32 → Json) (double : Float → Json) : Shape → Datum → Json
  | _, .flag b => .bool b
  | _, .text s => .str s
  | _, .single x => single x
  | _, .double x => double x
  | _, .nat n => .nat n
  | .choice _ names, .choice i => .str (names.getD i "")
  | .list item, .list items => .arr (ofData single double item items)
  | .record _ fields, .record fs => .obj (ofFields single double fields fs)
  | _, _ => .null

/-- The items of a list as JSON. -/
def ofData (single : Float32 → Json) (double : Float → Json) (item : Shape) :
    List Datum → List Json
  | [] => []
  | d :: rest => ofDatum single double item d :: ofData single double item rest

/-- The fields of a record as object entries. -/
def ofFields (single : Float32 → Json) (double : Float → Json)
    (fields : List (String × Shape × Bool)) : List (String × Datum) → List (String × Json)
  | [] => []
  | (k, d) :: rest =>
    (k, ofDatum single double (Shape.fieldShape fields k) d) :: ofFields single double fields rest

end

end Json

namespace DriverConfig

/-- The configuration as JSON, fields in declaration order; singles written by `single` and
doubles by `double`. -/
def toJsonWith (single : Float32 → Json) (double : Float → Json) (c : DriverConfig) : Json :=
  Json.ofDatum single double DriverConfig.shape c.toDatum

end DriverConfig

end DepthBridge
