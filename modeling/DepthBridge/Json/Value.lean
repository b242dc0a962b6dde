import DepthBridge.Decimal.Layout

/-!
# JSON values

The bridge reads its requests and configuration files as JSON and writes messages and
configuration dumps in it. Numbers keep the kind they were read or produced with: an integer,
a double, or a single (written with single-precision digits), so that `3.0` and `3` stay apart.

Objects keep their entries in insertion order. Text is written compactly (`render`) or with
two-space indentation (`pretty`); strings escape the quote, the backslash and the control
characters, and nothing else.
-/

namespace DepthBridge

/-- A JSON document. -/
inductive Json where
  | null
  | bool (b : Bool)
  | int (i : Int)
  | double (x : Float)
  | single (x : Float32)
  | str (s : String)
  | arr (items : List Json)
  | obj (entries : List (String × Json))
  deriving Inhabited

namespace Json

/-- A natural number as JSON. -/
def nat (n : Nat) : Json := .int n

/-- The entry `key` of an object, if any (the first one). -/
def get? (j : Json) (key : String) : Option Json :=
  match j with
  | .obj entries => entries.lookup key
  | _ => none

/-- The hexadecimal digit of `n < 16`, in lower case. -/
def hexDigit (n : Nat) : Char :=
  if n < 10 then Char.ofNat (48 + n) else Char.ofNat (87 + n)

/-- The escaped form of one character inside a string literal. -/
def escapeChar (c : Char) : String :=
  if c = '"' then "\\\""
  else if c = '\\' then "\\\\"
  else if c = '\n' then "\\n"
  else if c = '\r' then "\\r"
  else if c = '\t' then "\\t"
  else if c.toNat = 8 then "\\b"
  else if c.toNat = 12 then "\\f"
  else if c.toNat < 32 then
    "\\u00" ++ String.singleton (hexDigit (c.toNat / 16)) ++ String.singleton (hexDigit (c.toNat % 16))
  else String.singleton c

/-- A string literal. -/
def quote (s : String) : String :=
  "\"" ++ String.join (s.toList.map escapeChar) ++ "\""

/-- A double as answer data: finite values are numbers, the others the strings `NaN`, `inf`
and `-inf`. -/
def num (x : Float) : Json :=
  if x.isNaN then .str "NaN"
  else if x.isInf then .str (if x > 0 then "inf" else "-inf")
  else .double x

/-- A single as answer data, widened exactly to a double. -/
def num32 (x : Float32) : Json := num x.toFloat

mutual

/-- Compact text. -/
def render : Json → String
  | .null => "null"
  | .bool b => if b then "true" else "false"
  | .int i => toString i
  | .double x => Decimal.Style.json.double x
  | .single x => Decimal.Style.json.single x
  | .str s => quote s
  | .arr items => "[" ++ ",".intercalate (renderItems items) ++ "]"
  | .obj entries => "\x7b" ++ ",".intercalate (renderEntries entries) ++ "\x7d"

/-- Compact text of each array item. -/
def renderItems : List Json → List String
  | [] => []
  | j :: rest => render j :: renderItems rest

/-- Compact text of each object entry. -/
def renderEntries : List (String × Json) → List String
  | [] => []
  | (k, j) :: rest => (quote k ++ ":" ++ render j) :: renderEntries rest

end

mutual

/-- Text indented by two spaces per level, starting at level `level`. -/
def prettyAt (level : Nat) : Json → String
  | .arr [] => "[]"
  | .obj [] => "{}"
  | .arr items =>
    "[" ++ ",".intercalate (prettyItems level items)
      ++ "\n" ++ Decimal.repeatChar ' ' (2 * level) ++ "]"
  | .obj entries =>
    "\x7b" ++ ",".intercalate (prettyEntries level entries)
      ++ "\n" ++ Decimal.repeatChar ' ' (2 * level) ++ "\x7d"
  | .null => "null"
  | .bool b => if b then "true" else "false"
  | .int i => toString i
  | .double x => Decimal.Style.json.double x
  | .single x => Decimal.Style.json.single x
  | .str s => quote s

/-- The indented items of an array at level `level`. -/
def prettyItems (level : Nat) : List Json → List String
  | [] => []
  | j :: rest =>
    ("\n" ++ Decimal.repeatChar ' ' (2 * (level + 1)) ++ prettyAt (level + 1) j)
      :: prettyItems level rest

/-- The indented entries of an object at level `level`. -/
def prettyEntries (level : Nat) : List (String × Json) → List String
  | [] => []
  | (k, j) :: rest =>
    ("\n" ++ Decimal.repeatChar ' ' (2 * (level + 1)) ++ quote k ++ ": " ++ prettyAt (level + 1) j)
      :: prettyEntries level rest

end

/-- Text indented by two spaces per level. -/
def pretty (j : Json) : String := prettyAt 0 j

end Json

end DepthBridge
