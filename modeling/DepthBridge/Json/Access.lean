import DepthBridge.Json.Value

/-!
# Reading values out of JSON

Accessors used when a JSON document describes bridge values: a field that is `null` counts as
missing, a float may be written as a number or as one of the strings `NaN`, `inf` and `-inf`,
and an integer must be a whole number in range.
-/

namespace DepthBridge
namespace Json

/-- The field `key` of an object, `null` counting as missing. -/
def field? (j : Json) (key : String) : Option Json :=
  match j.get? key with
  | some .null => none
  | other => other

/-- A float: a number, or `NaN`, `inf`, `-inf` as strings. -/
def asFloat? : Json → Option Float
  | .int i => some (Float.ofInt i)
  | .double x => some x
  | .single x => some x.toFloat
  | .str "NaN" => some (0.0 / 0.0)
  | .str "inf" => some (1.0 / 0.0)
  | .str "-inf" => some (-(1.0 / 0.0))
  | _ => none

/-- An integer. -/
def asInt? : Json → Option Int
  | .int i => some i
  | _ => none

/-- A natural number. -/
def asNat? : Json → Option Nat
  | .int i => if i ≥ 0 then some i.toNat else none
  | _ => none

/-- A string. -/
def asStr? : Json → Option String
  | .str s => some s
  | _ => none

/-- A boolean. -/
def asBool? : Json → Option Bool
  | .bool b => some b
  | _ => none

/-- An array's items. -/
def asArr? : Json → Option (List Json)
  | .arr xs => some xs
  | _ => none

/-- An object's entries. -/
def asObj? : Json → Option (List (String × Json))
  | .obj es => some es
  | _ => none

/-- Reading a described value: the error is a description of what is wrong. -/
abbrev Decode := Except String

/-- The field `key`, read by `read`; it must be there. -/
def need (j : Json) (key : String) (read : Json → Option α) : Decode α :=
  match j.field? key with
  | some v => match read v with
    | some a => pure a
    | none => throw s!"invalid type for field `{key}`"
  | none => throw s!"missing field `{key}`"

/-- The field `key`, read by `read`, or `dflt` when it is missing. -/
def optional (j : Json) (key : String) (read : Json → Option α) (dflt : α) : Decode α :=
  match j.field? key with
  | some v => match read v with
    | some a => pure a
    | none => throw s!"invalid type for field `{key}`"
  | none => pure dflt

/-- A name out of `table`, or the error naming the expected ones. -/
def choose (table : List (String × α)) (name : String) : Decode α :=
  match table.lookup name with
  | some a => pure a
  | none =>
    let expected := ", ".intercalate (table.map fun (n, _) => "`" ++ n ++ "`")
    throw s!"unknown variant `{name}`, expected one of {expected}"

/-- A string field naming an entry of `table`; it must be there. -/
def needChoice (j : Json) (key : String) (table : List (String × α)) : Decode α := do
  choose table (← need j key asStr?)

/-- A string field naming an entry of `table`, or `dflt` when it is missing. -/
def optionalChoice (j : Json) (key : String) (table : List (String × α)) (dflt : α) : Decode α := do
  match j.field? key with
  | some (.str name) => choose table name
  | some _ => throw s!"invalid type for field `{key}`"
  | none => pure dflt

/-- An array of floats. -/
def asFloats? (j : Json) : Option (List Float) := j.asArr?.bind (·.mapM asFloat?)

/-- An array of singles, each the nearest to its double. -/
def asSingles? (j : Json) : Option (List Float32) := (asFloats? j).map (·.map Float.toFloat32)

/-- An array of exactly `n` singles. -/
def asSinglesOf? (n : Nat) (j : Json) : Option (Vector Float32 n) :=
  (asSingles? j).bind fun xs => if h : xs.length = n then some ⟨xs.toArray, by simpa using h⟩ else none

/-- A natural number below `2 ^ bits`. -/
def asBounded? (bits : Nat) (j : Json) : Option Nat :=
  (asNat? j).bind fun n => if n < Nat.pow 2 bits then some n else none

end Json
end DepthBridge
