import DepthBridge.Config.Schema
import DepthBridge.Config.FromJson
import DepthBridge.Toml.Document
import DepthBridge.Cli.Value

/-!
# Reading a configuration from TOML text

The document is parsed whole first, so a syntax fault anywhere wins over a value of the wrong
shape. The tables are then read against the configuration's `Shape`, each table's entries in
key order, and the first problem is reported with the span of the value it concerns:

* a value of the wrong type, out of range, or an unknown name: the value itself;
* a required field that is missing, or a record written as a too-short array: the table or the
  array that should have held it.

Numbers become machine numbers here. An integer is handed over in the narrowest of the 64-bit
signed, 64-bit unsigned, 128-bit signed and 128-bit unsigned types that holds it, and one that
fits none has overflowed. A float that rounds to infinity without being written as `inf` has
overflowed too. Even the numbers under unknown keys are checked this way; otherwise unknown keys
are ignored. A 64-bit integer converts to a float; a record may be written as an array of its
fields in order; an enumeration is a string, or a table whose one key names the variant.
-/

namespace DepthBridge
namespace Toml

/-- The machine type an integer is handed over in. -/
inductive Width where
  | i64 | u64 | i128 | u128
  deriving DecidableEq

/-- The narrowest machine type that holds `v`. -/
def Width.of? (v : Int) : Option Width :=
  if -(Nat.pow 2 63 : Int) ≤ v && v < (Nat.pow 2 63 : Int) then some .i64
  else if 0 ≤ v && v < (Nat.pow 2 64 : Int) then some .u64
  else if -(Nat.pow 2 127 : Int) ≤ v && v < (Nat.pow 2 127 : Int) then some .i128
  else if 0 ≤ v && v < (Nat.pow 2 128 : Int) then some .u128
  else none

/-- The value of an integer's sign and digits in `radix`. -/
def integerValue? (digits : String) (radix : Nat) : Option Int :=
  let (negative, body) := match digits.toList with
    | '-' :: r => (true, r)
    | '+' :: r => (false, r)
    | r => (false, r)
  if body.isEmpty then none
  else
    let n := body.foldl (fun acc c => acc.bind fun n =>
      (hexValue? c.toUInt8).bind fun d => if d < radix then some (radix * n + d) else none) (some 0)
    n.map fun n => if negative then -(n : Int) else n

/-- An integer with its machine type, or the overflow fault. -/
def integerAt (digits : String) (radix : Nat) (span : Span) : Except Fault (Int × Width) :=
  match (integerValue? digits radix).bind fun v => (Width.of? v).map (v, ·) with
  | some r => pure r
  | none => throw (Fault.spanning "integer number overflowed" span)

/-- A float, or the overflow fault. -/
def floatAt (text : String) (span : Span) : Except Fault Float :=
  match Cli.readDouble text with
  | .ok x => if x.isInf && !text.contains 'i' then throw (Fault.spanning "floating-point number overflowed" span) else pure x
  | .error _ => throw (Fault.spanning "floating-point number overflowed" span)

/-- How an integer of a machine type is named in a fault. -/
def integerText (v : Int) : Width → String
  | .i64 | .u64 => s!"integer `{v}`"
  | .i128 => s!"integer `{v}` as i128"
  | .u128 => s!"integer `{v}` as u128"

/-- How a value is named in a type error; numbers are converted first, so an overflow is
reported instead. -/
def Item.unexpected : Item → Except Fault String
  | .str s _ => pure s!"string {Text.quoted s}"
  | .integer d r span => do
    let (v, w) ← integerAt d r span
    return integerText v w
  | .float t span => do
    let x ← floatAt t span
    return s!"floating point `{Decimal.Style.quoted.double x}`"
  | .bool b _ => pure s!"boolean `{b}`"
  | .datetime .. | .table .. => pure "map"
  | .array .. => pure "sequence"

/-- The fault for a value of the wrong type. -/
def wrongType (expected : String) (item : Item) : Except Fault α := do
  let named ← item.unexpected
  throw (Fault.spanning s!"invalid type: {named}, expected {expected}" item.span)

/-- The name `s` as an index into `names`. -/
def pickName (names : List String) (s : String) (span : Span) : Except Fault Datum :=
  match names.idxOf? s with
  | some i => pure (.choice i)
  | none => throw (Fault.spanning (Json.unknownName s names) span)

/-- A one-entry table naming a variant: the key is the name, the value an empty table or
array. -/
def pickVariant (names : List String) (entries : Entries) (span : Span) : Except Fault Datum :=
  match entries with
  | [] => throw (Fault.spanning "wanted exactly 1 element, found 0 elements" span)
  | [(k, kspan, v)] => do
    let d ← pickName names k kspan
    match v with
    | .table [] _ _ | .array [] _ _ => pure d
    | .table _ _ vspan => throw (Fault.spanning "expected empty table" vspan)
    | .array _ _ vspan => throw (Fault.spanning "expected empty array" vspan)
    | other => throw (Fault.spanning s!"expected table, found {other.typeName}" other.span)
  | _ => throw (Fault.spanning "wanted exactly 1 element, more than 1 element" span)

/-- The fields `pending`, from position `i` on, that an array left out: the first required one
fails, the others take their defaults. -/
def leftOut (name : String) (count : Nat) (span : Span) :
    List (String × Shape × Bool) → Nat → Except Fault (List (String × Datum))
  | [], _ => pure []
  | (_, _, required) :: rest, i =>
    if required then throw (Fault.spanning s!"invalid length {i}, expected struct {name} with {count} elements" span)
    else leftOut name count span rest (i + 1)

mutual

/-- Checks a value under an unknown key: only its numbers can fail, by overflowing. -/
def ignore : Item → Except Fault Unit
  | .integer d r span => discard (integerAt d r span)
  | .float t span => discard (floatAt t span)
  | .array items _ _ => ignoreItems items
  | .table entries _ _ => ignoreEntries entries
  | _ => pure ()
termination_by structural item => item

/-- Checks the values of an unknown array. -/
def ignoreItems : List Item → Except Fault Unit
  | [] => pure ()
  | item :: rest => do ignore item; ignoreItems rest
termination_by structural items => items

/-- Checks the values of an unknown table. -/
def ignoreEntries : Entries → Except Fault Unit
  | [] => pure ()
  | (_, _, item) :: rest => do ignore item; ignoreEntries rest
termination_by structural entries => entries

end

/-- An integer read against shape `s`, which is numeric. -/
def decodeInteger (s : Shape) (item : Item) (digits : String) (radix : Nat) (span : Span) :
    Except Fault Datum := do
  let (v, w) ← integerAt digits radix span
  let narrow := w == .i64 || w == .u64
  match s with
  | .double => if narrow then pure (.double (Float.ofInt v)) else wrongType s.expected item
  | .single => if narrow then pure (.single (Float32.ofInt v)) else wrongType s.expected item
  | .unsigned name bits =>
    if !narrow then wrongType s.expected item
    else if 0 ≤ v && v < (Nat.pow 2 bits : Int) then pure (.nat v.toNat)
    else throw (Fault.spanning s!"invalid value: integer `{v}`, expected {name}" span)
  | _ => wrongType s.expected item

mutual

/-- The item read against shape `s`. -/
def decode (s : Shape) (item : Item) : Except Fault Datum :=
  match s, item with
  | .flag, .bool b _ => pure (.flag b)
  | .text, .str t _ => pure (.text t)
  | .double, .float t span => return .double (← floatAt t span)
  | .single, .float t span => return .single (← floatAt t span).toFloat32
  | .double, .integer d r span | .single, .integer d r span | .unsigned .., .integer d r span =>
    decodeInteger s item d r span
  | .choice _ names, .str t span => pickName names t span
  | .choice _ names, .table entries _ span => pickVariant names entries span
  | .choice .., other => throw (Fault.spanning "wanted string or table" other.span)
  | .list shape, .array items _ _ => return .list (← decodeItems shape items)
  | .record _ fields, .table entries _ span => do
    let got ← decodeEntries fields entries
    match firstMissing fields got with
    | some k => throw (Fault.spanning s!"missing field `{k}`" span)
    | none => pure (.record got)
  | .record _ fields, .datetime _ span =>
    match firstMissing fields [] with
    | some k => throw (Fault.spanning s!"missing field `{k}`" span)
    | none => pure (.record [])
  | .record name fields, .array items _ span =>
    return .record (← decodeFieldList name fields.length fields 0 items span)
  | s, other => wrongType s.expected other
termination_by structural item

/-- The items of an array, each against `shape`. -/
def decodeItems (shape : Shape) : List Item → Except Fault (List Datum)
  | [] => pure []
  | item :: rest => return (← decode shape item) :: (← decodeItems shape rest)
termination_by structural items => items

/-- The entries of a table that are fields, in key order; the values of other keys are only
checked. -/
def decodeEntries (fields : List (String × Shape × Bool)) : Entries → Except Fault (List (String × Datum))
  | [] => pure []
  | (k, _, item) :: rest =>
    match fields.find? (·.1 == k) with
    | some (_, shape, _) => return (k, ← decode shape item) :: (← decodeEntries fields rest)
    | none => do
      ignore item
      decodeEntries fields rest
termination_by structural entries => entries

/-- A record written as an array: its fields in order, a missing one taking its default or,
if required, failing. -/
def decodeFieldList (name : String) (count : Nat) (pending : List (String × Shape × Bool))
    (i : Nat) (items : List Item) (span : Span) : Except Fault (List (String × Datum)) :=
  match pending, items with
  | [], _ => pure []
  | (k, shape, _) :: rest, item :: more =>
    return (k, ← decode shape item) :: (← decodeFieldList name count rest (i + 1) more span)
  | pending, [] => leftOut name count span pending i
termination_by structural items

end

/-- Reads a whole document against shape `s`. -/
def readDocument (s : Shape) (text : String) : Except Fault Datum := do
  decode s (← parse text)

end Toml
end DepthBridge
