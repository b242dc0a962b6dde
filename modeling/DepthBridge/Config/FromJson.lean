import DepthBridge.Config.Schema
import DepthBridge.Json.Parse

/-!
# Reading a configuration from JSON text

The text is read in one pass against the configuration's `Shape`, so the first problem in the
text wins, whether it is one of syntax or of shape. Each problem is reported where it was
noticed:

* a value of the wrong type: after a scalar, or at the bracket of a list or an object;
* a value out of range, an unknown name, a float out of range: after the value;
* a required field that is missing: after the object's closing brace or the list's closing
  bracket;
* a field given twice: after the repeated key.

A record may also be written as a list of its fields in order. Unknown object keys are
skipped, their values checked for syntax only (`Json.skipValue`).
-/

namespace DepthBridge
namespace Json

open Reader

/-- How a value found in the text is named in a type error. -/
def unexpectedNumber : Number → String
  | .unsigned n => s!"integer `{n}`"
  | .negative i => s!"integer `{i}`"
  | .float x => s!"floating point `{Decimal.Style.json.double x}`"

/-- Names joined as an error lists the expected ones. -/
def oneOf : List String → String
  | [] => "there are no variants"
  | [a] => s!"`{a}`"
  | [a, b] => s!"`{a}` or `{b}`"
  | names => "one of " ++ ", ".intercalate (names.map fun n => s!"`{n}`")

/-- The error for a name not in `names`. -/
def unknownName (s : String) (names : List String) : String :=
  match names with
  | [] => s!"unknown variant `{s}`, there are no variants"
  | _ => s!"unknown variant `{s}`, expected {oneOf names}"

/-- Reads the value at the reader only to report it as a value of the wrong type: scalars are
consumed and the fault placed after them; a list or an object is reported at its bracket. -/
def wrongType (expected : String) : Reader α := do
  match ← skipBlanks with
  | some 'n' => bump; expectWord ['u', 'l', 'l']; fault s!"invalid type: null, expected {expected}"
  | some 't' =>
    bump; expectWord ['r', 'u', 'e']; fault s!"invalid type: boolean `true`, expected {expected}"
  | some 'f' =>
    bump; expectWord ['a', 'l', 's', 'e']; fault s!"invalid type: boolean `false`, expected {expected}"
  | some '"' =>
    bump
    let s ← readStringBody
    fault s!"invalid type: string {Text.quoted s}, expected {expected}"
  | some '[' => fault s!"invalid type: sequence, expected {expected}"
  | some '{' => fault s!"invalid type: map, expected {expected}"
  | some c =>
    if c = '-' || c.isDigit then
      let n ← readNumber
      fault s!"invalid type: {unexpectedNumber n}, expected {expected}"
    else peekFault SyntaxFault.expectedValue.message
  | none => peekFault SyntaxFault.eofInValue.message

/-- A number converted to the numeric shape `s`. -/
def numberAs (s : Shape) (n : Number) : Reader Datum :=
  match s, n with
  | .double, .unsigned k => pure (.double (Float.ofNat k))
  | .double, .negative i => pure (.double (Float.ofInt i))
  | .double, .float x => pure (.double x)
  | .single, .unsigned k => pure (.single (Float32.ofNat k))
  | .single, .negative i => pure (.single (Float.ofInt i).toFloat32)
  | .single, .float x => pure (.single x.toFloat32)
  | .unsigned name bits, .unsigned k =>
    if k < Nat.pow 2 bits then pure (.nat k) else fault s!"invalid value: integer `{k}`, expected {name}"
  | .unsigned name _, .negative i => fault s!"invalid value: integer `{i}`, expected {name}"
  | s, n => fault s!"invalid type: {unexpectedNumber n}, expected {s.expected}"

mutual

/-- One value of shape `s`, within `fuel` levels of nesting. -/
def readShaped (depth : Nat) (s : Shape) : Reader Datum :=
  match depth with
  | 0 => fault "recursion limit exceeded"
  | fuel + 1 => do
    let c ← skipBlanks
    match s with
    | .flag =>
      match c with
      | some 't' => bump; expectWord ['r', 'u', 'e']; return .flag true
      | some 'f' => bump; expectWord ['a', 'l', 's', 'e']; return .flag false
      | none => peekFault SyntaxFault.eofInValue.message
      | _ => wrongType s.expected
    | .text =>
      match c with
      | some '"' => bump; return .text (← readStringBody)
      | none => peekFault SyntaxFault.eofInValue.message
      | _ => wrongType s.expected
    | .single | .double | .unsigned .. =>
      match c with
      | none => peekFault SyntaxFault.eofInValue.message
      | some d =>
        if d = '-' || d.isDigit then numberAs s (← readNumber)
        else wrongType s.expected
    | .choice _ names =>
      match c with
      | some '"' =>
        bump
        let name ← readStringBody
        match names.idxOf? name with
        | some i => return .choice i
        | none => fault (unknownName name names)
      | some '{' =>
        bump
        match ← skipBlanks with
        | some '"' => pure ()
        | some _ => peekFault SyntaxFault.expectedValue.message
        | none => peekFault SyntaxFault.eofInValue.message
        bump
        let name ← readStringBody
        let i ← match names.idxOf? name with
          | some i => pure i
          | none => fault (unknownName name names)
        match ← skipBlanks with
        | some ':' => bump
        | some _ => peekFault SyntaxFault.expectedColon.message
        | none => peekFault SyntaxFault.eofInObject.message
        match ← skipBlanks with
        | some 'n' => bump; expectWord ['u', 'l', 'l']
        | _ => wrongType "unit variant"
        match ← skipBlanks with
        | some '}' => bump; return .choice i
        | some _ => fault SyntaxFault.expectedValue.message
        | none => fault SyntaxFault.eofInObject.message
      | none => peekFault SyntaxFault.eofInValue.message
      | _ => peekFault SyntaxFault.expectedValue.message
    | .list item =>
      match c with
      | some '[' =>
        bump
        let items ← readShapedItems fuel item true [] (← read).size
        bump
        return .list items
      | none => peekFault SyntaxFault.eofInValue.message
      | _ => wrongType s.expected
    | .record name fields =>
      match c with
      | some '{' =>
        bump
        let got ← readFields fuel fields true [] (← read).size
        -- every required field must be there; then the closing brace
        let missing := firstMissing fields got
        bump
        match missing with
        | some k => fault s!"missing field `{k}`"
        | none => return .record got.reverse
      | some '[' =>
        bump
        let got ← readFieldList fuel name fields.length fields 0 []
        match ← skipBlanks with
        | some ']' => bump; return .record got.reverse
        | some ',' =>
          bump
          match ← skipBlanks with
          | some ']' => peekFault SyntaxFault.trailingComma.message
          | _ => peekFault SyntaxFault.trailingCharacters.message
        | some _ => peekFault SyntaxFault.trailingCharacters.message
        | none => peekFault SyntaxFault.eofInList.message
      | none => peekFault SyntaxFault.eofInValue.message
      | _ => wrongType s.expected
termination_by (depth, 0)

/-- The items of a list after `[`, up to (not past) the `]`. -/
def readShapedItems (fuel : Nat) (item : Shape) (first : Bool) (acc : List Datum)
    (budget : Nat) : Reader (List Datum) :=
  match budget with
  | 0 => peekFault SyntaxFault.eofInList.message
  | budget + 1 => do
    match ← skipBlanks with
    | none => peekFault SyntaxFault.eofInList.message
    | some ']' => return acc.reverse
    | some ',' =>
      if first then
        let d ← readShaped fuel item
        readShapedItems fuel item false (d :: acc) budget
      else do
        bump
        match ← skipBlanks with
        | some ']' => peekFault SyntaxFault.trailingComma.message
        | none => peekFault SyntaxFault.eofInValue.message
        | _ =>
          let d ← readShaped fuel item
          readShapedItems fuel item false (d :: acc) budget
    | some _ =>
      if first then
        let d ← readShaped fuel item
        readShapedItems fuel item false (d :: acc) budget
      else peekFault SyntaxFault.expectedListCommaOrEnd.message
termination_by (fuel, budget + 1)

/-- The fields of an object after `{`, up to (not past) the `}`; `acc` holds the fields read so
far, latest first. -/
def readFields (fuel : Nat) (fields : List (String × Shape × Bool)) (first : Bool)
    (acc : List (String × Datum)) (budget : Nat) : Reader (List (String × Datum)) :=
  match budget with
  | 0 => peekFault SyntaxFault.eofInObject.message
  | budget + 1 => do
    let c ← skipBlanks
    let keyStart ← match c with
      | none => peekFault SyntaxFault.eofInObject.message
      | some '}' => pure none
      | some ',' =>
        if first then pure (some ',') else do bump; pure ((← skipBlanks).getD ' ')
      | some d => if first then pure (some d) else peekFault SyntaxFault.expectedObjectCommaOrEnd.message
    match c, keyStart with
    | some '}', _ => return acc
    | _, none => return acc
    | _, some '"' =>
      -- an end of text right after a comma
      bump
      let key ← readStringBody
      match fields.find? (·.1 == key) with
      | some (_, shape, _) =>
        if (acc.lookup key).isSome then
          let _ ← skipBlanks
          fault s!"duplicate field `{key}`"
        match ← skipBlanks with
        | some ':' => bump
        | some _ => peekFault SyntaxFault.expectedColon.message
        | none => peekFault SyntaxFault.eofInObject.message
        let d ← readShaped fuel shape
        readFields fuel fields false ((key, d) :: acc) budget
      | none =>
        match ← skipBlanks with
        | some ':' => bump
        | some _ => peekFault SyntaxFault.expectedColon.message
        | none => peekFault SyntaxFault.eofInObject.message
        skipValue
        readFields fuel fields false acc budget
    | _, some '}' => peekFault SyntaxFault.trailingComma.message
    | _, some ' ' =>
      if (← peek?).isNone then peekFault SyntaxFault.eofInValue.message
      else peekFault SyntaxFault.keyMustBeString.message
    | _, some _ => peekFault SyntaxFault.keyMustBeString.message
termination_by (fuel, budget + 1)

/-- A record written as a list: its fields in order, a missing one taking its default or, if
required, failing. -/
def readFieldList (fuel : Nat) (name : String) (count : Nat) (pending : List (String × Shape × Bool))
    (i : Nat) (acc : List (String × Datum)) : Reader (List (String × Datum)) :=
  match pending with
  | [] => return acc
  | (key, shape, required) :: rest => do
    let c ← skipBlanks
    let present ← match c with
      | some ']' => pure false
      | some ',' =>
        if i = 0 then pure true
        else do
          bump
          match ← skipBlanks with
          | some ']' => peekFault SyntaxFault.trailingComma.message
          | none => peekFault SyntaxFault.eofInValue.message
          | _ => pure true
      | none => peekFault SyntaxFault.eofInList.message
      | some _ => if i = 0 then pure true else peekFault SyntaxFault.expectedListCommaOrEnd.message
    if present then
      let d ← readShaped fuel shape
      readFieldList fuel name count rest (i + 1) ((key, d) :: acc)
    else if required then
      bump
      fault s!"invalid length {i}, expected struct {name} with {count} elements"
    else readFieldList fuel name count rest (i + 1) acc
termination_by (fuel, pending.length + 1)

end

/-- Reads a whole text against shape `s`; only blanks may follow the value. -/
def readDocument (s : Shape) (text : String) : Except Fault Datum :=
  let run : Reader Datum := do
    let v ← readShaped 128 s
    match ← skipBlanks with
    | none => return v
    | some _ => peekFault SyntaxFault.trailingCharacters.message
  (run.run text.toUTF8 |>.run 0).map (·.1)

end Json
end DepthBridge
