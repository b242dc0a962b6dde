import DepthBridge.Toml.Syntax
import DepthBridge.Toml.Datetime

/-!
# Decoding TOML keys and scalars

The raw pieces of the syntax tree are decoded here: key parts into names, quoted strings into
their text (escapes applied), and bare values into booleans, numbers and dates. Numbers keep
their digits. An integer keeps its sign and digits, underscores dropped, with its radix. A float
keeps its text, underscores dropped. They become machine numbers only when a field reads them,
since a value that does not fit is a fault only there.

Each check reports the first thing wrong in the text. Bare values are told apart by their
first byte: a sign, a digit, a dot, or the first letter of `true`, `false`, `inf` and `nan`.
Anything else is a string that lacks its quotes.
-/

namespace DepthBridge
namespace Toml

/-- A decoded scalar. -/
inductive Scalar where
  | string (s : String)
  | boolean (b : Bool)
  /-- An integer: its sign and digits, without underscores or radix prefix, and its radix. -/
  | integer (digits : String) (radix : Nat)
  /-- A float: its text without underscores. -/
  | float (text : String)
  | datetime (text : String)
  deriving Inhabited

/-- The bytes of `span` in `src`. -/
def bytesIn (src : ByteArray) (span : Span) : List UInt8 :=
  (src.extract span.start span.stop).toList

/-- The text of a list of bytes; invalid text is empty. -/
def textOf (bytes : List UInt8) : String :=
  (String.fromUTF8? (ByteArray.mk bytes.toArray)).getD ""

/-- Whether a byte is an ASCII digit. -/
def isDigitByte (b : UInt8) : Bool := 48 ≤ b && b ≤ 57

/-- The value of a hexadecimal digit byte. -/
def hexValue? (b : UInt8) : Option Nat :=
  if 48 ≤ b && b ≤ 57 then some (b.toNat - 48)
  else if 97 ≤ b && b ≤ 102 then some (b.toNat - 87)
  else if 65 ≤ b && b ≤ 70 then some (b.toNat - 55)
  else none

/-- The index of the first of `bs` that `p` accepts, or the length of `bs`. -/
def firstWhere (p : UInt8 → Bool) (bs : List UInt8) : Nat :=
  (bs.findIdx? p).getD bs.length

/-! ## Quoted strings -/

/-- What an escape may be. -/
def escapeLetters : List Expected :=
  ["b", "e", "f", "n", "r", "\\", "\"", "x", "u", "U"].map .literal

/-- The character written by the escape whose letter is at index `i`, the body ending at
`stop`, and the index after the escape. -/
def escapeAt (src : ByteArray) (i stop : Nat) : Except Fault (Char × Nat) :=
  if i ≥ stop then .error (Fault.expecting "missing escaped value" escapeLetters ⟨stop, stop⟩)
  else
    let simple (c : Nat) : Except Fault (Char × Nat) := .ok (Char.ofNat c, i + 1)
    let hex (n : Nat) : Except Fault (Char × Nat) :=
      let digits := (List.range n).map (fun k => if i + 1 + k < stop then src[i + 1 + k]? else none)
      let count := (digits.takeWhile (fun b => (b.bind hexValue?).isSome)).length
      if count < n then
        .error (Fault.expecting "too few unicode value digits"
          [.description "unicode hexadecimal value"] ⟨i + 1 + count, i + 1 + count⟩)
      else
        let v := digits.foldl (fun acc b => 16 * acc + ((b.bind hexValue?).getD 0)) 0
        if v < 0xD800 || (0xE000 ≤ v && v ≤ 0x10FFFF) then .ok (Char.ofNat v, i + 1 + n)
        else .error (Fault.expecting "invalid value" [.description "unicode hexadecimal value"] ⟨i + 1, i + 1⟩)
    match src[i]!.toNat with
    | 98 => simple 8
    | 101 => simple 27
    | 102 => simple 12
    | 110 => simple 10
    | 114 => simple 13
    | 116 => simple 9
    | 92 => simple 92
    | 34 => simple 34
    | 120 => hex 2
    | 117 => hex 4
    | 85 => hex 8
    | _ => .error (Fault.expecting "missing escaped value" escapeLetters ⟨i, i⟩)

/-- Whether a byte may stand unescaped in a basic string. -/
def isBasicByte (b : UInt8) : Bool :=
  b = 9 || b = 32 || b = 33 || (35 ≤ b && b ≤ 91) || (93 ≤ b && b ≤ 126) || 128 ≤ b

/-- Whether a byte may stand unescaped in a multi-line basic string. -/
def isMultilineBasicByte (b : UInt8) : Bool := isBasicByte b || b = 34 || b = 10

/-- The body of a basic string from index `i` to `stop`, after the bytes in `out`. In a
multi-line string a backslash before blanks and a line break joins the lines. -/
def basicBody (src : ByteArray) (multiline : Bool) (i stop : Nat) (out : ByteArray) :
    Except Fault ByteArray :=
  if i < stop then
    let b := src[i]!
    if b = 92 then
      let following := src[i + 1]?
      if multiline && i + 1 < stop && (following == some 32 || following == some 9
          || following == some 10 || following == some 13) then
        let blanks := (List.range (stop - (i + 1))).map (fun k => src[i + 1 + k]!)
        let k := firstWhere (fun c => c != 32 && c != 9) blanks
        let lineAt := i + 1 + k
        let broken := if lineAt < stop && src[lineAt]! = 10 then some (lineAt + 1)
          else if lineAt + 1 < stop && src[lineAt]! = 13 && src[lineAt + 1]! = 10 then some (lineAt + 2)
          else none
        match broken with
        | none => .error (Fault.expecting "missing escaped value" escapeLetters ⟨i + 1, i + 1⟩)
        | some j =>
          let rest := (List.range (stop - j)).map (fun k => src[j + k]!)
          let skip := firstWhere (fun c => c != 32 && c != 9 && c != 10 && c != 13) rest
          basicBody src multiline (max (j + skip) (i + 1)) stop out
      else
        match escapeAt src (i + 1) stop with
        | .error f => .error f
        | .ok (c, j) => basicBody src multiline (max j (i + 1)) stop (out ++ c.toString.toUTF8)
    else if multiline && b = 13 && i + 1 < stop && src[i + 1]! = 10 then
      basicBody src multiline (i + 2) stop ((out.push 13).push 10)
    else if (if multiline then isMultilineBasicByte b else isBasicByte b) then
      basicBody src multiline (i + 1) stop (out.push b)
    else
      let rest := (List.range (stop - i)).map (fun k => src[i + k]!)
      let ok (c : UInt8) := c = 92 || (if multiline then isMultilineBasicByte c else isBasicByte c)
      let e := i + firstWhere ok rest
      if multiline then
        .error (Fault.expecting "invalid multi-line basic string" [.literal "\\", .description "characters"] ⟨i, e⟩)
      else
        .error (Fault.expecting "invalid basic string"
          [.description "non-double-quote visible characters", .literal "\\"] ⟨i, e⟩)
  else .ok out
termination_by stop - i

/-- Where the body of a quoted string starts and stops, given its opening and closing quotes
`q`: after a line break right after the opening for multi-line strings. -/
def quotedBody (src : ByteArray) (span : Span) (q : List UInt8) (multiline : Bool)
    (description : String) : Except Fault (Nat × Nat) := do
  let bytes := bytesIn src span
  if !(bytes.take q.length == q) then
    throw (Fault.expecting description [.literal (textOf q)] span.before)
  let opened := span.start + q.length
  let first := if !multiline then opened
    else if src[opened]? == some 10 && opened < span.stop then opened + 1
    else if src[opened]? == some 13 && src[opened + 1]? == some 10 && opened + 1 < span.stop then opened + 2
    else opened
  if span.stop ≥ first + q.length && (bytes.drop (span.stop - span.start - q.length)) == q then
    return (first, span.stop - q.length)
  else throw (Fault.expecting description [.literal (textOf q)] span.after)

/-- The text of a literal string, single- or multi-line. -/
def literalText (src : ByteArray) (span : Span) (multiline : Bool) : Except Fault String := do
  let description := if multiline then "invalid multi-line literal string" else "invalid literal string"
  let q : List UInt8 := if multiline then [39, 39, 39] else [39]
  let (first, stop) ← quotedBody src span q multiline description
  let body := bytesIn src ⟨first, stop⟩
  let isCr (k : Nat) := body[k]? == some 13 && body[k + 1]? == some 10
  let allowed (b : UInt8) (k : Nat) : Bool :=
    b = 9 || (32 ≤ b && b ≤ 126 && (multiline || b != 39)) || 128 ≤ b
      || (multiline && (b = 10 || (b = 13 && isCr k)))
  match body.zipIdx.find? (fun (b, k) => !allowed b k) with
  | some (_, k) =>
    let place := first + k
    if multiline then throw (Fault.expecting description [.description "characters"] ⟨place, place⟩)
    else throw (Fault.expecting description [.description "non-single-quote visible characters"] ⟨place, place⟩)
  | none => return textOf body

/-- The text of a basic string, single- or multi-line. -/
def basicText (src : ByteArray) (span : Span) (multiline : Bool) : Except Fault String := do
  let description := if multiline then "invalid multi-line basic string" else "invalid basic string"
  let q : List UInt8 := if multiline then [34, 34, 34] else [34]
  let (first, stop) ← quotedBody src span q multiline description
  let out ← basicBody src multiline first stop ByteArray.empty
  return (String.fromUTF8? out).getD ""

/-- The text of a quoted string. -/
def quotedText (src : ByteArray) (span : Span) : Quoting → Except Fault String
  | .literal => literalText src span false
  | .multilineLiteral => literalText src span true
  | .basic => basicText src span false
  | .multilineBasic => basicText src span true

/-! ## Keys -/

/-- What a bare key may be made of. -/
def keyBytes : List Expected :=
  [.description "letters", .description "numbers", .literal "-", .literal "_"]

/-- Whether a byte may stand in a bare key. -/
def isKeyByte (b : UInt8) : Bool :=
  (48 ≤ b && b ≤ 57) || (65 ≤ b && b ≤ 90) || (97 ≤ b && b ≤ 122) || b = 45 || b = 95

/-- The name of a key part. -/
def keyName (src : ByteArray) (raw : Raw) : Except Fault String :=
  match raw.quoting with
  | some .literal => literalText src raw.span false
  | some .basic => basicText src raw.span false
  | some .multilineLiteral =>
    .error (Fault.expecting "multi-line literal strings are not allowed for keys"
      [.description "literal string"] raw.span)
  | some .multilineBasic =>
    .error (Fault.expecting "multi-line basic strings are not allowed for keys"
      [.description "basic string"] raw.span)
  | none =>
    let bytes := bytesIn src raw.span
    if bytes.isEmpty then .error (Fault.expecting "unquoted keys cannot be empty" keyBytes raw.span)
    else
      let bad := firstWhere (! isKeyByte ·) bytes
      if bad < bytes.length then
        let runEnd := bad + firstWhere isKeyByte (bytes.drop bad)
        .error (Fault.expecting "invalid unquoted key" keyBytes ⟨raw.span.start + bad, raw.span.start + runEnd⟩)
      else .ok (textOf bytes)

/-! ## Bare values -/

/-- The digits a number of some radix may have. -/
inductive Digits where
  | decimal | hexadecimal | octal | binary
  deriving DecidableEq

/-- Whether `b` is a digit of the kind. -/
def Digits.accepts : Digits → UInt8 → Bool
  | .decimal, b => isDigitByte b
  | .hexadecimal, b => (hexValue? b).isSome
  | .octal, b => 48 ≤ b && b ≤ 55
  | .binary, b => b = 48 || b = 49

/-- The fault of a misplaced underscore. -/
def underscoreFault (place : Nat) : Fault :=
  Fault.expecting "`_` may only go between digits" [] ⟨place, place + 1⟩

/-- The pieces of `bs` between underscores, with where each starts. -/
def underscorePieces (bs : List UInt8) : List (Nat × List UInt8) :=
  let rec go (rest : List UInt8) (start : Nat) (piece : List UInt8) (acc : List (Nat × List UInt8)) :
      List (Nat × List UInt8) :=
    match rest with
    | [] => (acc ++ [(start, piece)])
    | b :: more =>
      if b = 95 then go more (start + piece.length + 1) [] (acc ++ [(start, piece)])
      else go more start (piece ++ [b]) acc
  go bs 0 [] []

/-- The digits of a bare number from index `startAt` of `bytes`, which starts at `o`, with the
underscores dropped after checking that each goes between two digits. -/
def dropUnderscores (bytes : List UInt8) (o startAt : Nat) (kind : Digits) : Except Fault String := do
  let stream := bytes.drop startAt
  if !stream.contains 95 then return textOf stream
  if stream.head? == some 95 then throw (underscoreFault (o + startAt))
  if stream.length > 1 && stream.getLast? == some 95 then throw (underscoreFault (o + bytes.length - 1))
  for (s, piece) in underscorePieces stream do
    let ps := startAt + s
    let pe := ps + piece.length
    if 0 < ps then
      match piece.head? with
      | some c => if !kind.accepts c then throw (underscoreFault (o + ps - 1))
      | none => throw (underscoreFault (o + ps - 1))
    if piece.length > 1 && pe < bytes.length then
      match piece.getLast? with
      | some c => if !kind.accepts c then throw (underscoreFault (o + pe))
      | none => pure ()
  return textOf (stream.filter (· != 95))

/-- Checks decimal digits from index `p`; where they end. A leading zero is a fault unless
`zeroOk`. -/
def decimalRun (bytes : List UInt8) (o p : Nat) (zeroOk : Bool) (description : String) :
    Except Fault Nat := do
  let count := firstWhere (fun b => !(isDigitByte b || b = 95)) (bytes.drop p)
  if count = 0 then throw (Fault.expecting description [.description "digits"] ⟨o + p, o + p⟩)
  if count ≥ 2 && bytes[p]? == some 48 && !zeroOk then
    throw (Fault.expecting "unexpected leading zero" [] ⟨o + p, o + p + 1⟩)
  return p + count

/-- Whether a byte is a sign. -/
def isSign (b : UInt8) : Bool := b = 43 || b = 45

/-- Checks the shape of a decimal integer. -/
def checkInteger (bytes : List UInt8) (o : Nat) : Except Fault Unit := do
  let p := if bytes.head?.any isSign then 1 else 0
  let p ← decimalRun bytes o p false "invalid integer"
  if p < bytes.length then throw (Fault.spanning "invalid integer" ⟨o + p, o + bytes.length⟩)

/-- Checks the shape of a float: mantissa, fraction and exponent. -/
def checkFloat (bytes : List UInt8) (o : Nat) : Except Fault Unit := do
  let p := if bytes.head?.any isSign then 1 else 0
  let mut p ← decimalRun bytes o p false "invalid mantissa"
  if bytes[p]? == some 46 then
    p ← decimalRun bytes o (p + 1) true "invalid fraction"
  if bytes[p]? == some 101 || bytes[p]? == some 69 then
    p := p + 1
    if bytes[p]?.any isSign then p := p + 1
    p ← decimalRun bytes o p true "invalid exponent"
  if p < bytes.length then throw (Fault.spanning "invalid float" ⟨o + p, o + bytes.length⟩)

/-- The fault of bare text that is no value: a string without its quotes. -/
def unquotedFault (bytes : List UInt8) (o : Nat) : Fault :=
  let endsWith (q : List UInt8) := bytes.length ≥ q.length && bytes.drop (bytes.length - q.length) == q
  if endsWith [39, 39, 39] then Fault.expecting "missing opening quote" [.literal "'''"] ⟨o, o⟩
  else if endsWith [34, 34, 34] then Fault.expecting "missing opening quote" [.literal "\"\"\""] ⟨o, o⟩
  else if endsWith [39] then Fault.expecting "missing opening quote" [.literal "'"] ⟨o, o⟩
  else if endsWith [34] then Fault.expecting "missing opening quote" [.literal "\""] ⟨o, o⟩
  else Fault.expecting "string values must be quoted" [.description "literal string"] ⟨o, o + bytes.length⟩

/-- A decimal float. -/
def floatScalar (bytes : List UInt8) (o : Nat) : Except Fault Scalar := do
  checkFloat bytes o
  return .float (← dropUnderscores bytes o 0 .decimal)

/-- A decimal integer. -/
def integerScalar (bytes : List UInt8) (o : Nat) : Except Fault Scalar := do
  checkInteger bytes o
  return .integer (← dropUnderscores bytes o 0 .decimal) 10

/-- A value starting with digits at index `k`: a date or time, a float or an integer. -/
def numberOrDate (bytes : List UInt8) (o k : Nat) : Except Fault Scalar :=
  let value := bytes.drop k
  let digitEnd := firstWhere (! isDigitByte ·) value
  if digitEnd = value.length then integerScalar bytes o
  else
    let rest := value.drop digitEnd
    if rest.head? == some 45 || rest.head? == some 58 then .ok (.datetime (textOf bytes))
    else if rest.contains 32 then .error (unquotedFault bytes o)
    else
      let after := rest.dropWhile (fun b => isDigitByte b || b = 95)
      match after.head? with
      | some 46 | some 101 | some 69 => floatScalar bytes o
      | none => integerScalar bytes o
      | _ => .error (unquotedFault bytes o)

/-- A number of another radix, its prefix `0x`, `0o` or `0b` at index `k`. -/
def radixScalar (bytes : List UInt8) (o k : Nat) (signed : Bool) (radix : Nat) (kind : Digits)
    (letter : UInt8) (description : String) : Except Fault Scalar := do
  if signed then throw (Fault.expecting "integers with a radix cannot be signed" [] ⟨o, o + 1⟩)
  if bytes[k + 1]? != some letter then
    throw (Fault.expecting "radix must be lowercase" [.literal ("0" ++ textOf [letter])] ⟨o + k, o + k + 2⟩)
  let start := k + 2
  let stream := bytes.drop start
  if stream.head?.any isSign then
    throw (Fault.expecting "unexpected sign" [] ⟨o + start, o + start + 1⟩)
  if let some (_, j) := stream.zipIdx.find? fun (b, _) => !(kind.accepts b || b = 95) then
    throw (Fault.spanning description ⟨o + start + j, o + start + j⟩)
  return .integer (← dropUnderscores bytes o start kind) radix

/-- A value starting with `0` at index `k`. -/
def zeroScalar (bytes : List UInt8) (o k : Nat) (signed : Bool) : Except Fault Scalar :=
  match bytes[k + 1]? with
  | none => .ok (.integer (textOf bytes) 10)
  | some b =>
    if b = 120 || b = 88 then radixScalar bytes o k signed 16 .hexadecimal 120 "invalid hexadecimal number"
    else if b = 111 || b = 79 then radixScalar bytes o k signed 8 .octal 111 "invalid octal number"
    else if b = 98 || b = 66 then radixScalar bytes o k signed 2 .binary 98 "invalid binary number"
    else if b = 100 || b = 68 then
      if signed then .error (Fault.expecting "integers with a radix cannot be signed" [] ⟨o, o + 1⟩)
      else .error (Fault.expecting "redundant integer number prefix" [] ⟨o + k, o + k + 2⟩)
    else numberOrDate bytes o k

/-- A value that must be the word `word`, whose scalar is `result`. -/
def wordScalar (bytes : List UInt8) (o : Nat) (word : String) (description : String)
    (result : Scalar) : Except Fault Scalar :=
  if textOf bytes == word then .ok result
  else if bytes.contains 32 then .error (unquotedFault bytes o)
  else .error (Fault.expecting description [.literal word] ⟨o, o + bytes.length⟩)

/-- A signed value, its sign at index 0. -/
def signedScalar (bytes : List UInt8) (o : Nat) : Except Fault Scalar :=
  match bytes[1]? with
  | none => .error (unquotedFault bytes o)
  | some b =>
    if isSign b then .error (Fault.expecting "redundant numeric sign" [] ⟨o + 1, o + 2⟩)
    else if b = 95 || (49 ≤ b && b ≤ 57) then numberOrDate bytes o 1
    else if b = 48 then zeroScalar bytes o 1 true
    else if b = 46 then floatScalar bytes o
    else if b = 105 || b = 73 || b = 110 || b = 78 then
      let word := if b = 105 || b = 73 then "inf" else "nan"
      if textOf (bytes.drop 1) == word then .ok (.float (textOf bytes))
      else .error (Fault.expecting "invalid float" [.literal word] ⟨o + 1, o + bytes.length⟩)
    else .error (unquotedFault bytes o)

/-- A bare value. -/
def bareScalar (src : ByteArray) (span : Span) : Except Fault Scalar :=
  let bytes := bytesIn src span
  let o := span.start
  match bytes.head? with
  | none => .error (unquotedFault bytes o)
  | some b =>
    if isSign b then signedScalar bytes o
    else if b = 95 || (49 ≤ b && b ≤ 57) then numberOrDate bytes o 0
    else if b = 48 then zeroScalar bytes o 0 false
    else if b = 46 then floatScalar bytes o
    else if b = 116 || b = 84 then wordScalar bytes o "true" "invalid boolean" (.boolean true)
    else if b = 102 || b = 70 then wordScalar bytes o "false" "invalid boolean" (.boolean false)
    else if b = 105 || b = 73 then wordScalar bytes o "inf" "invalid float" (.float "inf")
    else if b = 110 || b = 78 then wordScalar bytes o "nan" "invalid float" (.float "nan")
    else .error (unquotedFault bytes o)

/-- The scalar a raw value writes; a date or time must also be a valid one. -/
def scalarOf (src : ByteArray) (raw : Raw) : Except Fault Scalar := do
  match raw.quoting with
  | some q => return .string (← quotedText src raw.span q)
  | none =>
    let s ← bareScalar src raw.span
    if let .datetime text := s then
      if let some message := datetimeFault? text then throw (Fault.spanning message raw.span)
    return s

end Toml
end DepthBridge
