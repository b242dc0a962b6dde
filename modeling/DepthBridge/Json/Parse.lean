import DepthBridge.Json.Value

/-!
# Reading JSON text

A reader walks the characters of a text with an index. Every failure carries the line and
the column where it was noticed; columns count UTF-8 bytes from the start of the line, so the
column of a position is the number of bytes before it on its line.

Two positions are in use. A fault found *after* consuming a character is reported at the
current index (`fault`); a fault in a character only looked at is reported one character
further (`peekFault`).

Numbers keep the kind they are written in: an integer that fits 64 bits stays an integer, any
other number becomes a double. A double is computed the quick way, from at most 19 leading
digits and one multiplication or division by a power of ten; that is how the bridge's own
readers compute it, and a few long inputs therefore land one unit away from the nearest
double.
-/

namespace DepthBridge
namespace Json

/-- A failure while reading, with its line and column; line `0` means no position. -/
structure Fault where
  message : String
  line : Nat
  column : Nat
  deriving Repr, Inhabited

namespace Fault

/-- The text of a fault: the message, then its position when it has one. -/
def text (f : Fault) : String :=
  if f.line = 0 then f.message
  else s!"{f.message} at line {f.line} column {f.column}"

end Fault

/-- Syntax faults of JSON text. -/
inductive SyntaxFault where
  | eofInList | eofInObject | eofInString | eofInValue
  | expectedColon | expectedListCommaOrEnd | expectedObjectCommaOrEnd
  | expectedIdent | expectedValue
  | invalidEscape | invalidNumber | numberOutOfRange | invalidCodePoint
  | controlCharacter | keyMustBeString | loneLeadingSurrogate
  | trailingComma | trailingCharacters | unexpectedEndOfHexEscape
  deriving Repr, DecidableEq

namespace SyntaxFault

/-- The message of a syntax fault. -/
def message : SyntaxFault → String
  | .eofInList => "EOF while parsing a list"
  | .eofInObject => "EOF while parsing an object"
  | .eofInString => "EOF while parsing a string"
  | .eofInValue => "EOF while parsing a value"
  | .expectedColon => "expected `:`"
  | .expectedListCommaOrEnd => "expected `,` or `]`"
  | .expectedObjectCommaOrEnd => "expected `,` or `\x7d`"
  | .expectedIdent => "expected ident"
  | .expectedValue => "expected value"
  | .invalidEscape => "invalid escape"
  | .invalidNumber => "invalid number"
  | .numberOutOfRange => "number out of range"
  | .invalidCodePoint => "invalid unicode code point"
  | .controlCharacter => "control character (\\u0000-\\u001F) found while parsing a string"
  | .keyMustBeString => "key must be a string"
  | .loneLeadingSurrogate => "lone leading surrogate in hex escape"
  | .trailingComma => "trailing comma"
  | .trailingCharacters => "trailing characters"
  | .unexpectedEndOfHexEscape => "unexpected end of hex escape"

end SyntaxFault

/-- The line and column of byte `i` of `bytes`: lines count from one, columns are the number of
bytes before `i` on its line. -/
def positionOf (bytes : ByteArray) (i : Nat) : Nat × Nat :=
  let (line, lineStart, _) := (bytes.toList.take i).foldl (fun (acc : Nat × Nat × Nat) (b : UInt8) =>
    let (line, lineStart, j) := acc
    if b = 10 then (line + 1, j + 1, j + 1) else (line, lineStart, j + 1)) (1, 0, 0)
  (line, i - lineStart)

/-- The index of the first byte at or after `i` that is not a JSON blank. -/
def blankEnd (bytes : ByteArray) (i : Nat) : Nat :=
  if h : i < bytes.size then
    let b := bytes[i]
    if b = 32 || b = 10 || b = 9 || b = 13 then blankEnd bytes (i + 1) else i
  else i
termination_by bytes.size - i

/-- The index of the first byte at or after `i` that is not an ASCII digit. -/
def digitsEnd (bytes : ByteArray) (i : Nat) : Nat :=
  if h : i < bytes.size then
    let b := bytes[i]
    if 48 ≤ b && b ≤ 57 then digitsEnd bytes (i + 1) else i
  else i
termination_by bytes.size - i

/-- A reader over the bytes of a text: the state is the index of the next byte. -/
abbrev Reader := ReaderT ByteArray (StateT Nat (Except Fault))

namespace Reader

/-- The next byte, without consuming it. -/
def peekByte? : Reader (Option UInt8) := do
  let bytes ← read
  let i ← get
  return bytes[i]?

/-- The next byte as a character, without consuming it: bytes of multi-byte characters come out
as characters beyond ASCII, which no rule of the syntax matches. -/
def peek? : Reader (Option Char) := do
  return (← peekByte?).map fun b => Char.ofNat b.toNat

/-- Consumes one byte. -/
def bump : Reader Unit := modify (· + 1)

/-- Consumes and returns the next byte as a character. -/
def next? : Reader (Option Char) := do
  let c ← peek?
  if c.isSome then bump
  return c

/-- A fault at the current index. -/
def fault (message : String) : Reader α := do
  let bytes ← read
  let i ← get
  let (line, column) := positionOf bytes i
  throw ⟨message, line, column⟩

/-- A fault at the byte after the current index. -/
def peekFault (message : String) : Reader α := do
  let bytes ← read
  let i ← get
  let (line, column) := positionOf bytes (min bytes.size (i + 1))
  throw ⟨message, line, column⟩

/-- Skips blanks and returns the next character without consuming it. -/
def skipBlanks : Reader (Option Char) := do
  let bytes ← read
  set (blankEnd bytes (← get))
  peek?

end Reader

open Reader

/-- A number as written: an unsigned or negative 64-bit integer, or a double. -/
inductive Number where
  | unsigned (n : Nat)
  | negative (i : Int)
  | float (x : Float)
  deriving Inhabited

/-- `10^k` as a double, for `k ≤ 308`. -/
def pow10 (k : Nat) : Float := Float.ofScientific 1 false k

/-- The largest 64-bit unsigned integer. -/
def u64Max : Nat := Nat.pow 2 64 - 1

/-- Whether `n * 10 + d` exceeds `bound`. -/
def overflows (n d bound : Nat) : Bool := n ≥ bound / 10 && (n > bound / 10 || d > bound % 10)

/-- `significand · 10^exponent` the quick way: one exact conversion of the significand, then
one multiplication or division by a power of ten (division by `10^308` repeated for very small
values). Too large a result is out of range. -/
def floatOfParts (positive : Bool) (significand : Nat) (exponent : Int) : Reader Float := do
  let mut f := Float.ofNat significand
  let mut e := exponent
  for _ in [0:4] do
    if e.natAbs ≤ 308 then
      if e ≥ 0 then
        f := f * pow10 e.natAbs
        if f.isInf then fault SyntaxFault.numberOutOfRange.message
      else
        f := f / pow10 e.natAbs
      return (if positive then f else -f)
    else
      if f == 0 then return (if positive then f else -f)
      if e ≥ 0 then fault SyntaxFault.numberOutOfRange.message
      f := f / 1e308
      e := e + 308
  return (if positive then f else -f)

/-- The digits `0-9` at the reader, consumed, as a list. -/
def takeDigits : Reader (List Nat) := do
  let bytes ← read
  let i ← get
  let j := digitsEnd bytes i
  set j
  return ((bytes.extract i j).toList.map fun b => b.toNat - 48)

/-- The exponent part, after the `e`: its sign and digits, then the value. -/
def readExponent (positive : Bool) (significand : Nat) (startExp : Int) : Reader Float := do
  bump
  let positiveExp ← match ← peek? with
    | some '+' => do bump; pure true
    | some '-' => do bump; pure false
    | _ => pure true
  match ← next? with
  | none => fault SyntaxFault.eofInValue.message
  | some c =>
    if !c.isDigit then fault SyntaxFault.invalidNumber.message
    let ds ← takeDigits
    let all := (c.toNat - 48) :: ds
    -- an exponent beyond 32 bits: zero or out of range
    let tooLong := (all.foldl (fun (acc : Option Nat) d =>
      acc.bind fun a => if overflows a d (Nat.pow 2 31 - 1) then none else some (a * 10 + d)) (some 0)).isNone
    if tooLong then
      if significand ≠ 0 && positiveExp then fault SyntaxFault.numberOutOfRange.message
      return (if positive then 0.0 else -0.0)
    let exp : Int := (all.foldl (fun a d => a * 10 + d) 0 : Nat)
    floatOfParts positive significand (if positiveExp then startExp + exp else startExp - exp)

/-- The fraction part, after the `.`, then an optional exponent. Digits beyond 64 bits of
significand are dropped. -/
def readFraction (positive : Bool) (significand : Nat) (startExp : Int) : Reader Float := do
  bump
  let ds ← takeDigits
  if ds.isEmpty then
    match ← peek? with
    | some _ => peekFault SyntaxFault.invalidNumber.message
    | none => peekFault SyntaxFault.eofInValue.message
  -- digits kept until the significand would overflow
  let (sig, kept) := ds.foldl (fun (acc : Nat × Nat × Bool) d =>
      let (s, k, stopped) := acc
      if stopped || overflows s d u64Max then (s, k, true) else (s * 10 + d, k + 1, false))
    (significand, 0, false) |> fun (s, k, _) => (s, k)
  let exponent := startExp - kept
  match ← peek? with
  | some 'e' | some 'E' => readExponent positive sig exponent
  | _ => floatOfParts positive sig exponent

/-- A number after its sign: an integer kind if it has no fraction or exponent and fits. -/
def readUnsignedPart (positive : Bool) : Reader Number := do
  match ← next? with
  | none => fault SyntaxFault.eofInValue.message
  | some c =>
    if c = '0' then
      match ← peek? with
      | some d => if d.isDigit then peekFault SyntaxFault.invalidNumber.message else pure ()
      | none => pure ()
      afterInteger positive 0
    else if c.isDigit then
      let ds ← takeDigits
      let all := (c.toNat - 48) :: ds
      -- the longest prefix that fits in 64 bits; the remaining digits only scale
      let (sig, used) := all.foldl (fun (acc : Nat × Nat × Bool) d =>
          let (s, k, stopped) := acc
          if stopped || overflows s d u64Max then (s, k, true) else (s * 10 + d, k + 1, false))
        (0, 0, false) |> fun (s, k, _) => (s, k)
      if used < all.length then
        let extra : Int := all.length - used
        match ← peek? with
        | some '.' => return .float (← readFraction positive sig extra)
        | some 'e' | some 'E' => return .float (← readExponent positive sig extra)
        | _ => return .float (← floatOfParts positive sig extra)
      else afterInteger positive sig
    else fault SyntaxFault.invalidNumber.message
where
  afterInteger (positive : Bool) (sig : Nat) : Reader Number := do
    match ← peek? with
    | some '.' => return .float (← readFraction positive sig 0)
    | some 'e' | some 'E' => return .float (← readExponent positive sig 0)
    | _ =>
      if positive then return .unsigned sig
      else if sig = 0 || sig > Nat.pow 2 63 then return .float (-(Float.ofNat sig))
      else return .negative (-(sig : Int))

/-- A number starting at the reader (a `-` or a digit). -/
def readNumber : Reader Number := do
  match ← peek? with
  | some '-' => bump; readUnsignedPart false
  | _ => readUnsignedPart true

/-- The value of one hexadecimal digit. -/
def hexValue (c : Char) : Option Nat :=
  if c.isDigit then some (c.toNat - 48)
  else if 'a' ≤ c && c ≤ 'f' then some (c.toNat - 87)
  else if 'A' ≤ c && c ≤ 'F' then some (c.toNat - 55)
  else none

/-- The four bytes of a `\u` escape, consumed together: with fewer left the text ends inside the
string, and a byte that is no hexadecimal digit spoils the escape, reported after all four. -/
def readHex4 : Reader Nat := do
  let bytes ← read
  let i ← get
  if bytes.size < i + 4 then
    set bytes.size
    fault SyntaxFault.eofInString.message
  set (i + 4)
  let digits := (bytes.extract i (i + 4)).toList.map fun b => hexValue (Char.ofNat b.toNat)
  match digits.foldl (fun acc d => acc.bind fun n => d.map (n * 16 + ·)) (some 0) with
  | some n => return n
  | none => fault SyntaxFault.invalidEscape.message

/-- The character of a `\u` escape, after the `u`, joining a surrogate pair; a lone surrogate
is refused. -/
def readUnicodeEscape : Reader Char := do
  let n ← readHex4
  if 0xDC00 ≤ n && n ≤ 0xDFFF then fault SyntaxFault.loneLeadingSurrogate.message
  if 0xD800 ≤ n && n ≤ 0xDBFF then
    match ← peek? with
    | some '\\' => bump
    | some _ => do bump; fault SyntaxFault.unexpectedEndOfHexEscape.message
    | none => fault SyntaxFault.eofInString.message
    match ← peek? with
    | some 'u' => bump
    | some _ => do bump; fault SyntaxFault.unexpectedEndOfHexEscape.message
    | none => fault SyntaxFault.eofInString.message
    let n2 ← readHex4
    if n2 < 0xDC00 || n2 > 0xDFFF then fault SyntaxFault.loneLeadingSurrogate.message
    return Char.ofNat (((n - 0xD800) * 1024 + (n2 - 0xDC00)) + 0x10000)
  return Char.ofNat n

/-- The byte of a one-letter escape. -/
def simpleEscape : Char → Option UInt8
  | '"' => some 34 | '\\' => some 92 | '/' => some 47 | 'b' => some 8 | 'f' => some 12
  | 'n' => some 10 | 'r' => some 13 | 't' => some 9 | _ => none

/-- A string literal, after its opening quote. A control character is reported after it. -/
def readStringBody : Reader String := do
  let bytes ← read
  let mut out : ByteArray := ByteArray.empty
  for _ in [0:bytes.size + 1] do
    match ← peekByte? with
    | none => fault SyntaxFault.eofInString.message
    | some b =>
      bump
      if b = 34 then return (String.fromUTF8? out).getD ""
      else if b = 92 then
        match ← next? with
        | none => fault SyntaxFault.eofInString.message
        | some 'u' => out := out ++ (String.singleton (← readUnicodeEscape)).toUTF8
        | some c =>
          match simpleEscape c with
          | some e => out := out.push e
          | none => fault SyntaxFault.invalidEscape.message
      else if b < 32 then fault SyntaxFault.controlCharacter.message
      else out := out.push b
  fault SyntaxFault.eofInString.message

/-- Skips a string literal after its opening quote, checking only its syntax: escapes must be
known and a `\u` needs four hexadecimal digits, but surrogates need no partner. A control
character is reported where it stands. -/
def skipStringBody : Reader Unit := do
  let bytes ← read
  for _ in [0:bytes.size + 1] do
    match ← peekByte? with
    | none => fault SyntaxFault.eofInString.message
    | some b =>
      if b = 34 then bump; return
      else if b = 92 then
        bump
        match ← next? with
        | none => fault SyntaxFault.eofInString.message
        | some 'u' => discard readHex4
        | some c => if (simpleEscape c).isNone then fault SyntaxFault.invalidEscape.message
      else if b < 32 then fault SyntaxFault.controlCharacter.message
      else bump
  fault SyntaxFault.eofInString.message

/-- The rest of a keyword whose first letter was consumed. -/
def expectWord (rest : List Char) : Reader Unit := do
  for c in rest do
    match ← next? with
    | none => fault SyntaxFault.eofInValue.message
    | some d => if d ≠ c then fault SyntaxFault.expectedIdent.message

/-- A number as a JSON value. -/
def Number.toJson : Number → Json
  | .unsigned n => .int n
  | .negative i => .int i
  | .float x => .double x

mutual

/-- One value, after blanks, within `fuel` levels of nesting. -/
def readValue : Nat → Reader Json
  | 0 => fault "recursion limit exceeded"
  | fuel + 1 => do
    match ← skipBlanks with
    | none => peekFault SyntaxFault.eofInValue.message
    | some 'n' => bump; expectWord ['u', 'l', 'l']; return .null
    | some 't' => bump; expectWord ['r', 'u', 'e']; return .bool true
    | some 'f' => bump; expectWord ['a', 'l', 's', 'e']; return .bool false
    | some '"' => bump; return .str (← readStringBody)
    | some '[' => bump; return .arr (← readItems fuel true [] (← read).size)
    | some '{' => bump; return .obj (← readEntries fuel true [] (← read).size)
    | some c =>
      if c = '-' || c.isDigit then return (← readNumber).toJson
      else peekFault SyntaxFault.expectedValue.message

/-- The items of an array after `[`, the earlier ones in `acc` (reversed). -/
def readItems (fuel : Nat) (first : Bool) (acc : List Json) : Nat → Reader (List Json)
  | 0 => fault SyntaxFault.eofInList.message
  | budget + 1 => do
    match ← skipBlanks with
    | none => peekFault SyntaxFault.eofInList.message
    | some ']' => bump; return acc.reverse
    | some ',' =>
      if first then peekFault SyntaxFault.expectedValue.message
      else do
        bump
        match ← skipBlanks with
        | some ']' => peekFault SyntaxFault.trailingComma.message
        | _ =>
          let v ← readValue fuel
          readItems fuel false (v :: acc) budget
    | some _ =>
      if first then
        let v ← readValue fuel
        readItems fuel false (v :: acc) budget
      else peekFault SyntaxFault.expectedListCommaOrEnd.message

/-- The entries of an object after `{`, the earlier ones in `acc` (reversed). A repeated key
keeps its last value. -/
def readEntries (fuel : Nat) (first : Bool) (acc : List (String × Json)) :
    Nat → Reader (List (String × Json))
  | 0 => fault SyntaxFault.eofInObject.message
  | budget + 1 => do
    let c ← skipBlanks
    let keyStart ← match c with
      | none => peekFault SyntaxFault.eofInObject.message
      | some '}' => do bump; pure none
      | some ',' =>
        if first then peekFault SyntaxFault.keyMustBeString.message
        else do bump; skipBlanks
      | some d => if first then pure (some d) else peekFault SyntaxFault.expectedObjectCommaOrEnd.message
    match c, keyStart with
    | some '}', _ => return (acc.reverse.foldl (fun (out : List (String × Json)) (k, v) =>
        if out.any (·.1 == k) then out.map fun (k', v') => if k' == k then (k', v) else (k', v')
        else out ++ [(k, v)]) [])
    | _, none => peekFault SyntaxFault.eofInValue.message
    | _, some '"' =>
      bump
      let key ← readStringBody
      match ← skipBlanks with
      | some ':' => bump
      | some _ => peekFault SyntaxFault.expectedColon.message
      | none => peekFault SyntaxFault.eofInObject.message
      let v ← readValue fuel
      readEntries fuel false ((key, v) :: acc) budget
    | _, some '}' => peekFault SyntaxFault.trailingComma.message
    | _, some _ => peekFault SyntaxFault.keyMustBeString.message

end

/-- Reads a whole text as one JSON value; only blanks may follow it. -/
def parse (text : String) : Except Fault Json :=
  let run : Reader Json := do
    let v ← readValue 128
    match ← skipBlanks with
    | none => return v
    | some _ => peekFault SyntaxFault.trailingCharacters.message
  (run.run text.toUTF8 |>.run 0).map (·.1)

/-! ## Skipping values

A value nobody asked for is only checked, in one pass with an explicit stack of open brackets:
numbers are not converted, so none is out of range, strings are not decoded, and nesting has no
limit. -/

/-- Skips the exponent of a number, at its `e`. -/
def skipExponent : Reader Unit := do
  bump
  match ← peek? with
  | some '+' | some '-' => bump
  | _ => pure ()
  match ← next? with
  | some c => if !c.isDigit then fault SyntaxFault.invalidNumber.message
  | none => fault SyntaxFault.invalidNumber.message
  discard takeDigits

/-- Skips the fraction of a number, at its `.`, and an exponent after it. -/
def skipFraction : Reader Unit := do
  bump
  if (← takeDigits).isEmpty then peekFault SyntaxFault.invalidNumber.message
  match ← peek? with
  | some 'e' | some 'E' => skipExponent
  | _ => pure ()

/-- Skips a number after its sign: one leading zero or a run of digits, then a fraction or an
exponent. -/
def skipUnsigned : Reader Unit := do
  match ← next? with
  | some '0' =>
    if (← peek?).any Char.isDigit then peekFault SyntaxFault.invalidNumber.message
  | some c => if c.isDigit then discard takeDigits else fault SyntaxFault.invalidNumber.message
  | none => fault SyntaxFault.invalidNumber.message
  match ← peek? with
  | some '.' => skipFraction
  | some 'e' | some 'E' => skipExponent
  | _ => pure ()

/-- Skips one scalar at character `c`, or opens the bracket `c`; which bracket was opened. -/
def skipScalarOrOpen (c : Char) : Reader (Option Char) := do
  match c with
  | 'n' => bump; expectWord ['u', 'l', 'l']; return none
  | 't' => bump; expectWord ['r', 'u', 'e']; return none
  | 'f' => bump; expectWord ['a', 'l', 's', 'e']; return none
  | '-' => bump; skipUnsigned; return none
  | '"' => bump; skipStringBody; return none
  | '[' | '{' => bump; return some c
  | d => if d.isDigit then skipUnsigned; return none else peekFault SyntaxFault.expectedValue.message

/-- After a value inside the open brackets `frame :: stack`: closes brackets as long as they
end, and stops after a comma or, right after an opening, before the first value. Whether a
value follows, and in which bracket; `none` when the outermost bracket closed. -/
def skipClosings (fuel : Nat) (acceptComma : Bool) (frame : Char) (stack : List Char) :
    Reader (Option (Char × List Char)) :=
  match fuel with
  | 0 => fault SyntaxFault.eofInValue.message
  | fuel + 1 => do
    let c ← skipBlanks
    if c = some ',' && acceptComma then
      bump
      return some (frame, stack)
    else if (c = some ']' && frame = '[') || (c = some '}' && frame = '{') then
      bump
      match stack with
      | [] => return none
      | f :: rest => skipClosings fuel true f rest
    else match c with
      | some _ =>
        if acceptComma then
          peekFault (if frame = '[' then SyntaxFault.expectedListCommaOrEnd else SyntaxFault.expectedObjectCommaOrEnd).message
        else return some (frame, stack)
      | none =>
        peekFault (if frame = '[' then SyntaxFault.eofInList else SyntaxFault.eofInObject).message

/-- The key of an object entry being skipped, with its colon. -/
def skipKey : Reader Unit := do
  match ← skipBlanks with
  | some '"' => bump
  | some _ => peekFault SyntaxFault.keyMustBeString.message
  | none => peekFault SyntaxFault.eofInObject.message
  skipStringBody
  match ← skipBlanks with
  | some ':' => bump
  | some _ => peekFault SyntaxFault.expectedColon.message
  | none => peekFault SyntaxFault.eofInObject.message

/-- Skips values inside the open brackets `stack`, innermost first, until they all close. -/
def skipNested (fuel : Nat) (stack : List Char) : Reader Unit :=
  match fuel with
  | 0 => fault SyntaxFault.eofInValue.message
  | fuel + 1 => do
    let c ← match ← skipBlanks with
      | some c => pure c
      | none => peekFault SyntaxFault.eofInValue.message
    let opened ← skipScalarOrOpen c
    let after ← match opened, stack with
      | some f, _ => skipClosings (fuel + 1) false f stack
      | none, f :: rest => skipClosings (fuel + 1) true f rest
      | none, [] => pure none
    match after with
    | none => pure ()
    | some (frame, stack) =>
      if frame = '{' then skipKey
      skipNested fuel (frame :: stack)

/-- Skips one value after blanks, checking only its syntax. -/
def skipValue : Reader Unit := do
  skipNested ((← read).size + 1) []

end Json
end DepthBridge
