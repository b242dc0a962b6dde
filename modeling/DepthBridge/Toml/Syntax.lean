import DepthBridge.Toml.Fault

/-!
# The syntax of a TOML document

The tokens of a text are read into a tree: a document is a list of expressions, each a
key-value pair or a table header, and a value is a scalar, an array or an inline table. Key
parts and scalars stay raw, a span with its quoting, since decoding them is the next stage's
work.

This stage checks what may follow what, the characters of comments, that a carriage return
is followed by a line feed, and that arrays and inline tables nest at most 80 deep. Its first
complaint is the document's fault. A few gaps are left for the next stage to report: a key
part that is missing (an empty bare key) and a value that is missing (an empty literal
string).

An unquoted value runs over the atoms and dots that follow it, and over a blank followed by
another atom, so that a date and a time written with a space between them make one value.
Inside an inline table line breaks and a trailing comma are allowed.
-/

namespace DepthBridge
namespace Toml

/-- A raw piece of text, a key part or a scalar, with its quoting (`none` for bare text). An
empty span stands for a part that is missing. -/
structure Raw where
  span : Span
  quoting : Option Quoting
  deriving Repr, Inhabited

/-- A value as written. -/
inductive Value where
  | scalar (raw : Raw)
  | array (span : Span) (items : List Value)
  | inlineTable (span : Span) (pairs : List (List Raw × Value))
  deriving Inhabited

/-- A line of a document that says something. -/
inductive Expression where
  /-- `key = value`, the key in its dotted parts. -/
  | pair (key : List Raw) (value : Value)
  /-- `[key]`, or `[[key]]` for an array of tables. -/
  | header (span : Span) (key : List Raw) (isArray : Bool)
  deriving Inhabited

/-- What the parser reads: the bytes of the text and its tokens. -/
structure Source where
  bytes : ByteArray
  tokens : Array Token

/-- The parser: reading the tokens of a source from an index. -/
abbrev Parser := ReaderT Source (StateT Nat (Except Fault))

/-- The deepest nesting of arrays and inline tables. -/
def maxDepth : Nat := 80

namespace Parser

/-- Reads the next token, if any is left. -/
def next? : Parser (Option Token) := do
  let i ← get
  match (← read).tokens[i]? with
  | some t => set (i + 1); return some t
  | none => return none

/-- The next token, left unread. -/
def peek? : Parser (Option Token) := do
  return (← read).tokens[← get]?

/-- Puts the last token read back. -/
def back : Parser Unit := modify (· - 1)

/-- Stops with fault `f`. -/
def fail (f : Fault) : Parser α := throw f

/-- Whether a token only lays text out: a blank, a comment, a line break or the end. -/
def isLayout (t : Token) : Bool :=
  match t.kind with
  | .whitespace | .comment | .newline | .eof => true
  | _ => false

/-- The span of the last token read that `keep` accepts, or the empty span at the start. -/
def lastRead (keep : Token → Bool) : Parser Span := do
  let i ← get
  match (((← read).tokens.toList.take i).reverse.find? keep) with
  | some t => return t.span
  | none => return ⟨0, 0⟩

/-- Skips a run of blanks. -/
def skipBlanks : Parser Unit := do
  if let some t ← peek? then
    if t.kind == .whitespace then discard next?

/-- Checks a comment: after its `#`, only tabs, printable ASCII and bytes of other
characters. -/
def checkComment (t : Token) : Parser Unit := do
  let bytes := ((← read).bytes.extract t.span.start t.span.stop).toList
  match bytes.zipIdx.find? (fun (b, _) => !(b = 9 || (32 ≤ b && b ≤ 126) || 128 ≤ b)) with
  | some (_, k) =>
    let place := t.span.start + k
    fail (Fault.expecting "invalid comment character" [.description "printable characters"] ⟨place, place⟩)
  | none => pure ()

/-- Checks a line break: a carriage return must come with a line feed. -/
def checkNewline (t : Token) : Parser Unit := do
  if t.span.stop = t.span.start + 1 && (← read).bytes[t.span.start]? == some 13 then
    fail (Fault.expecting "carriage return must be followed by newline" [.literal "\n"] t.span.after)

/-- A comment and the line break, or end, after it. -/
def comment (t : Token) : Parser Unit := do
  checkComment t
  match ← next? with
  | some n =>
    if n.kind == .newline then checkNewline n
    else if n.kind != .eof then back
  | none => pure ()

/-- The raw key part or scalar of a string or atom token. -/
def rawOf (t : Token) : Raw :=
  match t.kind with
  | .string q => ⟨t.span, some q⟩
  | _ => ⟨t.span, none⟩

/-- A value that is missing where `t` stands. -/
def missingValue (t : Token) : Value := .scalar ⟨t.span.before, some .literal⟩

/-- What an inline table waits for. -/
inductive Awaiting where
  | key | equals | value | comma
  deriving DecidableEq

mutual

/-- The rest of a line after a value or a header: blanks, then a comment, a line break or the
end. -/
def lineEnd (fuel : Nat) : Parser Unit :=
  match fuel with
  | 0 => pure ()
  | fuel + 1 => do
    match ← next? with
    | none => pure ()
    | some t =>
      match t.kind with
      | .whitespace => lineEnd fuel
      | .comment => comment t
      | .newline => checkNewline t
      | .eof => pure ()
      | _ => fail (Fault.expecting "unexpected key or value" [.literal "\n", .literal "#"] t.span.before)

/-- The parts of a dotted key after those in `parts`, from blanks before a dot on; whether
every part was there. -/
def dottedRest (fuel : Nat) (parts : Array Raw) : Parser (Array Raw × Bool) :=
  match fuel with
  | 0 => pure (parts, true)
  | fuel + 1 => do
    skipBlanks
    match ← peek? with
    | some t =>
      if t.kind == .dot then
        discard next?
        afterDot fuel parts
      else pure (parts, true)
    | none => pure (parts, true)

/-- The key part after a dot; a missing one becomes an empty bare key. -/
def afterDot (fuel : Nat) (parts : Array Raw) : Parser (Array Raw × Bool) :=
  match fuel with
  | 0 => pure (parts, true)
  | fuel + 1 => do
    match ← next? with
    | none => return (parts.push ⟨(← lastRead (! isLayout ·)).after, none⟩, true)
    | some t =>
      match t.kind with
      | .whitespace => afterDot fuel parts
      | .dot => afterDot fuel (parts.push ⟨t.span.before, none⟩)
      | .string _ | .atom => dottedRest fuel (parts.push (rawOf t))
      | _ =>
        back
        return (parts.push ⟨t.span.before, none⟩, false)

/-- The key of a table header: leading dots give empty parts; whether every part was there. -/
def headerKey (fuel : Nat) (parts : Array Raw) : Parser (Array Raw × Bool) :=
  match fuel with
  | 0 => pure (parts, false)
  | fuel + 1 => do
    match ← next? with
    | none => return (parts.push ⟨(← lastRead (! isLayout ·)).after, none⟩, false)
    | some t =>
      match t.kind with
      | .whitespace => headerKey fuel parts
      | .dot => headerKey fuel (parts.push ⟨t.span.before, none⟩)
      | .string _ | .atom => dottedRest fuel (parts.push (rawOf t))
      | _ =>
        back
        return (parts.push ⟨t.span.before, none⟩, false)

/-- The span of an unquoted value: the atoms and dots that follow, and a blank with an atom
after it. -/
def bareSpan (fuel : Nat) (span : Span) : Parser Span :=
  match fuel with
  | 0 => pure span
  | fuel + 1 => do
    match ← peek? with
    | some t =>
      if t.kind == .atom || t.kind == .dot then
        discard next?
        bareSpan fuel (span.append t.span)
      else if t.kind == .whitespace then
        let i ← get
        match (← read).tokens[i + 1]? with
        | some a =>
          if a.kind == .atom then
            set (i + 2)
            bareSpan fuel (span.append a.span)
          else pure span
        | none => pure span
      else pure span
    | none => pure span

/-- One value, `depth` arrays and inline tables deep. -/
def value (fuel depth : Nat) : Parser Value :=
  match fuel with
  | 0 => fail (Fault.spanning "document too long" ⟨0, 0⟩)
  | fuel + 1 => do
    match ← next? with
    | none => return .scalar ⟨(← lastRead (! isLayout ·)).after, some .literal⟩
    | some t =>
      match t.kind with
      | .comment | .comma | .newline | .eof | .whitespace =>
        back
        return missingValue t
      | .equals => fail (Fault.expecting "extra `=`" [.description "value"] t.span)
      | .leftBrace => inlineTable fuel depth t
      | .rightBrace => fail (Fault.expecting "missing inline table opening" [.literal "\x7b"] t.span.before)
      | .leftBracket => array fuel depth t
      | .rightBracket => fail (Fault.expecting "missing array opening" [.literal "["] t.span.before)
      | .string q => return .scalar ⟨t.span, some q⟩
      | .dot | .atom => return .scalar ⟨← bareSpan fuel t.span, none⟩

/-- An array after its opening bracket. -/
def array (fuel depth : Nat) (opening : Token) : Parser Value :=
  if depth + 1 > maxDepth then
    fail (Fault.spanning "cannot recurse further; max recursion depth met" opening.span)
  else arrayItems fuel (depth + 1) opening true #[]

/-- The items of an array, those read so far in `items`; `needsValue` after the opening or a
comma. -/
def arrayItems (fuel depth : Nat) (opening : Token) (needsValue : Bool) (items : Array Value) :
    Parser Value :=
  match fuel with
  | 0 => fail (Fault.spanning "document too long" ⟨0, 0⟩)
  | fuel + 1 => do
    let unclosed : Parser Value := do
      fail (Fault.expecting "unclosed array" [.literal "]"] (← lastRead (! isLayout ·)).after)
    match ← next? with
    | none => unclosed
    | some t =>
      match t.kind with
      | .eof => unclosed
      | .comment =>
        comment t
        arrayItems fuel depth opening needsValue items
      | .whitespace => arrayItems fuel depth opening needsValue items
      | .newline =>
        checkNewline t
        arrayItems fuel depth opening needsValue items
      | .comma =>
        if needsValue then fail (Fault.expecting "extra comma in array" [.description "value"] t.span)
        else arrayItems fuel depth opening true items
      | .equals =>
        fail (Fault.expecting "unexpected `=` in array" [.description "value", .literal "]"] t.span)
      | .rightBracket => return .array (opening.span.append t.span) items.toList
      | _ =>
        if !needsValue then
          fail (Fault.expecting "missing comma between array elements" [.literal ","] t.span.before)
        else
          back
          let v ← value fuel depth
          arrayItems fuel depth opening false (items.push v)

/-- An inline table after its opening brace. -/
def inlineTable (fuel depth : Nat) (opening : Token) : Parser Value :=
  if depth + 1 > maxDepth then
    fail (Fault.spanning "cannot recurse further; max recursion depth met" opening.span)
  else inlinePairs fuel (depth + 1) opening .key #[] #[]

/-- The pairs of an inline table, those read so far in `pairs` and the parts of the key being
read in `key`. -/
def inlinePairs (fuel depth : Nat) (opening : Token) (state : Awaiting) (key : Array Raw)
    (pairs : Array (List Raw × Value)) : Parser Value :=
  match fuel with
  | 0 => fail (Fault.spanning "document too long" ⟨0, 0⟩)
  | fuel + 1 => do
    let unclosed : Parser Value := do
      fail (Fault.expecting "unclosed inline table" [.literal "\x7d"] (← lastRead (! isLayout ·)).after)
    let close (t : Token) (pairs : Array (List Raw × Value)) : Value :=
      .inlineTable (opening.span.append t.span) pairs.toList
    match ← next? with
    | none => unclosed
    | some t =>
      let again (state : Awaiting) (key : Array Raw) (pairs : Array (List Raw × Value)) :=
        inlinePairs fuel depth opening state key pairs
      let missingKey := ⟨t.span.before, none⟩
      match t.kind with
      | .eof => unclosed
      | .comment =>
        comment t
        again state key pairs
      | .whitespace => again state key pairs
      | .newline =>
        checkNewline t
        again state key pairs
      | _ =>
        match state with
        | .key =>
          match t.kind with
          | .dot => again .key (key.push missingKey) pairs
          | .equals => again .value (key.push missingKey) pairs
          | .comma =>
            if key.isEmpty then fail (Fault.expecting "extra comma in inline table" [.description "key"] t.span)
            else again .key #[] (pairs.push ((key.push missingKey).toList, missingValue t))
          | .rightBrace =>
            if key.isEmpty then return close t pairs
            else return close t (pairs.push ((key.push missingKey).toList, missingValue t))
          | .string _ | .atom => again .equals (key.push (rawOf t)) pairs
          | _ => fail (Fault.expecting "missing key" [.description "key"] t.span.before)
        | .equals =>
          match t.kind with
          | .dot => again .key key pairs
          | .equals => again .value key pairs
          | .comma => again .key #[] (pairs.push (key.toList, missingValue t))
          | .rightBrace => return close t (pairs.push (key.toList, missingValue t))
          | .string _ | .atom => fail (Fault.expecting "key with no value" [.literal "="] t.span.before)
          | _ => fail (Fault.expecting "missing key" [.description "key"] t.span.before)
        | .value =>
          match t.kind with
          | .equals => fail (Fault.expecting "extra `=`" [.description "value"] t.span)
          | .comma => again .key #[] (pairs.push (key.toList, missingValue t))
          | .rightBrace => return close t (pairs.push (key.toList, missingValue t))
          | _ =>
            back
            let v ← value fuel depth
            again .comma #[] (pairs.push (key.toList, v))
        | .comma =>
          match t.kind with
          | .equals =>
            fail (Fault.expecting "extra assignment between key-value pairs" [.literal ","] t.span)
          | .comma => again .key #[] pairs
          | .rightBrace => return close t pairs
          | _ => fail (Fault.expecting "missing comma between key-value pairs" [.literal ","] t.span.before)

/-- A key-value pair whose key parts are `parts`, from the blanks before its `=` on. -/
def pairAt (fuel : Nat) (parts : Array Raw) : Parser Expression := do
  skipBlanks
  match ← peek? with
  | some t =>
    if t.kind == .equals then
      discard next?
      skipBlanks
      let v ← value fuel 0
      lineEnd fuel
      return .pair parts.toList v
    else fail (Fault.expecting "key with no value" [.literal "="] t.span.before)
  | none => fail (Fault.expecting "key with no value" [.literal "="] (← lastRead (! isLayout ·)).after)

/-- A table header after its first bracket. -/
def header (fuel : Nat) (opening : Token) : Parser Expression := do
  let isArray ← match ← peek? with
    | some t => if t.kind == .leftBracket then do discard next?; pure true else pure false
    | none => pure false
  skipBlanks
  let (parts, valid) ← headerKey fuel #[]
  skipBlanks
  let closing ← peek?
  match closing with
  | some close =>
    if close.kind == .rightBracket then
      discard next?
      if isArray then
        match ← peek? with
        | some close2 =>
          if close2.kind == .rightBracket then
            discard next?
            lineEnd fuel
            return .header (opening.span.append close2.span) parts.toList true
          else fail (Fault.expecting "unclosed array table" [.literal "]"] close.span.after)
        | none => fail (Fault.expecting "unclosed array table" [.literal "]"] close.span.after)
      else
        lineEnd fuel
        return .header (opening.span.append close.span) parts.toList false
    else if valid then
      let last ← lastRead (·.kind != .whitespace)
      if isArray then fail (Fault.expecting "unclosed array table" [.literal "]]"] last.after)
      else fail (Fault.expecting "unclosed table" [.literal "]"] last.after)
    else
      skipLine fuel
      return .header (opening.span.append (← lastRead (! isLayout ·))) parts.toList isArray
  | none => return .header opening.span parts.toList isArray

/-- Skips the rest of a line that has a fault the next stage reports. -/
def skipLine (fuel : Nat) : Parser Unit :=
  match fuel with
  | 0 => pure ()
  | fuel + 1 => do
    match ← next? with
    | none => pure ()
    | some t =>
      match t.kind with
      | .newline => checkNewline t
      | .eof => pure ()
      | .comment => comment t
      | _ => skipLine fuel

/-- The expressions of a document from the reader's position, after those in `acc`. -/
def expressions (fuel : Nat) (acc : Array Expression) : Parser (Array Expression) :=
  match fuel with
  | 0 => pure acc
  | fuel + 1 => do
    match ← next? with
    | none => pure acc
    | some t =>
      match t.kind with
      | .eof => pure acc
      | .whitespace => expressions fuel acc
      | .newline =>
        checkNewline t
        expressions fuel acc
      | .comment =>
        comment t
        expressions fuel acc
      | .leftBracket =>
        let e ← header fuel t
        expressions fuel (acc.push e)
      | .rightBracket => fail (Fault.expecting "missing table open" [.literal "["] t.span.before)
      | .string _ | .atom =>
        let (parts, _) ← dottedRest fuel #[rawOf t]
        let e ← pairAt fuel parts
        expressions fuel (acc.push e)
      | .equals =>
        back
        let e ← pairAt fuel #[⟨t.span.before, none⟩]
        expressions fuel (acc.push e)
      | .dot =>
        let (parts, _) ← afterDot fuel #[⟨t.span.before, none⟩]
        let e ← pairAt fuel parts
        expressions fuel (acc.push e)
      | .comma | .leftBrace | .rightBrace =>
        fail (Fault.expecting "missing key" [.description "key"] t.span.before)

end

end Parser

/-- The expressions of a TOML text, or the first fault of its syntax. -/
def Expression.parse (bytes : ByteArray) : Except Fault (List Expression) :=
  let tokens := Token.scan bytes
  let fuel := 4 * tokens.size + 16
  ((Parser.expressions fuel #[]).run ⟨bytes, tokens⟩ |>.run 0).map fun (es, _) => es.toList

end Toml
end DepthBridge
