/-!
# TOML tokens

Reading a TOML text starts by cutting it into tokens: punctuation, runs of blanks, comments,
line breaks, the four kinds of quoted strings, and atoms, the runs of any other bytes, which
hold bare keys and unquoted values. Cutting never fails. A string without its closing quote
runs to the end of its line, or of the text, and a later stage reports what is wrong with it.

Positions are byte offsets into the text. A byte-order mark at the very start is skipped; the
offsets still count from the first byte of the text.

`Token.scan` cuts a whole text, always ending with an `eof` token.
-/

namespace DepthBridge
namespace Toml

/-- A stretch of the text, from byte `start` up to but excluding byte `stop`. -/
structure Span where
  start : Nat
  stop : Nat
  deriving Repr, Inhabited, DecidableEq

namespace Span

/-- The empty span where `s` starts. -/
def before (s : Span) : Span := ⟨s.start, s.start⟩

/-- The empty span where `s` ends. -/
def after (s : Span) : Span := ⟨s.stop, s.stop⟩

/-- From the start of `s` to the end of `t`. -/
def append (s t : Span) : Span := ⟨s.start, t.stop⟩

end Span

/-- How a string is quoted. -/
inductive Quoting where
  /-- `'…'` -/
  | literal
  /-- `"…"` -/
  | basic
  /-- `'''…'''` -/
  | multilineLiteral
  /-- `"""…"""` -/
  | multilineBasic
  deriving Repr, Inhabited, DecidableEq

/-- The kinds of tokens. -/
inductive TokenKind where
  | dot | equals | comma
  | leftBracket | rightBracket | leftBrace | rightBrace
  /-- A run of spaces and tabs. -/
  | whitespace
  /-- From `#` up to a line break or the end. -/
  | comment
  /-- A line feed, a carriage return with a line feed, or a carriage return alone. -/
  | newline
  | string (q : Quoting)
  /-- A run of bytes that are neither punctuation, blanks, line breaks nor `#`. -/
  | atom
  | eof
  deriving Repr, Inhabited, DecidableEq

/-- A token and where it stands. -/
structure Token where
  kind : TokenKind
  span : Span
  deriving Repr, Inhabited

namespace Token

/-- The byte of `"`. -/
def quote : UInt8 := 34

/-- The byte of an apostrophe. -/
def apostrophe : UInt8 := 39

/-- The byte of a backslash. -/
def backslash : UInt8 := 92

/-- The byte of a line feed. -/
def lineFeed : UInt8 := 10

/-- The byte of a carriage return. -/
def carriageReturn : UInt8 := 13

/-- Whether a byte ends an atom: punctuation, a blank, a line break or `#`. -/
def endsAtom (b : UInt8) : Bool :=
  b = 46 || b = 61 || b = 44 || b = 91 || b = 93 || b = 123 || b = 125 || b = 32 || b = 9
    || b = 35 || b = 13 || b = 10

/-- The first index at or after `i` whose byte `stop` accepts, or the size of the text. -/
def findFrom (bytes : ByteArray) (stop : UInt8 → Bool) (i : Nat) : Nat :=
  if h : i < bytes.size then
    if stop bytes[i] then i else findFrom bytes stop (i + 1)
  else bytes.size
termination_by bytes.size - i

/-- Whether the bytes from index `i` on begin with `pat`. -/
def hasAt (bytes : ByteArray) (i : Nat) (pat : List UInt8) : Bool :=
  pat.zipIdx.all fun (b, k) => bytes[i + k]? == some b

/-- Index `i` moved past up to two more bytes `b`. -/
def takeTwoMore (bytes : ByteArray) (b : UInt8) (i : Nat) : Nat :=
  if bytes[i]? == some b then
    if bytes[i + 1]? == some b then i + 2 else i + 1
  else i

/-- The end of a basic string, scanning after its opening quote: just after the closing quote,
before a line feed, or at the end of the text. A backslash carries a quote or a backslash right
after it along. -/
def basicEnd (bytes : ByteArray) (i : Nat) : Nat :=
  if h : i < bytes.size then
    let b := bytes[i]
    if b = quote then i + 1
    else if b = lineFeed then i
    else if b = backslash then
      if bytes[i + 1]? == some backslash || bytes[i + 1]? == some quote then basicEnd bytes (i + 2)
      else basicEnd bytes (i + 1)
    else basicEnd bytes (i + 1)
  else bytes.size
termination_by bytes.size - i

/-- The end of a multi-line basic string, scanning after its opening quotes: after the closing
three quotes and up to two more, or at the end of the text. A backslash carries a quote or a
backslash right after it along. -/
def multilineBasicEnd (bytes : ByteArray) (i : Nat) : Nat :=
  if h : i < bytes.size then
    if hasAt bytes i [quote, quote, quote] then takeTwoMore bytes quote (i + 3)
    else if bytes[i] = backslash then
      if bytes[i + 1]? == some backslash || bytes[i + 1]? == some quote then multilineBasicEnd bytes (i + 2)
      else multilineBasicEnd bytes (i + 1)
    else multilineBasicEnd bytes (i + 1)
  else bytes.size
termination_by bytes.size - i

/-- The end of a multi-line literal string, scanning after its opening apostrophes: after the
closing three and up to two more, or at the end of the text. -/
def multilineLiteralEnd (bytes : ByteArray) (i : Nat) : Nat :=
  if h : i < bytes.size then
    if hasAt bytes i [apostrophe, apostrophe, apostrophe] then takeTwoMore bytes apostrophe (i + 3)
    else multilineLiteralEnd bytes (i + 1)
  else bytes.size
termination_by bytes.size - i

/-- The end of a literal string, scanning after its opening apostrophe: just after the closing
one, before a line feed, or at the end of the text. -/
def literalEnd (bytes : ByteArray) (i : Nat) : Nat :=
  let j := findFrom bytes (fun b => b = apostrophe || b = lineFeed) i
  if bytes[j]? == some apostrophe then j + 1 else j

/-- The kind and the end of the token starting at index `i`, which is inside the text. -/
def kindAt (bytes : ByteArray) (i : Nat) (b : UInt8) : TokenKind × Nat :=
  if b = 46 then (.dot, i + 1)
  else if b = 61 then (.equals, i + 1)
  else if b = 44 then (.comma, i + 1)
  else if b = 91 then (.leftBracket, i + 1)
  else if b = 93 then (.rightBracket, i + 1)
  else if b = 123 then (.leftBrace, i + 1)
  else if b = 125 then (.rightBrace, i + 1)
  else if b = 32 || b = 9 then (.whitespace, findFrom bytes (fun c => c != 32 && c != 9) i)
  else if b = 35 then (.comment, findFrom bytes (fun c => c = carriageReturn || c = lineFeed) i)
  else if b = carriageReturn then (.newline, if bytes[i + 1]? == some lineFeed then i + 2 else i + 1)
  else if b = lineFeed then (.newline, i + 1)
  else if b = apostrophe then
    if hasAt bytes i [apostrophe, apostrophe, apostrophe] then
      (.string .multilineLiteral, multilineLiteralEnd bytes (i + 3))
    else (.string .literal, literalEnd bytes (i + 1))
  else if b = quote then
    if hasAt bytes i [quote, quote, quote] then (.string .multilineBasic, multilineBasicEnd bytes (i + 3))
    else (.string .basic, basicEnd bytes (i + 1))
  else (.atom, findFrom bytes endsAtom i)

/-- The tokens from index `i` on, after those in `acc`, ending with `eof`. -/
def scanFrom (bytes : ByteArray) (i : Nat) (acc : Array Token) : Array Token :=
  if h : i < bytes.size then
    let (kind, j) := kindAt bytes i bytes[i]
    let stop := max j (i + 1)
    scanFrom bytes stop (acc.push ⟨kind, ⟨i, stop⟩⟩)
  else acc.push ⟨.eof, ⟨bytes.size, bytes.size⟩⟩
termination_by bytes.size - i

/-- The tokens of a whole text, after a byte-order mark if it starts with one. -/
def scan (bytes : ByteArray) : Array Token :=
  scanFrom bytes (if hasAt bytes 0 [0xEF, 0xBB, 0xBF] then 3 else 0) #[]

end Token

end Toml
end DepthBridge
