import DepthBridge.Toml.Scalar

/-!
# TOML documents

The expressions of a document are gathered into its root table. Each table keeps its entries
sorted by key, each with the span of the key that made it, and remembers how it came to be:
through a header, implicitly as a step of a longer header or dotted key, through dotted keys, or
written inline.

A header ends the section before it. That section's table is only put in place then, so a
duplicate array of tables is reported there, before the keys of the new header are decoded.
Then the new header's path is walked:

* a `[table]` may take over a table that only exists implicitly, as a step of an earlier
  header; any other existing value under its name is a duplicate;
* an `[[array]]` gets a new element when its section ends.

A dotted key walks the same way from the current table. It may only step into tables that
dotted keys made, and its last part must be new. A dotted key cannot extend an inline table, or
a value that is no table. Those faults name the type of that value.

Keys of more than 80 parts are refused.
-/

namespace DepthBridge
namespace Toml

/-- How a table came to be. -/
inductive TableKind where
  /-- Through a `[header]`, or the root. -/
  | header
  /-- As a step of a longer header's path. -/
  | implicit
  /-- As a step of a dotted key. -/
  | dotted
  /-- Written inline, `{ … }`. -/
  | inline
  deriving DecidableEq, Repr

/-- A value of a document, with its span. -/
inductive Item where
  | str (s : String) (span : Span)
  /-- An integer: its sign and digits and its radix. -/
  | integer (digits : String) (radix : Nat) (span : Span)
  /-- A float: its text without underscores. -/
  | float (text : String) (span : Span)
  | bool (b : Bool) (span : Span)
  | datetime (text : String) (span : Span)
  /-- An array; `ofTables` for one built by `[[array]]` headers. -/
  | array (items : List Item) (ofTables : Bool) (span : Span)
  /-- A table: its entries, sorted by key, each with the span of its key. -/
  | table (entries : List (String × Span × Item)) (kind : TableKind) (span : Span)
  deriving Inhabited

/-- The entries of a table. -/
abbrev Entries := List (String × Span × Item)

namespace Item

/-- Where a value stands. -/
def span : Item → Span
  | .str _ s | .integer _ _ s | .float _ s | .bool _ s | .datetime _ s | .array _ _ s
  | .table _ _ s => s

/-- The type of a value, as faults name it. -/
def typeName : Item → String
  | .str .. => "string"
  | .integer .. => "integer"
  | .float .. => "float"
  | .bool .. => "boolean"
  | .datetime .. => "datetime"
  | .array .. => "array"
  | .table .. => "table"

end Item

namespace Entries

/-- The entry named `k`, its key's span and its value. -/
def entry? (entries : Entries) (k : String) : Option (Span × Item) :=
  (List.find? (·.1 == k) entries).map (·.2)

/-- The entries with a new entry `k` in its sorted place. -/
def insert (entries : Entries) (k : String) (span : Span) (item : Item) : Entries :=
  let (smaller, rest) := entries.span (fun e => decide (e.1 < k))
  smaller ++ (k, span, item) :: rest

/-- The entries with entry `k` holding `item`. -/
def replace (entries : Entries) (k : String) (item : Item) : Entries :=
  entries.map fun (k', s, v) => if k' == k then (k', s, item) else (k', s, v)

/-- The entries without entry `k`. -/
def remove (entries : Entries) (k : String) : Entries :=
  entries.filter (·.1 != k)

end Entries

/-- The fault of a key given twice. -/
def duplicateKey (span : Span) : Fault := Fault.spanning "duplicate key" span

/-- The fault of a dotted key that would step into `item`. -/
def cannotExtend (item : Item) (span : Span) : Fault :=
  Fault.spanning s!"cannot extend value of type {item.typeName} with a dotted key" span

/-- Walks `path` from the table with `entries` of kind `kind`, making missing steps (as dotted
tables if `dotted`, as implicit ones otherwise), and runs `visit` on the table at its end; the
entries afterwards and what `visit` gave. -/
def descend (dotted : Bool) (visit : TableKind → Entries → Except Fault (Entries × α)) :
    List (String × Span) → TableKind → Entries → Except Fault (Entries × α)
  | [], kind, entries => visit kind entries
  | (key, span) :: rest, _, entries =>
    match Entries.entry? entries key with
    | none => do
      let kind := if dotted then TableKind.dotted else TableKind.implicit
      let (inner, a) ← descend dotted visit rest kind []
      return (Entries.insert entries key span (.table inner kind span), a)
    | some (_, .array items true aspan) =>
      match items.getLast? with
      | some (.table inner kind tspan) => do
        let (inner, a) ← descend dotted visit rest kind inner
        return (Entries.replace entries key (.array (items.dropLast ++ [.table inner kind tspan]) true aspan), a)
      | some other => throw (cannotExtend other span)
      | none => throw (cannotExtend (.array [] true aspan) span)
    | some (_, .table inner kind tspan) =>
      if kind == .inline then throw (duplicateKey span)
      else if dotted && !(kind == .implicit || kind == .dotted) then throw (duplicateKey span)
      else do
        let (inner, a) ← descend dotted visit rest kind inner
        return (Entries.replace entries key (.table inner kind tspan), a)
    | some (_, other) => throw (cannotExtend other span)

/-- Adds the value of a key-value pair to a table: the key is walked as a dotted key, its last
part must be new, and the table it lands in must have been made by dotted keys unless the key
has only one part. -/
def capture (entries : Entries) (key : List (String × Span)) (value : Item) : Except Fault Entries :=
  match key.getLast? with
  | none => pure entries
  | some (name, span) =>
    let path := key.dropLast
    let place (kind : TableKind) (parent : Entries) : Except Fault (Entries × Unit) :=
      if (kind == .dotted) == path.isEmpty then throw (duplicateKey span)
      else if (Entries.entry? parent name).isSome then throw (duplicateKey span)
      else pure (Entries.insert parent name span value, ())
    if path.isEmpty then
      if (Entries.entry? entries name).isSome then throw (duplicateKey span)
      else pure (Entries.insert entries name span value)
    else (·.1) <$> descend true place path .header entries

/-- The deepest a key may be. -/
def maxKeyParts : Nat := 80

/-- The names of the parts of a key. -/
def keyPath (src : ByteArray) (key : List Raw) : Except Fault (List (String × Span)) := do
  let parts ← key.mapM fun raw => return (← keyName src raw, raw.span)
  if parts.length > maxKeyParts then throw ⟨"recursion limit", none⟩
  return parts

/-- The item of a scalar at `span`. -/
def Scalar.item (span : Span) : Scalar → Item
  | .string s => .str s span
  | .boolean b => .bool b span
  | .integer d r => .integer d r span
  | .float t => .float t span
  | .datetime t => .datetime t span

mutual

/-- The item a value writes. -/
def itemOf (src : ByteArray) : Value → Except Fault Item
  | .scalar raw => return (← scalarOf src raw).item raw.span
  | .array span items => return .array (← itemsOf src items) false span
  | .inlineTable span pairs => return .table (← pairsOf src [] pairs) .inline span

/-- The items of array values. -/
def itemsOf (src : ByteArray) : List Value → Except Fault (List Item)
  | [] => pure []
  | v :: rest => return (← itemOf src v) :: (← itemsOf src rest)

/-- The entries of an inline table, after `entries`. -/
def pairsOf (src : ByteArray) (entries : Entries) : List (List Raw × Value) → Except Fault Entries
  | [] => pure entries
  | (key, v) :: rest => do
    let path ← keyPath src key
    let item ← itemOf src v
    pairsOf src (← capture entries path item) rest

end

/-- The header of a section: the path to its table, the last key part with its span, whether
it is an array of tables, and the span of the header. -/
structure Header where
  path : List (String × Span)
  name : String
  nameSpan : Span
  isArray : Bool
  span : Span

/-- The document read so far: the root table and the section being read. -/
structure Building where
  root : Entries
  header : Option Header
  current : Entries

/-- Puts the section being read in place. -/
def Building.finish (b : Building) : Except Fault Entries :=
  match b.header with
  | none => pure (b.root ++ b.current)
  | some h =>
    let table : Item := .table b.current .header h.span
    let place (_ : TableKind) (parent : Entries) : Except Fault (Entries × Unit) :=
      if h.isArray then
        match Entries.entry? parent h.name with
        | none => pure (Entries.insert parent h.name h.nameSpan (.array [table] true h.span), ())
        | some (_, .array items true aspan) =>
          pure (Entries.replace parent h.name (.array (items ++ [table]) true aspan), ())
        | some _ => throw (duplicateKey h.nameSpan)
      else pure (Entries.insert parent h.name h.nameSpan table, ())
    (·.1) <$> descend false place h.path .header b.root

/-- Starts the section of a header: a `[table]` takes over an implicit table of its name,
leaving its place empty until the section ends. -/
def Building.start (root : Entries) (h : Header) : Except Fault Building := do
  if h.isArray then return ⟨root, some h, []⟩
  let take (_ : TableKind) (parent : Entries) : Except Fault (Entries × Entries) :=
    match Entries.entry? parent h.name with
    | none => pure (parent, [])
    | some (_, .table inner .implicit _) => pure (Entries.remove parent h.name, inner)
    | some _ => throw (duplicateKey h.nameSpan)
  let (root, taken) ← descend false take h.path .header root
  return ⟨root, some h, taken⟩

/-- Reads the expressions into the document built so far. -/
def Building.read (src : ByteArray) : Building → List Expression → Except Fault Building
  | b, [] => pure b
  | b, .pair key value :: rest => do
    let path ← keyPath src key
    let item ← itemOf src value
    Building.read src { b with current := ← capture b.current path item } rest
  | b, .header span key isArray :: rest => do
    let root ← b.finish
    let path ← keyPath src key
    match path.getLast? with
    | none => Building.read src b rest
    | some (name, nameSpan) =>
      let b ← Building.start root ⟨path.dropLast, name, nameSpan, isArray, span⟩
      Building.read src b rest

/-- The root table of a TOML text, or its first fault. -/
def parse (text : String) : Except Fault Item := do
  let src := text.toUTF8
  let expressions ← Expression.parse src
  let b ← Building.read src ⟨[], none, []⟩ expressions
  return .table (← b.finish) .header ⟨0, src.size⟩

end Toml
end DepthBridge
