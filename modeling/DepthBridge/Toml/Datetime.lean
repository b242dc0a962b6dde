/-!
# TOML dates and times

An unquoted value that starts with digits followed by `-` or `:` is a date, a time or both. This
module checks one and says what is wrong with it the way the bridge reports it: `invalid date,
expected day between 01 and 30`, `failed to parse datetime, expected year or hour`, and so on.

The text is cut into pieces: runs of digits, the separators `-`, `:`, `.` and `+`, `T` and `Z`
(either case), a space, and anything else, which ends the cutting. A full value is
`YYYY-MM-DD`, then `T` or a space and `HH:MM[:SS[.fraction]]`, then an offset `Z`, `+HH:MM` or
`-HH:MM`; a value may also be only the date or only the time (no offset). Days are checked
against the month, with February 29 only in leap years; seconds go up to 60 for leap seconds.
-/

namespace DepthBridge
namespace Toml

/-- A piece of a date or time. -/
inductive DatePiece where
  | digits (text : List Char)
  | dash | colon | dot | plus | separator | zulu | space
  /-- Anything else; the cutting stops there. -/
  | other
  deriving DecidableEq, Inhabited

namespace DatePiece

/-- The first piece of `cs` and what is left after it. -/
def next : List Char → Option (DatePiece × List Char)
  | [] => none
  | c :: rest =>
    if c.isDigit then some (.digits (c :: rest.takeWhile Char.isDigit), rest.dropWhile Char.isDigit)
    else if c = '-' then some (.dash, rest)
    else if c = ':' then some (.colon, rest)
    else if c = '.' then some (.dot, rest)
    else if c = '+' then some (.plus, rest)
    else if c = 'T' || c = 't' then some (.separator, rest)
    else if c = 'Z' || c = 'z' then some (.zulu, rest)
    else if c = ' ' then some (.space, rest)
    else some (.other, [])

end DatePiece

/-- What is wrong with a date or time: which part, if known, and what was wanted. -/
structure DateFault where
  part : Option String
  wanted : Option String

/-- The message of a date fault. -/
def DateFault.message (f : DateFault) : String :=
  let head := match f.part with
    | some p => "invalid " ++ p
    | none => "failed to parse datetime"
  match f.wanted with
  | some w => head ++ ", expected " ++ w
  | none => head

/-- Checking a date or time: reading the pieces left. -/
abbrev DateCheck := StateT (List Char) (Except DateFault)

namespace DateCheck

/-- Stops with what was wrong. -/
def wrong (part wanted : String) : DateCheck α := throw ⟨some part, some wanted⟩

/-- The next piece, if any. -/
def next? : DateCheck (Option DatePiece) := do
  match DatePiece.next (← get) with
  | some (p, rest) => set rest; return some p
  | none => return none

/-- The next piece, left unread. -/
def peek? : DateCheck (Option DatePiece) := do
  return (DatePiece.next (← get)).map (·.1)

/-- The next piece, which must be digits. -/
def digits (part wanted : String) : DateCheck (List Char) := do
  match ← next? with
  | some (.digits d) => return d
  | _ => wrong part wanted

/-- The next piece, which must be `p`. -/
def expect (p : DatePiece) (part wanted : String) : DateCheck Unit := do
  if (← next?) != some p then wrong part wanted

/-- The number written by decimal digits. -/
def value (d : List Char) : Nat := d.foldl (fun n c => 10 * n + (c.toNat - '0'.toNat)) 0

/-- Whether a year is a leap year. -/
def isLeap (year : Nat) : Bool := year % 4 = 0 && (year % 100 != 0 || year % 400 = 0)

/-- The number of days of a month. -/
def daysIn (year month : Nat) : Nat :=
  if month = 2 then (if isLeap year then 29 else 28)
  else if month = 4 || month = 6 || month = 9 || month = 11 then 30
  else 31

/-- A date after its year and the dash after the year. -/
def dateRest (year : List Char) : DateCheck Unit := do
  let month ← digits "date" "month"
  expect .dash "date" "`-` (MM-DD)"
  let day ← digits "date" "day"
  if year.length != 4 then wrong "date" "a four-digit year (YYYY)"
  if month.length != 2 then wrong "date" "a two-digit month (MM)"
  if day.length != 2 then wrong "date" "a two-digit day (DD)"
  let m := value month
  let d := value day
  if m < 1 || m > 12 then wrong "date" "month between 01 and 12"
  let last := daysIn (value year) m
  if d < 1 || d > last then wrong "date" s!"day between 01 and {last}"

/-- A time of day. -/
def time : DateCheck Unit := do
  let hour ← digits "time" "hour"
  expect .colon "time" "`:` (HH:MM)"
  let minute ← digits "time" "minute"
  let second ← if (← peek?) == some .colon then
      discard next?
      some <$> digits "time" "second"
    else pure none
  if second.isSome && (← peek?) == some .dot then
    discard next?
    discard (digits "time" "nanosecond")
  if hour.length != 2 then wrong "time" "a two-digit hour (HH)"
  if minute.length != 2 then wrong "time" "a two-digit minute (MM)"
  if let some s := second then
    if s.length != 2 then wrong "time" "a two-digit second (SS)"
  if value hour > 23 then wrong "time" "hour between 00 and 23"
  if value minute > 59 then wrong "time" "minute between 00 and 59"
  if let some s := second then
    if value s > 60 then wrong "time" "second between 00 and 60"

/-- An offset from universal time. -/
def offset : DateCheck Unit := do
  match ← peek? with
  | none => pure ()
  | some .zulu => discard next?
  | some .plus | some .dash =>
    discard next?
    let hours ← digits "offset" "hour"
    expect .colon "offset" "`:` (HH:MM)"
    let minutes ← digits "offset" "minute"
    if hours.length != 2 then wrong "offset" "a two-digit hour (HH)"
    if minutes.length != 2 then wrong "offset" "a two-digit minute (MM)"
    if value hours > 23 then wrong "offset" "hours between 00 and 23"
    if value minutes > 59 then wrong "offset" "minutes between 00 and 59"
  | some _ => wrong "offset" "`Z`, +OFFSET, -OFFSET"

/-- A whole date, time or both. -/
def whole (text : List Char) : DateCheck Unit := do
  let first ← match ← next? with
    | some (.digits d) => pure d
    | _ => throw ⟨none, some "year or hour"⟩
  match ← next? with
  | some .dash =>
    dateRest first
    match ← peek? with
    | some .separator | some .space =>
      discard next?
      time
      offset
    | some _ => wrong "date-time" "`T` between date and time"
    | none => pure ()
  | some .colon =>
    set text
    time
  | _ => throw ⟨none, some "`-` (YYYY-MM) or `:` (HH:MM)"⟩
  if !(← get).isEmpty then throw ⟨none, none⟩

end DateCheck

/-- What is wrong with the date or time `text`, if anything. -/
def datetimeFault? (text : String) : Option String :=
  match (DateCheck.whole text.toList).run text.toList with
  | .ok _ => none
  | .error f => some f.message

end Toml
end DepthBridge
