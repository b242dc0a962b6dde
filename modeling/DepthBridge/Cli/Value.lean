/-!
# Reading option values

Numbers on the command line are read the way the standard number parsers read them: an
integer is an optional sign and decimal digits, checked for overflow digit by digit, and a
float is an optional sign and either `inf`, `infinity` or `nan` in any case, or decimal digits
with an optional point and an optional exponent, rounded once to the nearest representable
value. The error texts are the parsers' own.
-/

namespace DepthBridge
namespace Cli

/-- Reads the digits `ds` into a number below `bound`, left to right: the first character that
is not a digit fails as invalid, and the first digit that reaches `bound` fails with `tooBig`. -/
def readDigits (bound : Nat) (tooBig : String) : List Char → Nat → Except String Nat
  | [], n => .ok n
  | c :: cs, n =>
    if c.isDigit then
      let n := 10 * n + (c.toNat - '0'.toNat)
      if n ≥ bound then .error tooBig else readDigits bound tooBig cs n
    else .error "invalid digit found in string"

/-- A signed 64-bit integer. -/
def readSigned (s : String) : Except String Int :=
  match s.toList with
  | [] => .error "cannot parse integer from empty string"
  | ['+'] | ['-'] => .error "invalid digit found in string"
  | '-' :: ds => (fun n => -(n : Int)) <$> readDigits (Nat.pow 2 63 + 1) "number too small to fit in target type" ds 0
  | '+' :: ds => (fun n => (n : Int)) <$> readDigits (Nat.pow 2 63) "number too large to fit in target type" ds 0
  | ds => (fun n => (n : Int)) <$> readDigits (Nat.pow 2 63) "number too large to fit in target type" ds 0

/-- An unsigned 64-bit integer. -/
def readUnsigned (s : String) : Except String Nat :=
  match s.toList with
  | [] => .error "cannot parse integer from empty string"
  | ['+'] | ['-'] => .error "invalid digit found in string"
  | '+' :: ds => readDigits (Nat.pow 2 64) "number too large to fit in target type" ds 0
  | ds => readDigits (Nat.pow 2 64) "number too large to fit in target type" ds 0

/-- A decimal float's value: infinite, not a number, or `digits · 10^exponent`. -/
inductive FloatLiteral where
  | infinite
  | nan
  | finite (digits : Nat) (exponent : Int)
  deriving Repr, DecidableEq

/-- The digits at the front of `cs`, and what follows them. -/
def spanDigits (cs : List Char) : List Char × List Char := (cs.takeWhile Char.isDigit, cs.dropWhile Char.isDigit)

/-- The value of decimal digits. -/
def digitsValue (ds : List Char) : Nat := ds.foldl (fun n c => 10 * n + (c.toNat - '0'.toNat)) 0

/-- The exponent part after `e`: an optional sign and at least one digit, and nothing after. -/
def readExponent (cs : List Char) : Option Int :=
  let (negative, rest) := match cs with
    | '-' :: r => (true, r)
    | '+' :: r => (false, r)
    | r => (false, r)
  if rest.isEmpty || !rest.all Char.isDigit then none
  else
    let n : Int := digitsValue rest
    some (if negative then -n else n)

/-- An unsigned decimal number: digits, an optional point with digits, at least one digit in
all, then an optional exponent. -/
def readDecimal (cs : List Char) : Option FloatLiteral :=
  let (whole, rest) := spanDigits cs
  let (frac, rest) := match rest with
    | '.' :: r => spanDigits r
    | r => ([], r)
  if whole.isEmpty && frac.isEmpty then none
  else
    let exponent : Option Int := match rest with
      | [] => some 0
      | c :: r => if c == 'e' || c == 'E' then readExponent r else none
    exponent.map fun e => .finite (digitsValue (whole ++ frac)) (e - frac.length)

/-- A float literal without its sign. -/
def readUnsignedFloat (cs : List Char) : Option FloatLiteral :=
  match readDecimal cs with
  | some v => some v
  | none =>
    match String.ofList (cs.map Char.toLower) with
    | "inf" | "infinity" => some .infinite
    | "nan" => some .nan
    | _ => none

/-- A float literal and whether it is negative, or the parser's complaint. -/
def readFloatLiteral (s : String) : Except String (Bool × FloatLiteral) :=
  match s.toList with
  | [] => .error "cannot parse float from empty string"
  | c :: rest =>
    let (negative, body) := if c == '-' then (true, rest) else if c == '+' then (false, rest) else (false, c :: rest)
    if body.isEmpty then .error "invalid float literal"
    else match readUnsignedFloat body with
      | some v => .ok (negative, v)
      | none => .error "invalid float literal"

/-- The number of decimal digits of `n`. -/
def decimalDigits (n : Nat) : Nat := (toString n).length

/-- A double read from text, rounded once. -/
def readDouble (s : String) : Except String Float := do
  let (negative, v) ← readFloatLiteral s
  let x : Float := match v with
    | .infinite => 1 / 0
    | .nan => 0 / 0
    | .finite 0 _ => 0
    | .finite m e =>
      let lead := e + decimalDigits m
      if lead > 310 then 1 / 0
      else if lead < -330 then 0
      else if e ≥ 0 then Float.ofScientific m false e.toNat
      else Float.ofScientific m true (-e).toNat
  return if negative then -x else x

/-- A single read from text, rounded once. -/
def readSingle (s : String) : Except String Float32 := do
  let (negative, v) ← readFloatLiteral s
  let x : Float32 := match v with
    | .infinite => 1 / 0
    | .nan => 0 / 0
    | .finite 0 _ => 0
    | .finite m e =>
      let lead := e + decimalDigits m
      if lead > 40 then 1 / 0
      else if lead < -50 then 0
      else if e ≥ 0 then Float32.ofScientific m false e.toNat
      else Float32.ofScientific m true (-e).toNat
  return if negative then -x else x

end Cli
end DepthBridge
