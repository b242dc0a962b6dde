import DepthBridge.Decimal.Shortest

/-!
# Writing the shortest digits

`Decimal.shortest` fixes the digits of a float; a `Style` fixes how they are laid out: which
decimal exponents are written positionally, whether an integral value keeps a `.0`, how a
positive exponent is signed, and the texts of the values without digits.

The bridge writes floats in four styles:

* `Style.json`, the data format of messages and configuration files: positional for decimal
  exponents `-5 … 15`, with `.0` on integral values, else `1e-6`, `1.5e+16`;
* `Style.plain`, the text of log and error messages: always positional, no `.0`;
* `Style.debug`, the text of diagnostic dumps: positional for `1e-4 ≤ |x| < 1e16`, with `.0`,
  else `1e-5`, `1e16`;
* `Style.toml`, the configuration file format: always positional, with `.0`;
* `Style.quoted`, a float quoted in a reading error: like `Style.toml`, but `NaN`.

`fixed n x` writes `x` with exactly `n` places, the exact binary value rounded half to even.
-/

namespace DepthBridge
namespace Decimal

/-- How the shortest digits of a float are laid out. -/
structure Style where
  /-- Decimal exponents `e` (of the first digit) with `lo ≤ e < hi` are written positionally;
  `none` writes every value positionally. -/
  plainRange : Option (Int × Int)
  /-- An integral value written positionally ends in `.0`. -/
  pointZero : Bool
  /-- A positive exponent carries a `+`. -/
  expPlus : Bool
  nanText : String
  infText : String
  deriving Repr

namespace Style

/-- Message and configuration data. -/
def json : Style := ⟨some (-5, 16), true, true, "null", "null"⟩

/-- Log and error message text. -/
def plain : Style := ⟨none, false, false, "NaN", "inf"⟩

/-- Diagnostic dumps. -/
def debug : Style := ⟨some (-4, 16), true, false, "NaN", "inf"⟩

/-- Configuration files. -/
def toml : Style := ⟨none, true, false, "nan", "inf"⟩

/-- Values quoted in reading errors: always positional, always with a decimal point. -/
def quoted : Style := ⟨none, true, false, "NaN", "inf"⟩

end Style

/-- `n` copies of `c`. -/
def repeatChar (c : Char) (n : Nat) : String := String.ofList (List.replicate n c)

/-- The digits `ds` of `c · 10^e` written positionally. -/
def positional (ds : String) (e : Int) (pointZero : Bool) : String :=
  if e ≥ 0 then
    ds ++ repeatChar '0' e.toNat ++ (if pointZero then ".0" else "")
  else
    let point : Int := (ds.length : Int) + e
    if point > 0 then
      String.ofList (ds.toList.take point.toNat) ++ "." ++ String.ofList (ds.toList.drop point.toNat)
    else
      "0." ++ repeatChar '0' (-point).toNat ++ ds

/-- The digits `ds` of `c · 10^e` in exponent form `d.ddde±x`. -/
def scientific (ds : String) (e : Int) (expPlus : Bool) : String :=
  let sciExp : Int := (ds.length : Int) - 1 + e
  let rest := String.ofList ds.toList.tail
  let mantissa := String.ofList (ds.toList.take 1) ++ (if rest.isEmpty then "" else "." ++ rest)
  let expText :=
    if sciExp < 0 then "-" ++ toString (-sciExp).toNat
    else (if expPlus then "+" else "") ++ toString sciExp.toNat
  mantissa ++ "e" ++ expText

/-- The float with bit pattern `bits` of format `f`, written in style `s`. -/
def Style.render (s : Style) (f : Format) (bits : Nat) : String :=
  match shortest f bits with
  | (.infinite negative, _) => (if negative then "-" else "") ++ s.infText
  | (_, some (negative, c, e)) =>
    let sign := if negative then "-" else ""
    let ds := toString c
    let sciExp : Int := (ds.length : Int) - 1 + e
    let plainHere :=
      match s.plainRange with
      | none => true
      | some (lo, hi) => c == 0 || (lo ≤ sciExp && sciExp < hi)
    sign ++ (if plainHere then positional ds e s.pointZero else scientific ds e s.expPlus)
  | _ => s.nanText

/-- A double in style `s`. -/
def Style.double (s : Style) (x : Float) : String := s.render .double x.toBits.toNat

/-- A single in style `s`. -/
def Style.single (s : Style) (x : Float32) : String := s.render .single x.toBits.toNat

/-- `num / den` rounded to the nearest integer, a half to the even neighbour. -/
def roundHalfEven (num den : Nat) : Nat :=
  let q := num / den
  let r := num % den
  if 2 * r > den then q + 1
  else if 2 * r < den then q
  else if q % 2 == 0 then q else q + 1

/-- The value `m · 2^q` times `10^places`, rounded half to even. -/
def scaledRound (m : Nat) (q : Int) (places : Nat) : Nat :=
  if q ≥ 0 then m * Nat.pow 2 q.toNat * Nat.pow 10 places
  else roundHalfEven (m * Nat.pow 10 places) (Nat.pow 2 (-q).toNat)

/-- The float with bit pattern `bits` of format `f` with exactly `places` decimal places. -/
def fixedBits (f : Format) (places : Nat) (bits : Nat) : String :=
  match Parts.ofBits f bits with
  | .nan => "NaN"
  | .infinite negative => (if negative then "-" else "") ++ "inf"
  | .finite negative m q _ =>
    let n := scaledRound m q places
    let ds := toString n
    let padded := if ds.length ≤ places then repeatChar '0' (places + 1 - ds.length) ++ ds else ds
    let cut := padded.length - places
    let body :=
      if places = 0 then padded
      else String.ofList (padded.toList.take cut) ++ "." ++ String.ofList (padded.toList.drop cut)
    (if negative then "-" else "") ++ body

/-- A double with exactly `places` decimal places. -/
def fixed (places : Nat) (x : Float) : String := fixedBits .double places x.toBits.toNat

end Decimal
end DepthBridge
