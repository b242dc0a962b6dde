import DepthBridge.Text.Printable

/-!
# Blank characters and quoted text

`isBlank` is the Unicode `White_Space` property: the characters that trimming removes from the
ends of a name. `quoted` writes a string the way diagnostic dumps show it: between double
quotes, with the quote, the backslash, control characters and the characters of
`Text.escapedRanges` escaped.
-/

namespace DepthBridge
namespace Text

/-- The Unicode `White_Space` characters. -/
def isBlank (c : Char) : Bool :=
  let n := c.toNat
  (0x09 ≤ n && n ≤ 0x0D) || n == 0x20 || n == 0x85 || n == 0xA0 || n == 0x1680
    || (0x2000 ≤ n && n ≤ 0x200A) || n == 0x2028 || n == 0x2029 || n == 0x202F
    || n == 0x205F || n == 0x3000

/-- Whether a text holds nothing but blanks. -/
def isAllBlank (s : String) : Bool := s.toList.all isBlank

/-- The lower-case hexadecimal digits of `n`, without leading zeros. -/
def hexOf (n : Nat) : String := String.ofList (Nat.toDigits 16 n)

/-- One character as diagnostic dumps write it inside double quotes. -/
def quotedChar (c : Char) : String :=
  if c = '"' then "\\\""
  else if c = '\\' then "\\\\"
  else if c = '\n' then "\\n"
  else if c = '\r' then "\\r"
  else if c = '\t' then "\\t"
  else if c.toNat = 0 then "\\0"
  else if c.toNat < 32 || c.toNat = 127 || isEscaped c then "\\u\x7b" ++ hexOf c.toNat ++ "\x7d"
  else String.singleton c

/-- A string between double quotes, as diagnostic dumps write it. -/
def quoted (s : String) : String := "\"" ++ String.join (s.toList.map quotedChar) ++ "\""

/-- The two lower-case hexadecimal digits of each byte. -/
def hexOfBytes (bytes : ByteArray) : String :=
  String.join (bytes.toList.map fun b =>
    let n := b.toNat
    String.ofList [Nat.digitChar (n / 16), Nat.digitChar (n % 16)])

/-- The value of a hexadecimal digit, either case. -/
def hexValue? (c : Char) : Option Nat :=
  if c.isDigit then some (c.toNat - 48)
  else if 'a' ≤ c && c ≤ 'f' then some (c.toNat - 87)
  else if 'A' ≤ c && c ≤ 'F' then some (c.toNat - 55)
  else none

/-- The bytes written as pairs of hexadecimal digits, or `none` for a text of odd length or
with another character. -/
def bytesOfHex? (s : String) : Option ByteArray :=
  let rec go : List Char → Option (List UInt8)
    | [] => some []
    | a :: b :: rest =>
      match hexValue? a, hexValue? b, go rest with
      | some x, some y, some tail => some ((x * 16 + y).toUInt8 :: tail)
      | _, _, _ => none
    | [_] => none
  (go s.toList).map fun l => ⟨l.toArray⟩

end Text
end DepthBridge
