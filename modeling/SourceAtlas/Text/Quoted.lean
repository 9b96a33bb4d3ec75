import SourceAtlas.Text.Printable

/-! Texts between quotes, with escapes for what would not be seen. -/

namespace SourceAtlas

/-- The lower-case hexadecimal digit of a value below sixteen. -/
def hexDigit (value : Nat) : Char :=
  -- Larger values do not occur.
  if value < 10 then Char.ofNat ('0'.toNat + value) else Char.ofNat ('a'.toNat + (value - 10))

/-- The last `width` hexadecimal digits of a number, highest first. -/
def hexDigits : Nat → Nat → List Char
  -- Digits in front of the width are cut off.
  | 0, _ => []
  | width + 1, value => hexDigits width (value / 16) ++ [hexDigit (value % 16)]

/-- The value of a hexadecimal digit of either case. -/
def hexValue? (c : Char) : Option Nat :=
  -- Both cases stand for the same values.
  if c.isDigit then some (c.toNat - '0'.toNat)
  else if 'a' ≤ c ∧ c ≤ 'f' then some (c.toNat - 'a'.toNat + 10)
  else if 'A' ≤ c ∧ c ≤ 'F' then some (c.toNat - 'A'.toNat + 10)
  else none

/-- One character inside quotes: the quote and the backslash are escaped, and so is all
that is not printable. -/
def quoteChar (quote c : Char) : List Char :=
  -- The other quote needs no escape.
  if c == quote || c == '\\' then ['\\', c]
  else if c == '\t' then ['\\', 't']
  else if c == '\n' then ['\\', 'n']
  else if c == '\r' then ['\\', 'r']
  else if isPrintable c then [c]
  -- The shortest of the three forms that has room is taken.
  else if c.toNat < 0x100 then '\\' :: 'x' :: hexDigits 2 c.toNat
  else if c.toNat < 0x10000 then '\\' :: 'u' :: hexDigits 4 c.toNat
  else '\\' :: 'U' :: hexDigits 8 c.toNat

/-- A text between single quotes, or between double quotes when it holds only single ones. -/
def quoteChars (text : List Char) : List Char :=
  -- Escaping is avoided where the other quote serves.
  let quote := if text.contains '\'' && !text.contains '"' then '"' else '\''
  quote :: (text.flatMap (quoteChar quote) ++ [quote])

/-- A text between quotes. -/
def quoted (text : String) : String :=
  String.ofList (quoteChars text.toList)

end SourceAtlas
