import SourceAtlas.Json.Value
import SourceAtlas.Number.Decimal
import SourceAtlas.Text.Quoted

/-! JSON text: one printer, whose style says how wide, in which alphabet, and
how numbers are written. -/

namespace SourceAtlas

/-- How JSON is written. -/
structure JsonStyle where
  /-- The blanks per level of nesting; none writes everything on one line. -/
  indent : Option Nat
  /-- Whether all characters outside printable ASCII are escaped. -/
  asciiOnly : Bool
  /-- The text of a double. -/
  number : Binary64 → String

namespace JsonStyle

/-- Doubles in stored files; those that are no numbers or infinite are written as null. -/
def storedNumber (x : Binary64) : String :=
  -- Files have no form for the others.
  if x.isFinite then FloatLayout.stored.finite x else "null"

/-- The style of stored files. -/
def stored : JsonStyle := ⟨some 2, false, storedNumber⟩

/-- The style of printed reports. -/
def report : JsonStyle := ⟨some 2, true, Binary64.display⟩

/-- Everything on one line. -/
def compact : JsonStyle := ⟨none, false, Binary64.display⟩

end JsonStyle

namespace Json

/-- One sixteen-bit unit as an escape. -/
def escapeUnit (unit : Nat) : List Char :=
  -- There are always four digits.
  '\\' :: 'u' :: hexDigits 4 unit

/-- A character as escapes: one unit, or two for characters beyond the first plane. -/
def escapeUnits (c : Char) : List Char :=
  if c.toNat < 0x10000 then escapeUnit c.toNat
  else
    -- The offset has twenty bits, ten of them in each unit.
    let offset := c.toNat - 0x10000
    escapeUnit (0xD800 + offset / 0x400) ++ escapeUnit (0xDC00 + offset % 0x400)

/-- A character inside a JSON string. -/
def escapeChar (asciiOnly : Bool) (c : Char) : List Char :=
  -- The two characters that would end or escape the string.
  if c == '"' then ['\\', '"']
  else if c == '\\' then ['\\', '\\']
  -- Control characters with letters of their own.
  else if c == '\n' then ['\\', 'n']
  else if c == '\r' then ['\\', 'r']
  else if c == '\t' then ['\\', 't']
  else if c == '\x08' then ['\\', 'b']
  else if c == '\x0c' then ['\\', 'f']
  -- All other control characters are escaped by number.
  else if c.toNat < 0x20 then escapeUnit c.toNat
  -- Beyond ASCII a character may stand as it is.
  else if asciiOnly && 0x7F ≤ c.toNat then escapeUnits c
  else [c]

/-- A JSON string. -/
def quoteString (asciiOnly : Bool) (text : String) : List Char :=
  '"' :: (text.toList.flatMap (escapeChar asciiOnly) ++ ['"'])

/-- The decimal digits of an integer. -/
def intChars (value : Int) : List Char :=
  -- The sign stands before the digits of the magnitude.
  if value < 0 then '-' :: Nat.toDigits 10 value.natAbs else Nat.toDigits 10 value.natAbs

/-- What stands before an item at a level of nesting. -/
def lineBreak (style : JsonStyle) (level : Nat) : List Char :=
  match style.indent with
  -- Without indentation there is no line to break.
  | none => []
  | some width => '\n' :: List.replicate (width * level) ' '

/-- What stands between a key and its value. -/
def colon (style : JsonStyle) : List Char :=
  match style.indent with
  -- Nor is there a blank behind the colon.
  | none => [':']
  | some _ => [':', ' ']

mutual

/-- The text of a value at a level of nesting. -/
def print (style : JsonStyle) (level : Nat) : Json → List Char
  | null => "null".toList
  | bool true => "true".toList
  | bool false => "false".toList
  | int value => intChars value
  | float value => (style.number value).toList
  | str value => quoteString style.asciiOnly value
  -- A torn text is written as it is shown, but such values are refused before they are written.
  | torn shown => quoteString style.asciiOnly shown
  -- An array or object without content stands on one line.
  | arr [] => ['[', ']']
  | arr (item :: items) =>
    -- The first item has no comma before it, and the closing bracket stands one level further out.
    '[' :: (lineBreak style (level + 1) ++ print style (level + 1) item ++
      printItems style (level + 1) items ++ lineBreak style level ++ [']'])
  | obj [] => ['\x7b', '\x7d']
  | obj ((key, value) :: fields) =>
    '\x7b' :: (lineBreak style (level + 1) ++ quoteString style.asciiOnly key ++ colon style ++
      print style (level + 1) value ++ printFields style (level + 1) fields ++
      lineBreak style level ++ ['\x7d'])

/-- The text of the items after the first. -/
def printItems (style : JsonStyle) (level : Nat) : List Json → List Char
  | [] => []
  | item :: items =>
    ',' :: (lineBreak style level ++ print style level item ++ printItems style level items)

/-- The text of the fields after the first. -/
def printFields (style : JsonStyle) (level : Nat) : List (String × Json) → List Char
  | [] => []
  | (key, value) :: fields =>
    ',' :: (lineBreak style level ++ quoteString style.asciiOnly key ++ colon style ++
      print style level value ++ printFields style level fields)

end

/-- The text of a value. -/
def render (style : JsonStyle) (value : Json) : String :=
  String.ofList (print style 0 value)

end Json

end SourceAtlas
