import SourceAtlas.Number.Binary64
import SourceAtlas.Text.Blank
import SourceAtlas.Text.Ranges

/-! Numbers written in decimal, as people and files write them. -/

namespace SourceAtlas

/-- Whether a character may surround a numeral: a blank that is no information separator. -/
def isNumeralMargin (c : Char) : Bool :=
  -- The separators are blanks elsewhere.
  isBlank c && !(28 ≤ c.toNat && c.toNat ≤ 31)

/-- The value of a list of ASCII digits. -/
def digitsValue (digits : List Char) : Nat :=
  -- The highest digit comes first.
  digits.foldl (fun value c => value * 10 + (c.toNat - '0'.toNat)) 0

/-- The most digits that an integer may have to be read. -/
def digitLimit : Nat := 4300

/-- Whether an integer has no more digits than can be read. -/
def hasFewDigits (value : Int) : Bool :=
  -- The sign is no digit.
  (Nat.toDigits 10 value.natAbs).length ≤ digitLimit

/-- The sign of a numeral and what follows it. -/
def splitSign : List Char → Bool × List Char
  | '-' :: rest => (true, rest)
  | '+' :: rest => (false, rest)
  | text => (false, text)

/-- The exponent of a numeral whose mantissa has been read; it takes the whole rest. -/
def readExponent? : List Char → Option Int
  | [] => some 0
  | mark :: rest =>
    -- The mark may stand in either case, and asks for a digit.
    if mark == 'e' || mark == 'E' then
      let (negative, digits) := splitSign rest
      if digits.isEmpty || !digits.all Char.isDigit then none
      else
        let value := digitsValue digits
        some (if negative then -(value : Int) else value)
    else none

/-- A numeral without a sign: digits, a point, an exponent; at least one digit
stands before the exponent. -/
def readUnsigned? (text : List Char) : Option (Nat × Int) :=
  -- The digits behind the point shift the exponent down.
  let whole := text.takeWhile Char.isDigit
  let rest := text.dropWhile Char.isDigit
  match rest with
  | '.' :: tail =>
    let fraction := tail.takeWhile Char.isDigit
    if whole.isEmpty && fraction.isEmpty then none
    else (readExponent? (tail.dropWhile Char.isDigit)).map fun exponent =>
      (digitsValue (whole ++ fraction), exponent - fraction.length)
  | _ =>
    if whole.isEmpty then none
    else (readExponent? rest).map fun exponent => (digitsValue whole, exponent)

/-- A signed numeral in ASCII, or one of the words for infinity and for no number. -/
def readFloat? (text : List Char) : Option Binary64 :=
  let (negative, rest) := splitSign text
  -- The words may stand in any case, behind a sign.
  let word := rest.map Char.toLower
  if word == "inf".toList || word == "infinity".toList then
    some (Binary64.ofParts negative Binary64.infinityBits)
  -- A sign in front of what is no number is not kept.
  else if word == "nan".toList then some Binary64.nan
  else (readUnsigned? rest).map fun (digits, power) => Binary64.ofDecimal negative digits power

/-- The text without underscores, each of which must stand between two digits. -/
def dropUnderscores? (before : Option Char) : List Char → Option (List Char)
  | [] => if before == some '_' then none else some []
  | c :: rest =>
    -- An underscore needs a digit on either side; the one behind it is seen in the next step.
    let afterDigit := match before with
      | some b => b.isDigit
      | none => false
    if c == '_' then
      if afterDigit then dropUnderscores? (some c) rest else none
    else if before == some '_' && !c.isDigit then none
    else (dropUnderscores? (some c) rest).map (c :: ·)

/-- The character with digits of every script written in ASCII. -/
def asciiDigit (c : Char) : Char :=
  -- Characters that are no digits stay as they are.
  match digitValue? c with
  | some value => Char.ofNat ('0'.toNat + value)
  | none => c

/-- A number in a text: margins around it, underscores between digits, digits of every script. -/
def numberInText? (text : List Char) : Option Binary64 :=
  -- Once the digits are in ASCII, one reader serves every script.
  (dropUnderscores? none ((trimBy isNumeralMargin text).map asciiDigit)).bind readFloat?

end SourceAtlas
