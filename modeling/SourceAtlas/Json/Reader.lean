import SourceAtlas.Json.Value
import SourceAtlas.Number.Numeral
import SourceAtlas.Text.Cut
import SourceAtlas.Text.Quoted

/-! Reading JSON text: a value, or the first fault with its place. -/

namespace SourceAtlas

/-- What can be wrong with a JSON text. -/
inductive JsonFault where
  | expectingValue
  | extraData
  | expectingComma
  | expectingColon
  | expectingName
  | unterminatedString
  | controlCharacter
  | badEscape
  | badUnicodeEscape
  | byteOrderMark
  /-- An integer has so many digits that it is not read. -/
  | tooManyDigits (digits : Nat)
  deriving DecidableEq, Repr

/-- The wording of a fault. -/
def JsonFault.text : JsonFault → String
  | expectingValue => "Expecting value"
  | extraData => "Extra data"
  | expectingComma => "Expecting ',' delimiter"
  | expectingColon => "Expecting ':' delimiter"
  | expectingName => "Expecting property name enclosed in double quotes"
  | unterminatedString => "Unterminated string starting at"
  | controlCharacter => "Invalid control character at"
  | badEscape => "Invalid \\escape"
  | badUnicodeEscape => "Invalid \\uXXXX escape"
  | byteOrderMark => "Unexpected UTF-8 BOM (decode using utf-8-sig)"
  | tooManyDigits digits =>
    s!"Exceeds the limit ({digitLimit} digits) for integer string conversion: " ++
      s!"value has {digits} digits; use sys.set_int_max_str_digits() to increase the limit"

/-- Whether a fault is one of the text, and not just of the limits of reading. -/
def JsonFault.isSyntactic : JsonFault → Bool
  -- All other faults break the rules of the text itself.
  | tooManyDigits _ => false
  | _ => true

/-- A fault and the offset of the character at which it was noticed. -/
structure FaultAt where
  fault : JsonFault
  offset : Nat
  deriving DecidableEq, Repr

/-- A fault with its line and column, both counted from one. -/
structure JsonError where
  fault : JsonFault
  line : Nat
  column : Nat
  offset : Nat
  deriving DecidableEq, Repr

/-- The wording of an error; only a fault of the text is told with its place. -/
def JsonError.message (error : JsonError) : String :=
  if error.fault.isSyntactic then
    s!"{error.fault.text}: line {error.line} column {error.column} (char {error.offset})"
  else error.fault.text

/-- The error of a fault in a text. -/
def FaultAt.locate (found : FaultAt) (text : List Char) : JsonError :=
  -- The place is counted in the text as it was given, with its line ends.
  let before := text.take found.offset
  let line := before.count '\n' + 1
  let column := (before.reverse.takeWhile (· != '\n')).length + 1
  ⟨found.fault, line, column, found.offset⟩

namespace Json

/-- The text left to read, and the offset at which it starts. -/
structure Place where
  rest : List Char
  offset : Nat

/-- The outcome of reading a part: its value and the place after it. -/
abbrev Reading (α : Type) := Except FaultAt (α × Place)

/-- Whether a character may stand between tokens. -/
def isGap (c : Char) : Bool :=
  -- Other blanks of the alphabet may not stand there.
  c == ' ' || c == '\t' || c == '\n' || c == '\r'

/-- The place after the gap at a place. -/
def Place.skipGap (place : Place) : Place :=
  let gap := place.rest.takeWhile isGap
  ⟨place.rest.dropWhile isGap, place.offset + gap.length⟩

/-- The place some characters further on. -/
def Place.advance (place : Place) (count : Nat) : Place :=
  ⟨place.rest.drop count, place.offset + count⟩

/-- A fault at a place. -/
def Place.fault {α : Type} (place : Place) (fault : JsonFault) : Reading α :=
  -- The offset is where the part starts that could not be read.
  .error ⟨fault, place.offset⟩

/-- The character that a one-letter escape stands for. -/
def escaped? : Char → Option Char
  | '"' => some '"'
  | '\\' => some '\\'
  | '/' => some '/'
  | 'b' => some '\x08'
  | 'f' => some '\x0c'
  | 'n' => some '\n'
  | 'r' => some '\r'
  | 't' => some '\t'
  | _ => none

/-- The sixteen-bit unit that four hexadecimal digits stand for. -/
def unit? (a b c d : Char) : Option Nat := do
  -- Letters may be in either case, but signs are no digits.
  let a ← hexValue? a
  let b ← hexValue? b
  let c ← hexValue? c
  let d ← hexValue? d
  return ((a * 16 + b) * 16 + c) * 16 + d

/-- Whether a unit opens a pair. -/
def isHighUnit (unit : Nat) : Bool :=
  0xD800 ≤ unit && unit < 0xDC00

/-- Whether a unit closes a pair. -/
def isLowUnit (unit : Nat) : Bool :=
  0xDC00 ≤ unit && unit < 0xE000

/-- The character of a unit that stands alone; half a pair is none. -/
def unitChar (unit : Nat) : Option Char :=
  -- Both kinds of halves lie in one range.
  if 0xD800 ≤ unit && unit < 0xE000 then none else some (Char.ofNat unit)

/-- The character of a pair of units. -/
def pairChar (high low : Nat) : Char :=
  -- Each half has ten bits of what lies beyond the first plane.
  Char.ofNat (0x10000 + (high - 0xD800) * 0x400 + (low - 0xDC00))

/-- The characters of a text that has been read, with nothing in the place of half a pair. -/
abbrev Units := List (Option Char)

/-- A text with the replacement character in the place of each half of a pair. -/
def shownUnits (units : Units) : String :=
  -- The number of characters stays the same.
  String.ofList (units.map fun unit => unit.getD '\ufffd')

/-- The value of a text, which is torn when it has half a pair in it. -/
def ofUnits (units : Units) : Json :=
  if units.all Option.isSome then str (shownUnits units) else torn (shownUnits units)

/-- Reads the inside of a string that was opened at `start`, with the
characters so far in reverse. -/
def readString (start : Nat) : List Char → Nat → Units → Reading Units
  -- A string that is not closed is told by where it was opened.
  | [], _, _ => .error ⟨.unterminatedString, start⟩
  | '"' :: rest, offset, done => .ok (done.reverse, ⟨rest, offset + 1⟩)
  | ['\\'], _, _ => .error ⟨.unterminatedString, start⟩
  | '\\' :: 'u' :: a :: b :: c :: d :: '\\' :: 'u' :: e :: f :: g :: h :: next :: rest,
      offset, done =>
    -- Two escapes in a row may be the halves of one character.
    match unit? a b c d with
    | none => .error ⟨.badUnicodeEscape, offset + 1⟩
    | some high =>
      if isHighUnit high then
        match unit? e f g h with
        | none => .error ⟨.badUnicodeEscape, offset + 7⟩
        | some low =>
          if isLowUnit low then
            readString start (next :: rest) (offset + 12) (some (pairChar high low) :: done)
          else
            -- The second escape is no second half, so it is read again for itself.
            readString start ('\\' :: 'u' :: e :: f :: g :: h :: next :: rest) (offset + 6)
              (unitChar high :: done)
      else
        readString start ('\\' :: 'u' :: e :: f :: g :: h :: next :: rest) (offset + 6)
          (unitChar high :: done)
  -- An escape needs another character behind it, for the string has to be closed.
  | '\\' :: 'u' :: a :: b :: c :: d :: next :: rest, offset, done =>
    match unit? a b c d with
    | none => .error ⟨.badUnicodeEscape, offset + 1⟩
    | some unit => readString start (next :: rest) (offset + 6) (unitChar unit :: done)
  | '\\' :: 'u' :: _, offset, _ => .error ⟨.badUnicodeEscape, offset + 1⟩
  | '\\' :: c :: rest, offset, done =>
    match escaped? c with
    | none => .error ⟨.badEscape, offset⟩
    | some char => readString start rest (offset + 2) (some char :: done)
  | c :: rest, offset, done =>
    if c.toNat < 0x20 then .error ⟨.controlCharacter, offset⟩
    else readString start rest (offset + 1) (some c :: done)

/-- The sign at the head of a text, if it is a minus. -/
def signPart (text : List Char) : List Char :=
  match text with
  | '-' :: _ => ['-']
  | _ => []

/-- The fraction at the head of a text: a point and at least one digit. -/
def fractionPart (text : List Char) : List Char :=
  match text with
  -- A point without digits belongs to what follows the number.
  | '.' :: tail =>
    let digits := tail.takeWhile Char.isDigit
    if digits.isEmpty then [] else '.' :: digits
  | _ => []

/-- The exponent at the head of a text: its mark, an optional sign and at least one digit. -/
def exponentPart (text : List Char) : List Char :=
  match text with
  | [] => []
  | mark :: tail =>
    -- So does a mark without digits.
    if mark == 'e' || mark == 'E' then
      let sign := match tail with
        | '+' :: _ => ['+']
        | '-' :: _ => ['-']
        | _ => []
      let digits := (tail.drop sign.length).takeWhile Char.isDigit
      if digits.isEmpty then [] else mark :: (sign ++ digits)
    else []

/-- The whole part at the head of a text: one zero, or digits that do not start with zero. -/
def wholePart (text : List Char) : List Char :=
  match text with
  -- A zero ends the whole part, so that further digits are no part of the number.
  | '0' :: _ => ['0']
  | _ => text.takeWhile Char.isDigit

/-- Reads a number: an integer unless it has a fraction or an exponent. -/
def readNumber (place : Place) : Reading Json :=
  let sign := signPart place.rest
  let unsigned := place.rest.drop sign.length
  let whole := wholePart unsigned
  -- A sign alone is no number, and nor is a word that is not known.
  if whole.isEmpty then place.fault .expectingValue
  else
    let fraction := fractionPart (unsigned.drop whole.length)
    let exponent := exponentPart (unsigned.drop (whole.length + fraction.length))
    -- The number ends where its parts end, whatever follows.
    let after := place.advance (sign.length + whole.length + fraction.length + exponent.length)
    if fraction.isEmpty && exponent.isEmpty then
      -- Only integers are limited: a double of many digits is rounded.
      if digitLimit < whole.length then place.fault (.tooManyDigits whole.length)
      else
        let magnitude := digitsValue whole
        .ok (.int (if sign.isEmpty then magnitude else -(magnitude : Int)), after)
    else
      .ok (.float ((readFloat? (sign ++ whole ++ fraction ++ exponent)).getD Binary64.nan), after)

/-- The words that are values. -/
def wordValues : List (List Char × Json) :=
  [("null".toList, null), ("true".toList, bool true), ("false".toList, bool false),
   ("NaN".toList, float Binary64.nan), ("Infinity".toList, float Binary64.infinity),
   ("-Infinity".toList, float (Binary64.ofParts true Binary64.infinityBits))]

/-- Reads a value that is neither a string nor an array nor an object. -/
def readPlain (place : Place) : Reading Json :=
  -- The words are tried before a number, as one of them starts with a minus.
  match wordValues.find? fun word => startsWith word.1 place.rest with
  | some (word, value) => .ok (value, place.advance word.length)
  | none => readNumber place

mutual

/-- Reads a value; the fuel bounds the number of values and items still to come. -/
def readValue (fuel : Nat) (place : Place) : Reading Json :=
  match fuel with
  | 0 => place.fault .expectingValue
  | fuel + 1 =>
    match place.rest with
    | '"' :: rest =>
      match readString place.offset rest (place.offset + 1) [] with
      | .error found => .error found
      | .ok (units, after) => .ok (ofUnits units, after)
    | '[' :: _ =>
      let inside := (place.advance 1).skipGap
      match inside.rest with
      -- A comma may not stand before the closing bracket.
      | ']' :: _ => .ok (arr [], inside.advance 1)
      | _ => readItems fuel inside []
    | '\x7b' :: _ =>
      let inside := (place.advance 1).skipGap
      match inside.rest with
      | '\x7d' :: _ => .ok (obj [], inside.advance 1)
      | _ => readFields fuel inside []
    | _ => readPlain place

/-- Reads the items of an array from the next one on, with the items so far in reverse. -/
def readItems (fuel : Nat) (place : Place) (done : List Json) : Reading Json :=
  match fuel with
  | 0 => place.fault .expectingValue
  | fuel + 1 =>
    match readValue fuel place with
    | .error found => .error found
    | .ok (item, after) =>
      let after := after.skipGap
      match after.rest with
      -- The gap behind an item may be of any length.
      | ']' :: _ => .ok (arr (item :: done).reverse, after.advance 1)
      | ',' :: _ => readItems fuel (after.advance 1).skipGap (item :: done)
      | _ => after.fault .expectingComma

/-- Reads the fields of an object from the next one on; of fields with one key
the last value counts. -/
def readFields (fuel : Nat) (place : Place) (done : List (String × Json)) : Reading Json :=
  match fuel with
  | 0 => place.fault .expectingValue
  | fuel + 1 =>
    match place.rest with
    | '"' :: rest =>
      match readString place.offset rest (place.offset + 1) [] with
      | .error found => .error found
      | .ok (units, after) =>
        -- A key that is torn is shown, as a field needs a text.
        let key := shownUnits units
        let after := after.skipGap
        match after.rest with
        | ':' :: _ =>
          match readValue fuel (after.advance 1).skipGap with
          | .error found => .error found
          | .ok (value, after) =>
            let after := after.skipGap
            match after.rest with
            -- A key that occurs again keeps its first place.
            | '\x7d' :: _ => .ok (obj (Assoc.put done key value), after.advance 1)
            | ',' :: _ => readFields fuel (after.advance 1).skipGap (Assoc.put done key value)
            | _ => after.fault .expectingComma
        | _ => after.fault .expectingColon
    | _ => place.fault .expectingName

end

/-- Reads a whole text as one value. -/
def readWhole (text : List Char) : Except FaultAt Json :=
  match text with
  -- The mark is told as a fault of its own, at the very start.
  | '\ufeff' :: _ => .error ⟨.byteOrderMark, 0⟩
  | _ =>
    -- Two steps, one for a value and one for the item it is, take at least one character.
    match readValue (2 * text.length + 2) (Place.skipGap ⟨text, 0⟩) with
    | .error found => .error found
    | .ok (value, after) =>
      let after := after.skipGap
      -- Behind the value nothing but a gap may follow.
      if after.rest.isEmpty then .ok value else .error ⟨.extraData, after.offset⟩

/-- The value that a text writes, with its torn texts, or its first fault. -/
def parseExact (text : String) : Except JsonError Json :=
  match readWhole text.toList with
  | .ok value => .ok value
  | .error found => .error (found.locate text.toList)

/-- The value that a text writes, with its torn texts as they are shown, or its first fault. -/
def parse (text : String) : Except JsonError Json :=
  (parseExact text).map mended

end Json

end SourceAtlas
