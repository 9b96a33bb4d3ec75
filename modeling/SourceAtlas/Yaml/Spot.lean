/-! Positions in a YAML text, and the characters at which its pieces end. -/

namespace SourceAtlas.Yaml

/-- Why a YAML text has no value. -/
inductive Fault where
  /-- The text breaks the rules of the format. -/
  | malformed
  /-- An escape names a code point beyond the last one. -/
  | codePoint (code : Nat)
  /-- A value marked as a boolean is no word for one. -/
  | unknownBoolean
  /-- A value marked as a number has no digits to read. -/
  | unreadableNumber
  /-- A value marked as a number is empty. -/
  | emptyNumber
  /-- A value marked as a moment is not written as one. -/
  | unreadableMoment
  /-- A moment is not in the calendar. -/
  | noSuchMoment
  deriving DecidableEq, Repr

/-- A result of reading. -/
abbrev Outcome (α : Type) := Except Fault α

/-- Whether a character ends a line. -/
def isBreak (c : Char) : Bool :=
  -- Files of this form have more line ends than texts have elsewhere.
  c == '\n' || c == '\r' || c == '\x85' || c == '\u2028' || c == '\u2029'

/-- Whether the end or a line end stands here. -/
def endsLine : Option Char → Bool
  -- The end of the text ends its last line.
  | none => true
  | some c => isBreak c

/-- Whether the end, a line end or a space stands here. -/
def endsField : Option Char → Bool
  -- A tab does not separate fields.
  | none => true
  | some c => c == ' ' || isBreak c

/-- Whether the end, a line end, a space or a tab stands here. -/
def endsWord : Option Char → Bool
  -- Words end at every blank.
  | none => true
  | some c => c == ' ' || c == '\t' || isBreak c

/-- A position: the text after it, and how far it is from the start of the text and of its line. -/
structure Spot where
  rest : List Char
  index : Nat := 0
  line : Nat := 0
  column : Nat := 0

namespace Spot

/-- The character here. -/
def here (spot : Spot) : Option Char :=
  -- At the end there is no character.
  spot.rest.head?

/-- The character some places ahead. -/
def ahead (spot : Spot) (count : Nat) : Option Char :=
  -- No position is changed by looking ahead.
  spot.rest[count]?

/-- The position after one character; a byte order mark takes no column. -/
def next (spot : Spot) : Spot :=
  -- The index counts characters, and the column those of the line.
  match spot.rest with
  | [] => spot
  | c :: rest =>
    if isBreak c then ⟨rest, spot.index + 1, spot.line + 1, 0⟩
    else ⟨rest, spot.index + 1, spot.line, if c == '\ufeff' then spot.column else spot.column + 1⟩

/-- The position after some characters. -/
def skip : Nat → Spot → Spot
  -- The line and the column are followed one character at a time.
  | 0, spot => spot
  | count + 1, spot => skip count spot.next

/-- The run of characters here that satisfy a test. -/
def run (spot : Spot) (test : Char → Bool) : List Char :=
  -- The run may be empty.
  spot.rest.takeWhile test

/-- The position after the run of characters that satisfy a test. -/
def skipRun (spot : Spot) (test : Char → Bool) : Spot :=
  -- The run is passed as a whole.
  spot.skip (spot.run test).length

/-- The position after spaces. -/
def skipSpaces (spot : Spot) : Spot :=
  -- Tabs are no spaces here.
  spot.skipRun (· == ' ')

/-- The position after spaces and a comment. -/
def skipComment (spot : Spot) : Spot :=
  -- A comment reaches to the end of its line.
  let spot := spot.skipSpaces
  if spot.here == some '#' then spot.skipRun fun c => !isBreak c else spot

/-- The line end here as it is kept in values, and the position after it. -/
def lineBreak (spot : Spot) : List Char × Spot :=
  -- Two of the line ends are kept as they are, and the others become line feeds.
  match spot.here with
  | some c =>
    if c == '\u2028' || c == '\u2029' then ([c], spot.next)
    else if isBreak c then (['\n'], spot.next)
    else ([], spot)
  | none => ([], spot)

/-- Whether three marks and the end of a word stand here. -/
def hasMarks (spot : Spot) (mark : Char) : Bool :=
  -- Marks that are followed by a letter are plain text.
  spot.rest.take 3 == [mark, mark, mark] && endsWord (spot.ahead 3)

/-- Whether a document separator stands here. -/
def atSeparator (spot : Spot) : Bool :=
  -- Both kinds of marks end a document.
  spot.hasMarks '-' || spot.hasMarks '.'

/-- The position after a comment and its line end; nothing else may stand in the line. -/
def finishLine (spot : Spot) : Outcome Spot :=
  -- The line end itself may be missing at the end of the text.
  let spot := spot.skipComment
  if endsLine spot.here then .ok spot.lineBreak.2 else .error .malformed

end Spot

end SourceAtlas.Yaml
