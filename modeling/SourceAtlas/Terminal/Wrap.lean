import SourceAtlas.Text.Blank
import SourceAtlas.Text.Cells
import SourceAtlas.Text.Cut

/-! Text in lines of a given width. -/

namespace SourceAtlas.Wrap

/-- What becomes of a word that is wider than a line. -/
inductive Overflow where
  | fold
  | ellipsis
  deriving DecidableEq

/-- To which side lines are moved. -/
inductive Justify where
  /-- Lines stay as they are. -/
  | plain
  | left
  | center
  | right
  deriving DecidableEq

/-- The next word with the blanks around it, and the rest; none when only blanks are left. -/
def word? (text : List Char) : Option (List Char × List Char) :=
  -- Blanks behind a word belong to it.
  let gap := text.takeWhile isBlank
  let rest := text.drop gap.length
  let letters := rest.takeWhile fun c => !isBlank c
  let rest := rest.drop letters.length
  let after := rest.takeWhile isBlank
  if letters.isEmpty then none else some (gap ++ letters ++ after, rest.drop after.length)

/-- The words of a text, each with the blanks after it, and the first with those in front. -/
def wordsFrom : Nat → List Char → List (List Char)
  | 0, _ => []
  | fuel + 1, text =>
    -- Each word takes a character, so the length bounds the number of words.
    match word? text with
    | none => []
    | some (word, rest) => word :: wordsFrom fuel rest

/-- A word cut so that each part fits a width. -/
def chop (width : Nat) : List Char → List Char → Nat → List (List Char)
  | [], part, _ => [part.reverse]
  | c :: rest, part, taken =>
    -- A wide character that does not fit goes to the next part.
    if taken + charCells c > width then part.reverse :: chop width rest [c] (charCells c)
    else chop width rest (c :: part) (taken + charCells c)

/-- The places where parts start, the first at a place. -/
def partPlaces : Nat → List (List Char) → List Nat
  | _, [] => []
  -- The parts follow each other without gaps.
  | place, part :: parts => place :: partPlaces (place + part.length) parts

/-- The places where a line is broken: the words so far end at a place and have taken some
cells of the last line. -/
def breaks (width : Nat) (overflow : Overflow) : Nat → Nat → List (List Char) → List Nat
  | _, _, [] => []
  | start, taken, word :: words =>
    -- Blanks at the end of a word need not fit.
    let length := cells (trimEndBy isBlank word)
    let next := start + word.length
    let mark := if start == 0 then [] else [start]
    if taken + length ≤ width then breaks width overflow next (taken + cells word) words
    -- A word that is too wide for any line is cut, or left for the ellipsis.
    else if length > width then
      if overflow = .fold then
        let parts := chop width word [] 0
        (partPlaces start parts).filter (· != 0) ++ breaks width overflow next
          (cells (parts.getLast?.getD [])) words
      else mark ++ breaks width overflow next (cells word) words
    -- A line is only broken behind another word.
    else if taken != 0 && start != 0 then start :: breaks width overflow next (cells word) words
    else breaks width overflow next taken words

/-- A text cut at rising places, seen from its start at a place. -/
def cutAtPlaces : Nat → List Nat → List Char → List (List Char)
  | _, [], text => [text]
  | start, place :: places, text =>
    -- The places are counted from the start of the text.
    text.take (place - start) :: cutAtPlaces place places (text.drop (place - start))

/-- A line without the blanks at its end that go beyond a number of characters. -/
def dropExcess (size : Nat) (line : List Char) : List Char :=
  -- At most as many blanks are dropped as there are.
  let blanks := line.length - (trimEndBy isBlank line).length
  line.take (line.length - min blanks (line.length - size))

/-- The characters that fit a number of cells; half a wide one is a space. -/
def fit : Nat → List Char → List Char
  | _, [] => []
  | total, c :: rest =>
    -- The next character may be too wide for the cell that is left.
    if charCells c ≤ total then c :: fit (total - charCells c) rest
    else List.replicate total ' '

/-- A line that is too wide, shortened. -/
def truncate (width : Nat) (overflow : Overflow) (line : List Char) : List Char :=
  -- The ellipsis takes one cell.
  if cells line > width then
    if overflow = .ellipsis then fit (width - 1) line ++ ['…'] else fit width line
  else line

/-- A line with blanks after it up to a width. -/
def padEnd (width : Nat) (line : List Char) : List Char :=
  -- A line that is wide enough stays.
  line ++ List.replicate (width - cells line) ' '

/-- A line moved to a side. -/
def justify (width : Nat) (overflow : Overflow) (side : Justify) (line : List Char) : List Char :=
  -- Blanks at the end count for the left side, but not for the others.
  let line := dropExcess width line
  let short := truncate width overflow (trimEndBy isBlank line)
  match side with
  | .plain => truncate width overflow line
  | .left => padEnd width (truncate width overflow line)
  | .center => padEnd width (List.replicate ((width - cells short) / 2) ' ' ++ short)
  | .right => List.replicate (width - cells short) ' ' ++ short

/-- A text in lines of a width. -/
def lines (width : Nat) (overflow : Overflow) (side : Justify) (text : List Char) :
    List (List Char) :=
  -- Line ends of the text itself are kept.
  (splitAtChar '\n' text).flatMap fun line =>
    let places := breaks width overflow 0 0 (wordsFrom (line.length + 1) line)
    (cutAtPlaces 0 places line).map (justify width overflow side)

end SourceAtlas.Wrap
