/-! Blank characters, and cutting texts at them. -/

namespace SourceAtlas

/-- Whether a character is blank: spaces, line and paragraph ends, and the four
information separators. -/
def isBlank (c : Char) : Bool :=
  -- The code points stand in ascending order.
  let code := c.toNat
  (9 ≤ code && code ≤ 13) || (28 ≤ code && code ≤ 32) || code == 0x85 || code == 0xA0 ||
    code == 0x1680 || (0x2000 ≤ code && code ≤ 0x200A) || code == 0x2028 || code == 0x2029 ||
    code == 0x202F || code == 0x205F || code == 0x3000

/-- A text without the leading characters that satisfy `drop`. -/
def trimStartBy (drop : Char → Bool) (text : List Char) : List Char :=
  -- What is dropped is the longest such run.
  text.dropWhile drop

/-- A text without the trailing characters that satisfy `drop`. -/
def trimEndBy (drop : Char → Bool) (text : List Char) : List Char :=
  -- The text is turned round twice.
  (text.reverse.dropWhile drop).reverse

/-- A text without the leading and trailing characters that satisfy `drop`. -/
def trimBy (drop : Char → Bool) (text : List Char) : List Char :=
  -- The order of the two makes no difference.
  trimEndBy drop (trimStartBy drop text)

/-- A text without leading and trailing blanks. -/
def trimBlanks (text : List Char) : List Char :=
  -- Blanks inside of the text are kept.
  trimBy isBlank text

/-- The maximal runs of characters that are not blank, read from the right. -/
def wordsStep (c : Char) (state : List Char × List (List Char)) : List Char × List (List Char) :=
  -- A run is closed by a blank in front of it.
  if isBlank c then
    if state.1.isEmpty then state else ([], state.1 :: state.2)
  else (c :: state.1, state.2)

/-- The maximal runs of characters that are not blank. -/
def blankWords (text : List Char) : List (List Char) :=
  -- The first run has no blank in front of it when the text starts with it.
  let (open_, closed) := text.foldr wordsStep ([], [])
  if open_.isEmpty then closed else open_ :: closed

end SourceAtlas
