import SourceAtlas.Text.Blank
import SourceAtlas.Text.Cut

/-! Parameter lists: splitting at the commas that stand outside brackets and quotes. -/

namespace SourceAtlas

/-- Whether a character opens and closes a quotation. -/
def isQuoteMark (c : Char) : Bool :=
  c == '"' || c == '\'' || c == '\x60'

/-- Whether a character opens a bracketed group. -/
def isOpener (c : Char) : Bool :=
  -- Angle brackets count as brackets, also where they compare.
  c == '(' || c == '[' || c == '\x7b' || c == '<'

/-- Whether a character closes a bracketed group. -/
def isCloser (c : Char) : Bool :=
  c == ')' || c == ']' || c == '\x7d' || c == '>'

/-- The parts of a text between its outermost commas, with the current part so far in reverse. -/
def splitCommas (depth : Nat) (quote : Option Char) (current : List Char) :
    List Char → List (List Char)
  | [] => [current.reverse]
  | c :: rest =>
    match quote with
    | some mark =>
      -- Inside a quotation only its own mark matters.
      splitCommas depth (if c == mark then none else some mark) (c :: current) rest
    | none =>
      if isQuoteMark c then splitCommas depth (some c) (c :: current) rest
      else if isOpener c then splitCommas (depth + 1) none (c :: current) rest
      -- A closing bracket that nothing has opened is a character.
      else if isCloser c && depth != 0 then splitCommas (depth - 1) none (c :: current) rest
      -- A comma inside of brackets belongs to the part.
      else if c == ',' && depth == 0 then current.reverse :: splitCommas 0 none [] rest
      else splitCommas depth none (c :: current) rest

/-- A text without the parentheses that enclose it. -/
def dropParentheses (text : List Char) : List Char :=
  -- A single character cannot be both of them.
  if 2 ≤ text.length && text.head? == some '(' && text.getLast? == some ')' then
    text.tail.dropLast
  else text

/-- The parameters of a list, trimmed, without empty ones. -/
def splitParameters (text : List Char) : List (List Char) :=
  -- Parentheses inside of blanks are taken off, and those inside of others are not.
  ((splitCommas 0 none [] (dropParentheses (trimBlanks text))).map trimBlanks).filter (· ≠ [])

/-- The text before the first mark, unless the text starts with it. -/
def cutBefore (mark : Char) (text : List Char) : List Char :=
  -- A mark at the very start belongs to the name.
  let before := beforeFirst mark text
  if before.isEmpty then text else before

/-- A parameter without its default value and its annotation. -/
def parameterName (parameter : List Char) : List Char :=
  -- The default value may hold a colon, so it is cut off first.
  trimBlanks (cutBefore ':' (cutBefore '=' parameter))

/-- A text without surrounding blanks and the quotation marks around it. -/
def unquote (text : List Char) : List Char :=
  -- Blanks inside of the quotation marks stay.
  trimBy isQuoteMark (trimBlanks text)

/-- The parameter names of a list: annotations and defaults are dropped. -/
def plainParameterNames (text : List Char) : List (List Char) :=
  ((splitParameters text).map parameterName).filter (· ≠ [])

end SourceAtlas
