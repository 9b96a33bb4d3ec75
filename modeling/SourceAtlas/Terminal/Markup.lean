import SourceAtlas.Text.Blank
import SourceAtlas.Text.Case
import SourceAtlas.Text.Cut

/-! Marked text: tags in square brackets set the style of what follows and are not shown. -/

namespace SourceAtlas.Markup

/-- A stretch of marked text: characters to be shown, or a tag. -/
inductive Piece where
  | plain (text : List Char)
  | tag (text : List Char)

/-- Whether a tag may start with a character. -/
def startsTag (c : Char) : Bool :=
  -- Capitals and digits start no tag, so that such brackets are shown.
  ('a' ≤ c && c ≤ 'z') || c == '#' || c == '/' || c == '@'

/-- The tag after an opening bracket, and what follows its closing one. -/
def tag? (text : List Char) : Option (List Char × List Char) :=
  match text with
  | [] => none
  | c :: _ =>
    -- A bracket inside of another starts over.
    let inside := text.takeWhile fun c => c != ']' && c != '['
    match text.drop inside.length with
    | ']' :: rest => if startsTag c then some (inside, rest) else none
    | _ => none

/-- A tag behind backslashes: each two of them stand for one, and one that is
left makes the tag plain. -/
def taggedPieces (slashes : Nat) (tag : List Char) : List Piece :=
  -- An escaped tag is shown with its brackets.
  .plain (List.replicate (slashes / 2) '\\') ::
    [if slashes % 2 == 1 then .plain ('[' :: tag ++ [']']) else .tag tag]

/-- Plain text where a backslash in front of a bracket is left out. -/
def unescape : List Char → List Char
  -- Other backslashes are shown.
  | '\\' :: '[' :: rest => '[' :: unescape rest
  | c :: rest => c :: unescape rest
  | [] => []

/-- The pieces of marked text, with the plain text so far in reverse. -/
def piecesFrom : Nat → List Char → List Char → List Piece
  | 0, plain, _ => [.plain plain.reverse]
  | _ + 1, plain, [] => [.plain plain.reverse]
  | fuel + 1, plain, c :: rest =>
    -- The backslashes in front of a bracket belong to the tag.
    let slashes := (c :: rest).takeWhile (· == '\\')
    match (c :: rest).drop slashes.length with
    | '[' :: after =>
      match tag? after with
      | some (tag, rest) =>
        .plain plain.reverse :: taggedPieces slashes.length tag ++ piecesFrom fuel [] rest
      | none => piecesFrom fuel (c :: plain) rest
    | _ => piecesFrom fuel (c :: plain) rest

/-- The pieces of marked text. -/
def pieces (text : List Char) : List Piece :=
  piecesFrom (text.length + 1) [] text

/-- The short names of styles. -/
def shortStyles : List (String × String) :=
  -- Every name that is not short is its own.
  [("b", "bold"), ("c", "conceal"), ("d", "dim"), ("i", "italic"), ("o", "overline"),
    ("r", "reverse"), ("s", "strike"), ("u", "underline"), ("uu", "underline2")]

/-- The name of a style in its one form. -/
def styleName (name : List Char) : String :=
  -- Names are compared without case and margins.
  let name := lower (String.ofList (trimBlanks name))
  (shortStyles.lookup name).getD name

/-- The styles that are open after a tag, the innermost first; a closing tag
must close one of them. -/
def openAfter? (styles : List String) (tag : List Char) : Option (List String) :=
  -- What follows an equals sign is a parameter.
  match beforeFirst '=' tag with
  | '/' :: name =>
    -- A closing tag without a name closes the innermost style.
    if (trimBlanks name).isEmpty then if styles.isEmpty then none else some styles.tail
    else if styles.contains (styleName name) then some (styles.erase (styleName name)) else none
  | name => some (styleName name :: styles)

/-- Whether a character is never shown. -/
def isUnshown (c : Char) : Bool :=
  -- These would move the cursor or sound a bell.
  c == '\x07' || c == '\x08' || c == '\x0b' || c == '\x0c' || c == '\r'

/-- The text that pieces show, given the styles that are open. -/
def shownFrom? : List String → List Piece → Option (List Char)
  | _, [] => some []
  -- Escapes are resolved only in what is shown.
  | styles, .plain text :: rest =>
    (shownFrom? styles rest).map (((unescape text).filter fun c => !isUnshown c) ++ ·)
  | styles, .tag tag :: rest => do
    let styles ← openAfter? styles tag
    shownFrom? styles rest

/-- The text that marked text shows; none when a closing tag closes nothing. -/
def shown? (text : String) : Option (List Char) :=
  -- No style is open in front.
  shownFrom? [] (pieces text.toList)

end SourceAtlas.Markup
