import SourceAtlas.Text.Blank
import SourceAtlas.Text.Word

/-! Positions in a text, and tests for what stands at and after them. -/

namespace SourceAtlas

/-- A position in a text: the character before it, if any, and the characters after it. -/
structure Cursor where
  before : Option Char
  rest : List Char

namespace Cursor

/-- The position in front of a text. -/
def start (text : List Char) : Cursor :=
  -- In front of a text there is no character.
  ⟨none, text⟩

/-- Whether exactly one of the two neighbours is a word character. -/
def atWordEdge (cursor : Cursor) : Bool :=
  -- At either end of a text the neighbour is no word character.
  isWordEdge cursor.before != isWordEdge cursor.rest.head?

/-- The position after a literal text, if it stands here. -/
def skip? : List Char → Cursor → Option Cursor
  -- The last character that was passed is remembered for edges.
  | [], cursor => some cursor
  | _ :: _, ⟨_, []⟩ => none
  | c :: word, ⟨_, d :: rest⟩ => if c == d then skip? word ⟨some d, rest⟩ else none

/-- A test of a position. -/
abbrev Test := Cursor → Bool

/-- A literal text stands here, and the test holds after it. -/
def literal (word : List Char) (next : Test) : Test := fun cursor =>
  -- A literal has one way to match.
  match cursor.skip? word with
  | some after => next after
  | none => false

/-- The test holds after some number of characters that satisfy `pass`. -/
def passing (pass : Char → Bool) (next : Test) : Option Char → List Char → Bool
  -- Fewer characters are tried first; for a test that makes no difference.
  | before, [] => next ⟨before, []⟩
  | before, c :: rest => next ⟨before, c :: rest⟩ || (pass c && passing pass next (some c) rest)

/-- The test holds here or after characters that satisfy `pass`. -/
def many (pass : Char → Bool) (next : Test) : Test := fun cursor =>
  -- No character need be passed.
  passing pass next cursor.before cursor.rest

/-- The test holds after one or more characters that satisfy `pass`. -/
def some_ (pass : Char → Bool) (next : Test) : Test := fun cursor =>
  -- The first character must be passed.
  match cursor.rest with
  | [] => false
  | c :: rest => pass c && passing pass next (some c) rest

/-- The position is an edge of a word, and the test holds there. -/
def edge (next : Test) : Test := fun cursor =>
  -- An edge takes no text.
  cursor.atWordEdge && next cursor

/-- Nothing more is asked. -/
def done : Test := fun _ => true

/-- The test holds at some position of a text. -/
def holdsIn (test : Test) (text : List Char) : Bool :=
  -- Every character may be passed over.
  passing (fun _ => true) test none text

end Cursor

end SourceAtlas
