import SourceAtlas.Text.Cursor

/-! Whether a text exports a name, by the forms in which exports are written. -/

namespace SourceAtlas

open Cursor

/-- Whether a character may stand in a braced list. -/
def isListChar (c : Char) : Bool :=
  -- The list ends at the first closing brace.
  c != '\x7d'

/-- One of the keywords that declare a name. -/
def declarator (next : Test) : Test := fun cursor =>
  -- An asynchronous function is the one form with two words.
  ["const", "let", "var", "function", "class"].any (fun keyword =>
    literal keyword.toList next cursor) ||
  (literal "async".toList <| some_ isBlank <| literal "function".toList next) cursor

/-- The form `export const name`. -/
def exportsDeclared (name : List Char) : Test :=
  -- The name must end where a word ends.
  literal "export".toList <| some_ isBlank <| declarator <| some_ isBlank <|
    literal name <| edge done

/-- The form `export` with the name in a braced list that is closed. -/
def exportsListed (name : List Char) : Test :=
  -- The name may stand anywhere in the list, as a word of its own.
  literal "export".toList <| many isBlank <| literal ['\x7b'] <| many isListChar <|
    edge <| literal name <| edge <| many isListChar <| literal ['\x7d'] done

/-- The form `export default name`. -/
def exportsDefault (name : List Char) : Test :=
  -- The name follows right behind the word.
  literal "export".toList <| some_ isBlank <| literal "default".toList <| some_ isBlank <|
    literal name <| edge done

/-- The form `module.exports =` with the name in a braced list. -/
def exportsObject (name : List Char) : Test :=
  -- Here the list need not be closed.
  literal "module.exports".toList <| many isBlank <| literal ['='] <| many isBlank <|
    literal ['\x7b'] <| many isListChar <| edge <| literal name <| edge done

/-- The form `module.exports.name =`. -/
def exportsMember (name : List Char) : Test :=
  -- No edge of a word is asked for in front of the equals sign.
  literal "module.exports.".toList <| literal name <| many isBlank <| literal ['='] done

/-- The form `exports.name =`. -/
def exportsShort (name : List Char) : Test :=
  -- This form is also found inside of the one above.
  literal "exports.".toList <| literal name <| many isBlank <| literal ['='] done

/-- The export forms for a name. -/
def exportForms (name : List Char) : List Test :=
  [exportsDeclared name, exportsListed name, exportsDefault name, exportsObject name,
    exportsMember name, exportsShort name]

/-- Whether a text exports a name in one of the forms. -/
def isExported (name text : String) : Bool :=
  -- One form somewhere in the text is enough.
  (exportForms name.toList).any fun form => holdsIn form text.toList

end SourceAtlas
