import SourceAtlas.Outline.Declaration
import SourceAtlas.Text.Cursor

/-! Imports recognised in single lines, for files without a syntax tree. -/

namespace SourceAtlas

/-- Whether a character opens or closes a quoted module name. -/
def isQuote (c : Char) : Bool :=
  -- The two kinds of quotes are not told apart.
  c == '\'' || c == '"'

/-- Whether a character may stand in a dotted module name. -/
def isModuleChar (c : Char) : Bool :=
  -- Relative modules start with dots.
  isWordChar c || c == '.'

/-- Whether a character may stand in the clause that lists what is imported. -/
def isClauseChar (c : Char) : Bool :=
  -- Blanks and commas separate the names, and a star stands for all of them.
  isWordChar c || isBlank c || c == '*' || c == '\x7b' || c == '\x7d' || c == '$' || c == ','

/-- A quoted module name at the head of a text, and what follows; either quote closes either. -/
def quotedModule? : List Char → Option (List Char × List Char)
  | [] => none
  | c :: rest =>
    -- A name has at least one character.
    if isQuote c then
      match cutAt? isQuote rest with
      | some (c :: name, after) => some (c :: name, after)
      | _ => none
    else none

/-- The module of a call such as `require("m")` at the head of a text, and what follows the call. -/
def quotedCall? (callee : String) (text : List Char) : Option (List Char × List Char) := do
  -- Blanks may stand on either side of the brackets and of the quotes.
  let opened ← dropStart? callee.toList text
  let argument ← dropStart? ['('] (opened.dropWhile isBlank)
  let (name, closing) ← quotedModule? (argument.dropWhile isBlank)
  let after ← dropStart? [')'] (closing.dropWhile isBlank)
  return (name, after)

/-- The modules of the calls in a text that do not overlap, after `skip`
characters are passed over. -/
def callModules (callee : String) : Option Char → Nat → List Char → List (List Char)
  | _, _, [] => []
  | _, skip + 1, c :: rest => callModules callee (some c) skip rest
  | before, 0, c :: rest =>
    -- The name that is called must start where a word starts.
    match if isWordEdge before then none else quotedCall? callee (c :: rest) with
    | some (name, after) => name :: callModules callee (some c) (rest.length - after.length) rest
    | none => callModules callee (some c) 0 rest

/-- Whether a text between an import keyword and a module name is blank or a
clause that ends in `from`. -/
def isImportHead (head : List Char) : Bool :=
  -- The word in front of the module is read backwards.
  let clause := head.reverse.dropWhile isBlank
  if head.isEmpty then false
  else if clause.isEmpty then true
  else head.getLast?.any isBlank &&
    match dropStart? "morf".toList clause with
    | some clause =>
      -- A blank on either side of a non-empty clause, which may itself be blank.
      clause.length ≥ 3 && clause.head?.any isBlank && clause.getLast?.any isBlank &&
        clause.all isClauseChar
    | none => false

/-- The module of a line that imports a quoted name. -/
def quotedImport? (line : List Char) : Option (List Char) := do
  -- Everything up to the first quote is the clause.
  let rest ← dropStart? "import".toList (line.dropWhile isBlank)
  let head := rest.takeWhile fun c => !isQuote c
  let (name, _) ← quotedModule? (rest.dropWhile fun c => !isQuote c)
  if isImportHead head then some name else none

/-- Whether what follows a dotted name ends the statement or starts another name or a comment. -/
def endsImport (text : List Char) : Bool :=
  -- What follows a comma or the mark of a comment is not looked at.
  match text.dropWhile isBlank with
  | [] => true
  | c :: _ => c == ',' || c == '#'

/-- Whether a text is blanks, a new name, and the end of an import. -/
def namesAlias (text : List Char) : Bool :=
  match text with
  | [] => false
  | c :: _ =>
    -- The new name is one word behind at least one blank.
    let name := text.dropWhile isBlank
    isBlank c && !(name.takeWhile isWordChar).isEmpty && endsImport (name.dropWhile isWordChar)

/-- Whether what follows a dotted name ends an import, with or without a new name. -/
def closesImport (text : List Char) : Bool :=
  -- A new name is announced by a word of its own.
  endsImport text ||
    match dropStart? ['a', 's'] (text.dropWhile isBlank) with
    | some rest => namesAlias rest
    | none => false

/-- Whether a text has the word `from`, blanks and a quote somewhere. -/
def importsQuoted (text : List Char) : Bool :=
  -- A line of this form imports a quoted module instead.
  Cursor.holdsIn
    (Cursor.edge <| Cursor.literal "from".toList <| Cursor.some_ isBlank fun cursor =>
      cursor.rest.head?.any isQuote)
    text

/-- The module of a line that imports a dotted name. -/
def dottedImport? (line : List Char) : Option (List Char) := do
  -- The keyword must lead the line, with no blank in front of it.
  let rest ← afterKeyword? "import" line
  let name := rest.takeWhile isModuleChar
  let after := rest.dropWhile isModuleChar
  if name.isEmpty || importsQuoted rest then none
  else if closesImport after then some name
  else
    -- The two letters that announce a new name may end the run of the name itself.
    let shorter := name.dropLast.dropLast
    if endsWith ['a', 's'] name && !shorter.isEmpty && namesAlias after then some shorter else none

/-- The module of a line that imports names from a dotted name. -/
def fromImport? (line : List Char) : Option (List Char) := do
  -- As above, the keyword must lead the line.
  let rest ← afterKeyword? "from" line
  let name := rest.takeWhile isModuleChar
  let after := rest.dropWhile isModuleChar
  let next ← dropStart? "import".toList (after.dropWhile isBlank)
  if name.isEmpty || !after.head?.any isBlank || isWordEdge next.head? then none else some name

/-- An import found in a line: line number from one, type of reference and module. -/
structure ImportLine where
  line : Nat
  type : String
  module : String

/-- The imports of one line, by type and then from left to right. -/
def importsInLine (line : Nat) (text : List Char) : List ImportLine :=
  -- A line can be an import of several types.
  let found := fun (type : String) (modules : List (List Char)) =>
    modules.map fun name => (⟨line, type, String.ofList name⟩ : ImportLine)
  found "require" (callModules "require" none 0 text) ++
    found "importDeclaration" (quotedImport? text).toList ++
    found "dynamicImport" (callModules "import" none 0 text) ++
    found "importStatement" (dottedImport? text).toList ++
    found "fromImport" (fromImport? text).toList

/-- The imports of a text, line by line. -/
def importsIn (text : String) : List ImportLine :=
  -- Lines are counted from one.
  ((textLines text.toList).zipIdx 1).flatMap fun (line, number) => importsInLine number line

end SourceAtlas
