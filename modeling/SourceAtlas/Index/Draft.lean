import SourceAtlas.Hash.Sha256
import SourceAtlas.Json.Display
import SourceAtlas.Language.Basic
import SourceAtlas.Outline.Export
import SourceAtlas.Outline.Import
import SourceAtlas.Snapshot
import SourceAtlas.Structure.Match

/-! What has been found so far while files are read one after the other. -/

namespace SourceAtlas

/-- Symbols with distinct identifiers, references, and the fingerprints of
the files that were read. -/
structure Draft where
  symbols : List Symbol := []
  references : List Reference := []
  fileHashes : Assoc String := []

namespace Draft

/-- Whether an identifier is taken. -/
def has (draft : Draft) (id : String) : Bool :=
  -- Identifiers are compared as texts, across all files.
  draft.symbols.any fun symbol => symbol.id == id

/-- Adds a symbol, unless its identifier is taken. -/
def addSymbol (draft : Draft) (symbol : Symbol) : Draft :=
  -- Whoever comes first keeps the identifier.
  if draft.has symbol.id then draft else { draft with symbols := draft.symbols ++ [symbol] }

/-- Adds references. -/
def addReferences (draft : Draft) (references : List Reference) : Draft :=
  -- References may occur more than once.
  { draft with references := draft.references ++ references }

/-- Records the fingerprint of a file. -/
def addHash (draft : Draft) (file hash : String) : Draft :=
  -- A file that is read twice keeps its place, with the later fingerprint.
  { draft with fileHashes := draft.fileHashes.put file hash }

end Draft

/-- The symbol of a declaration line; a line that mentions exports counts as exported. -/
def DeclarationLine.toSymbol (found : DeclarationLine) (file : String)
    (language : Option Language) : Symbol :=
  { id := Symbol.makeId file found.name
    name := found.name
    -- The language may know better what a name stands for.
    kind := match language with
      | some language => language.inferKind found.name found.kind
      | none => found.kind
    file
    -- A line shows where a declaration starts, but not where it ends.
    startLine := found.line
    endLine := found.line
    -- The mark may stand anywhere in the line, also inside of a word.
    exported := hasPart "export" found.text
    contentHash := some (fingerprint found.text) }

/-- The reference of an import line. -/
def ImportLine.toReference (found : ImportLine) (file : String) : Reference :=
  { type := found.type, file, line := found.line, module := some found.module }

/-- Adds what the lines of a file show; the first declaration of a name counts. -/
def Draft.addLines (draft : Draft) (file content : String) (language : Option Language) : Draft :=
  -- Symbols come first, in the order of the lines, and references after them.
  let declared := (declarationsIn content).foldl
    (fun draft found => draft.addSymbol (found.toSymbol file language)) draft
  declared.addReferences ((importsIn content).map fun found => found.toReference file)

/-- The fields that extractors may not set. -/
def coreSymbolFields : List String :=
  ["id", "file", "kind", "start_line", "end_line", "exported", "exports", "content_hash"]

/-- The reference fields that extractors may not set. -/
def coreReferenceFields : List String :=
  ["type", "file", "line"]

namespace SymbolPattern

/-- The fields that a match gives: those of the extractor, or a name cut from
the text when it fails. -/
def fieldsOf (pattern : SymbolPattern) (found : StructuralMatch) : Assoc Json :=
  match pattern.extract with
  -- Without an extractor a match has no fields, and so no name of its own.
  | none => []
  | some extract =>
    match extract found with
    | .ok fields => fields
    -- The match is kept, and its text stands for the name.
    | .error _ => [("name", .str (takeChars 50 found.spanText))]

/-- Whether a match lies where the pattern wants it. -/
def applies (pattern : SymbolPattern) (found : StructuralMatch) : Bool :=
  match pattern.context with
  | none => true
  -- An empty type asks for nothing.
  | some "" => true
  -- The node may lie at any depth inside of one of that type.
  | some type => found.within type

/-- The name of a match: what the extractor gives, or the identifier of the pattern. -/
def nameOf (pattern : SymbolPattern) (fields : Assoc Json) : Json :=
  match fields.get? "name" with
  -- An empty name counts as none.
  | some name => if name.truthy then name else .str pattern.id
  | none => .str pattern.id

/-- The symbol of a match with a name. -/
def symbolOf (pattern : SymbolPattern) (language : Language) (file content : String)
    (found : StructuralMatch) (name : String) (fields : Assoc Json) : Symbol :=
  { id := Symbol.makeId file name
    name
    kind := language.inferKind name pattern.kind
    file
    startLine := found.startLine
    -- A match is never taken to end before it starts.
    endLine := max found.endLine found.startLine
    -- Unlike in a line, the whole text is searched for an export of the name.
    exported := isExported name content
    contentHash := some (fingerprint found.spanText)
    -- The extractor may add fields, but not set those that the index fills in itself.
    extras := fields.filter fun entry => entry.1 != "name" && !coreSymbolFields.contains entry.1 }

/-- Adds the symbol of one match; none when the name is no text, which ends the pattern. -/
def add? (pattern : SymbolPattern) (language : Language) (file content : String) (draft : Draft)
    (found : StructuralMatch) : Option Draft :=
  -- A match in the wrong place is passed over.
  if !pattern.applies found then some draft
  else
    let fields := pattern.fieldsOf found
    let name := pattern.nameOf fields
    -- A name that is no text may still be shown as one, and an identifier that is taken is passed
    -- over.
    if !name.truthy || draft.has (Symbol.makeId file name.display) then some draft
    else
      match name with
      | .str name =>
        some (draft.addSymbol (pattern.symbolOf language file content found name fields))
      -- Only now does the name turn out to be no text.
      | _ => none

end SymbolPattern

namespace ReferencePattern

/-- Adds the reference of one match; a failing extractor drops the match, and
none ends the pattern. -/
def add? (pattern : ReferencePattern) (file : String) (draft : Draft) (found : StructuralMatch) :
    Option Draft :=
  -- Without an extractor a match is a reference with no details.
  let extracted : Except ExtractFault (Assoc Json) := match pattern.extract with
    | none => .ok []
    | some extract => extract found
  match extracted with
  -- The match is dropped, and the pattern goes on.
  | .error _ => some draft
  | .ok fields =>
    -- As with symbols, what the index fills in itself is not taken from the extractor.
    let details := fields.filter fun entry => !coreReferenceFields.contains entry.1
    -- Details of the wrong type end the pattern.
    (Reference.readDetails pattern.id file found.startLine details).value?.map fun reference =>
      draft.addReferences [reference]

end ReferencePattern

/-- Takes matches in order until one of them ends the pattern. -/
def takeMatches (add? : Draft → StructuralMatch → Option Draft) :
    Draft → List StructuralMatch → Draft
  | draft, [] => draft
  | draft, found :: rest =>
    match add? draft found with
    -- What one match adds is known to the next one.
    | some next => takeMatches add? next rest
    | none => draft

/-- The matches of a query with the capture that spans them; a failing query has none. -/
def SyntaxTree.spanned (tree : SyntaxTree) (query span : String) : List StructuralMatch :=
  -- The same query may span its matches by different captures.
  match tree.matchesOf query with
  | .ok found => found.map fun captures => ⟨captures, span⟩
  | .error _ => []

/-- Adds the symbols of a tree, pattern by pattern. -/
def Draft.addTreeSymbols (draft : Draft) (tree : SyntaxTree) (language : Language)
    (file content : String) : Draft :=
  -- Patterns come in order of priority, so an earlier one keeps the identifier.
  language.symbolPatterns.foldl
    (fun draft pattern =>
      takeMatches (pattern.add? language file content) draft (tree.spanned pattern.query "def"))
    draft

/-- Adds the references of a tree, pattern by pattern. -/
def Draft.addTreeReferences (draft : Draft) (tree : SyntaxTree) (patterns : List ReferencePattern)
    (file : String) : Draft :=
  -- References are not told apart, so each pattern adds all of its own.
  patterns.foldl
    (fun draft pattern => takeMatches (pattern.add? file) draft (tree.spanned pattern.query "ref"))
    draft

/-- Adds what a tree shows; where the reference patterns cannot be had, the
lines are read as well. -/
def Draft.addTree (draft : Draft) (tree : SyntaxTree) (language : Language)
    (file content : String) : Draft :=
  -- The symbols stay, whatever becomes of the references.
  let named := draft.addTreeSymbols tree language file content
  match language.referencePatterns with
  | .ok patterns => named.addTreeReferences tree patterns file
  -- Lines may declare more symbols, whose identifiers are still free.
  | .error _ => named.addLines file content (some language)

end SourceAtlas
