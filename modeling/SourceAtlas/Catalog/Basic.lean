import SourceAtlas.Pattern.Search
import SourceAtlas.Snapshot
import SourceAtlas.Text.Case
import SourceAtlas.Text.Cut

/-! Catalogs: a snapshot arranged for looking symbols up. -/

namespace SourceAtlas

/-- The symbols of a snapshot by identifier, file, kind and name, with its references. -/
structure Catalog where
  /-- The last symbol with an identifier stands at the place of the first one. -/
  symbols : Assoc Symbol := []
  byFile : Assoc (List Symbol) := []
  byKind : Assoc (List Symbol) := []
  byName : Assoc (List Symbol) := []
  references : List Reference := []

namespace Catalog

/-- The catalog with one more symbol. -/
def add (catalog : Catalog) (symbol : Symbol) : Catalog :=
  { catalog with
    -- A symbol with a known identifier replaces the other there, but is listed beside it elsewhere.
    symbols := catalog.symbols.put symbol.id symbol
    byFile := catalog.byFile.push symbol.file symbol
    byKind := catalog.byKind.push symbol.kind symbol
    byName := catalog.byName.push symbol.name symbol }

/-- The catalog of a snapshot. -/
def ofSnapshot (snapshot : Snapshot) : Catalog :=
  -- The symbols are added in the order of the snapshot.
  snapshot.symbols.foldl add { references := snapshot.references }

/-- Takes a value as the new snapshot; one that is no snapshot leaves the catalog as it is. -/
def load (catalog : Catalog) (value : Json) : Except (List FieldError) Unit × Catalog :=
  -- Null stands for a snapshot without anything in it.
  match Snapshot.coerce value with
  | .good snapshot => (.ok (), ofSnapshot snapshot)
  | .bad errors => (.error errors, catalog)

/-- The symbol with an identifier. -/
def find? (catalog : Catalog) (id : String) : Option Symbol :=
  catalog.symbols.get? id

/-- All symbols in order. -/
def all (catalog : Catalog) : List Symbol :=
  catalog.symbols.values

/-- The files that have symbols, in order. -/
def files (catalog : Catalog) : List String :=
  catalog.byFile.keys

/-- The symbols with exactly a name. -/
def named (catalog : Catalog) (name : String) : List Symbol :=
  (catalog.byName.get? name).getD []

/-- The symbols whose name contains a text, those of one name together. -/
def namedLike (catalog : Catalog) (part : String) (caseSensitive : Bool) : List Symbol :=
  -- The case of both is given up, or of neither.
  let view := fun (text : String) => if caseSensitive then text else lower text
  catalog.byName.flatMap fun (name, symbols) =>
    if hasPart (view part) (view name) then symbols else []

/-- The symbols of a kind. -/
def ofKind (catalog : Catalog) (kind : String) : List Symbol :=
  (catalog.byKind.get? kind).getD []

/-- A path with slashes between its parts. -/
def slashed (path : String) : String :=
  -- Paths are stored with slashes only.
  replaceChar '\\' '/' path

/-- The symbols that a file declares. -/
def inFile (catalog : Catalog) (file : String) : List Symbol :=
  -- What is asked for may be written with backslashes.
  (catalog.byFile.get? (slashed file)).getD []

/-- The symbols that are exported. -/
def exported (catalog : Catalog) : List Symbol :=
  catalog.all.filter (·.exported)

end Catalog

/-- What a search asks for; an empty text asks for nothing. -/
structure Filter where
  /-- A part of the name in any case. -/
  name : String := ""
  kind : String := ""
  /-- A part of the file's path. -/
  file : String := ""
  exported : Option Bool := none
  /-- A pattern that the name or the file's path must contain. -/
  pattern : String := ""

namespace Filter

/-- Whether a text is asked for and fails a test. -/
def allows (wanted : String) (test : Bool) : Bool :=
  -- An empty text allows everything.
  wanted.isEmpty || test

/-- Whether a symbol passes all that is asked for but the pattern. -/
def accepts (filter : Filter) (symbol : Symbol) : Bool :=
  -- Names are compared in lower case, and all else as it is written.
  allows filter.name (hasPart (lower filter.name) (lower symbol.name)) &&
    allows filter.kind (symbol.kind == filter.kind) &&
    allows filter.file (hasPart filter.file symbol.file) &&
    filter.exported.all (· == symbol.exported)

end Filter

/-- The symbols that pass a filter, in order; the pattern may be none. -/
def Catalog.search (catalog : Catalog) (filter : Filter) : Except Pattern.Fault (List Symbol) := do
  let found := catalog.all.filter filter.accepts
  -- A pattern is only looked at where one is given.
  if filter.pattern.isEmpty then return found
  let expression ← Pattern.Expression.parse filter.pattern
  -- Either of the two may hold the pattern.
  return found.filter fun symbol => expression.finds symbol.name || expression.finds symbol.file

end SourceAtlas
