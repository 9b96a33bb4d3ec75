import SourceAtlas.Catalog.Dependency

/-! Summaries of files and catalogs, and symbols as lines of a prompt. -/

namespace SourceAtlas

/-- What a file declares and imports. -/
structure FileSummary where
  file : String
  symbolCount : Nat
  exports : List String
  functions : List String
  classes : List String
  components : List String
  hooks : List String
  types : List String
  dependencies : List String

/-- How much a catalog holds. -/
structure CatalogSummary where
  totalFiles : Nat
  totalSymbols : Nat
  totalReferences : Nat
  exportedSymbols : Nat
  byKind : Assoc Nat
  /-- The first files. -/
  files : List String

namespace Catalog

/-- The summary of a file. -/
def fileSummary (catalog : Catalog) (file : String) : FileSummary :=
  let symbols := catalog.inFile file
  -- The names of one or several kinds, in the order of the file.
  let names := fun (kinds : List String) =>
    (symbols.filter fun symbol => kinds.contains symbol.kind).map Symbol.name
  { file
    symbolCount := symbols.length
    exports := (symbols.filter (·.exported)).map Symbol.name
    functions := names ["function"]
    classes := names ["class"]
    components := names ["component"]
    hooks := names ["hook"]
    -- Interfaces count as types.
    types := names ["type", "interface"]
    -- References without a module are left out.
    dependencies :=
      ((catalog.dependenciesOf file).filterMap Reference.module).filter (!·.isEmpty) }

/-- The number of files that a summary lists. -/
def listedFiles : Nat := 20

/-- The summary of a catalog. -/
def summary (catalog : Catalog) : CatalogSummary where
  totalFiles := catalog.files.length
  totalSymbols := catalog.symbols.length
  totalReferences := catalog.references.length
  exportedSymbols := catalog.exported.length
  -- The kinds stand in the order in which they were first met.
  byKind := catalog.byKind.map fun (kind, symbols) => (kind, symbols.length)
  files := catalog.files.take listedFiles

end Catalog

namespace FileSummary

/-- The summary as a record. -/
def toJson (summary : FileSummary) : Json :=
  .obj [("file", .str summary.file), ("symbol_count", .int summary.symbolCount),
    ("exports", .strings summary.exports), ("functions", .strings summary.functions),
    ("classes", .strings summary.classes), ("components", .strings summary.components),
    ("hooks", .strings summary.hooks), ("types", .strings summary.types),
    ("dependencies", .strings summary.dependencies)]

end FileSummary

namespace CatalogSummary

/-- The fields of a summary. -/
def fields (summary : CatalogSummary) : Assoc Json :=
  [("total_files", .int summary.totalFiles), ("total_symbols", .int summary.totalSymbols),
    ("total_references", .int summary.totalReferences),
    ("exported_symbols", .int summary.exportedSymbols),
    ("by_kind", .obj (summary.byKind.map fun (kind, count) => (kind, .int count))),
    ("files", .strings summary.files)]

end CatalogSummary

namespace DependencyGraph

/-- The graph as a record. -/
def toJson (graph : DependencyGraph) : Json :=
  .obj [("nodes", .strings graph.nodes),
    ("edges", .arr (graph.edges.map fun edge => .obj [("source", .str edge.source),
      ("target", .str edge.target), ("type", .str edge.type)]))]

end DependencyGraph

namespace Symbol

/-- Where a symbol starts, as file and line. -/
def location (symbol : Symbol) : String :=
  symbol.file ++ ":" ++ String.ofList (Json.intChars symbol.startLine)

/-- A short record of a symbol. -/
def handle (symbol : Symbol) : Json :=
  .obj [("id", .str symbol.id), ("name", .str symbol.name), ("kind", .str symbol.kind),
    ("file", .str symbol.file), ("line", .int symbol.startLine),
    ("exported", .bool symbol.exported)]

/-- A symbol as a line of a prompt. -/
def promptLine (withFile : Bool) (symbol : Symbol) : String :=
  "- " ++ symbol.name ++ ": " ++ symbol.kind ++
    (if withFile then " (" ++ symbol.location ++ ")" else "") ++
    (if symbol.exported then " [exported]" else "")

/-- Symbols as lines of a prompt, up to a bound, with the number of those left out. -/
def promptText (symbols : List Symbol) (withFile : Bool) (bound : Int) : String :=
  -- A bound below zero leaves out some at the end.
  let lines := (takeSigned bound symbols).map (promptLine withFile)
  -- The rest is counted from the bound, also where that is below zero.
  let more := (symbols.length : Int) - bound
  joinWith "\n"
    (if more > 0 then lines ++ ["... and " ++ String.ofList (Json.intChars more) ++ " more"]
      else lines)

end Symbol

end SourceAtlas
