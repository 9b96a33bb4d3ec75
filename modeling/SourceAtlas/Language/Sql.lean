import SourceAtlas.Language.Conventions

/-! Created tables, views and functions, and the tables that queries read. -/

namespace SourceAtlas.Language.Sql

/-- The declarations, in order of priority. -/
def symbols : List SymbolPattern :=
  -- A name with a schema in front counts without it.
  [⟨"createTable",
    "(create_table (object_reference name: (identifier) @name)) @def",
    "table", some named, none⟩,
   ⟨"createView",
    "(create_view (object_reference name: (identifier) @name)) @def",
    "view", some named, none⟩,
   ⟨"createFunction",
    "(create_function (object_reference name: (identifier) @name)) @def",
    "function", some named, none⟩]

/-- The imports and calls. -/
def references : List ReferencePattern :=
  [⟨"tableReference",
    "(relation (object_reference name: (identifier) @module)) @ref",
    some moduleUnquoted⟩]

end SourceAtlas.Language.Sql

namespace SourceAtlas.Language

/-- SQL. -/
def sql : Language where
  identity :=
    { name := "sql"
      displayName := "SQL"
      extensions := [".sql", ".psql", ".pgsql", ".plsql", ".mysql"]
      defaultGrammar := some "sql" }
  symbolPatterns := Sql.symbols
  referencePatterns := .ok Sql.references
  parameterNames := plainNames
  inferKind := asGiven

end SourceAtlas.Language
