import SourceAtlas.Language.Conventions

/-! Elixir modules, functions and module directives. -/

namespace SourceAtlas.Language.Elixir

/-- A function and whether it is private. -/
def function : Extractor :=
  withFields (namedWithParameters plainNames) fun found =>
    -- The keyword that declares it tells.
    [("private", .bool (found.text "keyword" == "defp"))]

/-- A directive that names a module. -/
def directive (id keyword : String) : ReferencePattern :=
  -- All directives have the form of a call, and differ by the keyword.
  ⟨id,
    "(call target: (identifier) @keyword (arguments (alias) @module) (#eq? @keyword \"" ++
      keyword ++ "\")) @ref",
    some moduleUnquoted⟩

/-- The declarations, in order of priority. -/
def symbols : List SymbolPattern :=
  [⟨"moduleDefinition",
    "(call target: (identifier) @keyword (arguments (alias) @name) (#eq? @keyword " ++
      "\"defmodule\")) @def",
    "module", some named, none⟩,
   -- A function without parameters may be declared without parentheses.
   ⟨"functionDefinition",
    "(call target: (identifier) @keyword (arguments (call target: (identifier) @name " ++
      "(arguments)? @params)) (#match? @keyword \"^defp?$\")) @def",
    "function", some function, none⟩,
   -- Private macros are macros too.
   ⟨"macroDefinition",
    "(call target: (identifier) @keyword (arguments (call target: (identifier) @name)) " ++
      "(#match? @keyword \"^defmacrop?$\")) @def",
    "macro", some named, none⟩]

/-- The directives. -/
def references : List ReferencePattern :=
  [directive "aliasDirective" "alias",
   directive "importStatement" "import",
   directive "require" "require",
   directive "useStatement" "use"]

end SourceAtlas.Language.Elixir

namespace SourceAtlas.Language

/-- Elixir. -/
def elixir : Language where
  identity :=
    { name := "elixir"
      displayName := "Elixir"
      aliases := ["ex"]
      extensions := [".ex", ".exs"]
      defaultGrammar := some "elixir" }
  symbolPatterns := Elixir.symbols
  referencePatterns := .ok Elixir.references
  parameterNames := plainNames
  inferKind := asGiven

end SourceAtlas.Language
