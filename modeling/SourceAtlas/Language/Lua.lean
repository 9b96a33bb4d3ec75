import SourceAtlas.Language.Conventions

/-! Lua functions and required modules. -/

namespace SourceAtlas.Language.Lua

/-- The declarations, in order of priority. -/
def symbols : List SymbolPattern :=
  -- A function may be declared as a field or a method of a table.
  [⟨"functionDeclaration",
    "(function_declaration name: [(identifier) (dot_index_expression) " ++
      "(method_index_expression)] @name parameters: (parameters) @params) @def",
    "function", some (namedWithParameters plainNames), none⟩]

/-- The imports and calls. -/
def references : List ReferencePattern :=
  [⟨"require",
    "(function_call name: (identifier) @function arguments: (arguments (string) @module) (#eq? " ++
      "@function \"require\")) @ref",
    some moduleUnquoted⟩,
   -- Loading a module is a call as well, and reported as both.
   ⟨"functionCall",
    "(function_call name: (identifier) @func arguments: (arguments) @args) @ref",
    some called⟩]

end SourceAtlas.Language.Lua

namespace SourceAtlas.Language

/-- Lua. -/
def lua : Language where
  identity :=
    { name := "lua"
      displayName := "Lua"
      extensions := [".lua"]
      defaultGrammar := some "lua" }
  symbolPatterns := Lua.symbols
  referencePatterns := .ok Lua.references
  parameterNames := plainNames
  inferKind := asGiven

end SourceAtlas.Language
