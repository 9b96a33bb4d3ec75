import SourceAtlas.Language.Conventions

/-! Swift types, protocols, functions and imports. -/

namespace SourceAtlas.Language.Swift

/-- The declarations, in order of priority. -/
def symbols : List SymbolPattern :=
  -- Classes, structures and enumerations share one node, and a field tells which it is.
  [⟨"typeDeclaration",
    "(class_declaration declaration_kind: _ @declaration name: (type_identifier) @name) @def",
    "class", some (captured [("name", "name"), ("declaration", "declaration")]), none⟩,
   ⟨"protocolDeclaration",
    "(protocol_declaration name: (type_identifier) @name) @def",
    "protocol", some named, none⟩,
   ⟨"functionDeclaration",
    "(function_declaration name: (simple_identifier) @name) @def",
    "function", some named, none⟩]

/-- The imports and calls. -/
def references : List ReferencePattern :=
  [⟨"importStatement",
    "(import_declaration (identifier) @module) @ref",
    some moduleUnquoted⟩,
   ⟨"functionCall",
    "(call_expression (simple_identifier) @func) @ref",
    some callee⟩]

end SourceAtlas.Language.Swift

namespace SourceAtlas.Language

/-- Swift. -/
def swift : Language where
  identity :=
    { name := "swift"
      displayName := "Swift"
      extensions := [".swift"]
      defaultGrammar := some "swift" }
  symbolPatterns := Swift.symbols
  referencePatterns := .ok Swift.references
  parameterNames := namesBeforeColon
  inferKind := asGiven

end SourceAtlas.Language
