import SourceAtlas.Language.Conventions

/-! Kotlin classes, objects, functions and imports. -/

namespace SourceAtlas.Language.Kotlin

/-- The declarations, in order of priority. -/
def symbols : List SymbolPattern :=
  [⟨"classDeclaration",
    "(class_declaration (type_identifier) @name) @def",
    "class", some named, none⟩,
   ⟨"objectDeclaration",
    "(object_declaration (type_identifier) @name) @def",
    "object", some named, none⟩,
   ⟨"functionDeclaration",
    "(function_declaration (simple_identifier) @name (function_value_parameters) @params) @def",
    "function", some (namedWithParameters namesBeforeColon), none⟩]

/-- The imports and calls. -/
def references : List ReferencePattern :=
  [⟨"importStatement",
    "(import_header (identifier) @module) @ref",
    some moduleUnquoted⟩,
   ⟨"functionCall",
    "(call_expression (simple_identifier) @func (call_suffix) @args) @ref",
    some called⟩]

end SourceAtlas.Language.Kotlin

namespace SourceAtlas.Language

/-- Kotlin. -/
def kotlin : Language where
  identity :=
    { name := "kotlin"
      displayName := "Kotlin"
      aliases := ["kt"]
      extensions := [".kt", ".kts"]
      defaultGrammar := some "kotlin" }
  symbolPatterns := Kotlin.symbols
  referencePatterns := .ok Kotlin.references
  parameterNames := namesBeforeColon
  inferKind := asGiven

end SourceAtlas.Language
