import SourceAtlas.Language.Conventions

/-! Haskell functions, data types, type classes and imports. -/

namespace SourceAtlas.Language.Haskell

/-- The declarations, in order of priority. -/
def symbols : List SymbolPattern :=
  [⟨"functionDefinition",
    "(function name: (variable) @name) @def",
    "function", some named, none⟩,
   -- A signature counts where the function itself is not found under its name.
   ⟨"typeSignature",
    "(signature name: (variable) @name) @def",
    "function", some named, none⟩,
   ⟨"dataType",
    "(data_type name: (name) @name) @def",
    "data", some named, none⟩,
   ⟨"newtype",
    "(newtype name: (name) @name) @def",
    "type", some named, none⟩,
   ⟨"typeClass",
    "(class name: (name) @name) @def",
    "class", some named, none⟩]

/-- The imports and calls. -/
def references : List ReferencePattern :=
  [⟨"importStatement",
    "(import module: (module) @module) @ref",
    some moduleUnquoted⟩]

end SourceAtlas.Language.Haskell

namespace SourceAtlas.Language

/-- Haskell. -/
def haskell : Language where
  identity :=
    { name := "haskell"
      displayName := "Haskell"
      aliases := ["hs"]
      extensions := [".hs", ".lhs"]
      defaultGrammar := some "haskell" }
  symbolPatterns := Haskell.symbols
  referencePatterns := .ok Haskell.references
  parameterNames := plainNames
  inferKind := asGiven

end SourceAtlas.Language
