import SourceAtlas.Language.Conventions

/-! Style rules, keyframes, custom properties and imports. -/

namespace SourceAtlas.Language.Css

/-- The declarations, in order of priority. -/
def symbols : List SymbolPattern :=
  -- Two dashes in front tell custom properties from the others.
  [⟨"customProperty",
    "(declaration (property_name) @name (#match? @name \"^--\")) @def",
    "variable", some named, none⟩,
   ⟨"keyframes",
    "(keyframes_statement (keyframes_name) @name) @def",
    "keyframes", some named, none⟩,
   -- All selectors of a rule together are its name.
   ⟨"ruleSet",
    "(rule_set (selectors) @name) @def",
    "selector", some named, none⟩]

/-- The imports and calls. -/
def references : List ReferencePattern :=
  [⟨"cssImport",
    "(import_statement (string_value) @module) @ref",
    some moduleUnquoted⟩]

end SourceAtlas.Language.Css

namespace SourceAtlas.Language

/-- CSS. -/
def css : Language where
  identity :=
    { name := "css"
      displayName := "CSS"
      extensions := [".css", ".scss", ".sass", ".less", ".styl"]
      defaultGrammar := some "css" }
  symbolPatterns := Css.symbols
  referencePatterns := .ok Css.references
  parameterNames := plainNames
  inferKind := asGiven

end SourceAtlas.Language
