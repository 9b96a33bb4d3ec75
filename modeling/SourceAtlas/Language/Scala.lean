import SourceAtlas.Language.Conventions

/-! Scala classes, objects, traits, functions and imports. -/

namespace SourceAtlas.Language.Scala

/-- What follows the first word of a text, or that word when nothing does;
blank texts have neither. -/
def afterFirstWord? (text : List Char) : Option (List Char) :=
  let trimmed := trimStartBy isBlank text
  -- The first word ends at a blank, and more blanks may follow.
  let rest := trimStartBy isBlank (trimmed.dropWhile fun c => !isBlank c)
  if trimmed.isEmpty then none
  -- A text of one word has nothing behind it.
  else if rest.isEmpty then some (trimmed.takeWhile fun c => !isBlank c)
  else some rest

/-- An import: everything behind its keyword. -/
def import_ : Extractor := fun found =>
  match afterFirstWord? found.spanText.toList with
  | some text => .ok [("module", .str (String.ofList text))]
  -- The match is then dropped.
  | none => .error .noWord

/-- The declarations, in order of priority. -/
def symbols : List SymbolPattern :=
  [⟨"classDefinition",
    "(class_definition name: (identifier) @name) @def",
    "class", some named, none⟩,
   ⟨"objectDefinition",
    "(object_definition name: (identifier) @name) @def",
    "object", some named, none⟩,
   ⟨"traitDefinition",
    "(trait_definition name: (identifier) @name) @def",
    "trait", some named, none⟩,
   ⟨"functionDefinition",
    "(function_definition name: (identifier) @name parameters: (parameters) @params) @def",
    "function", some (namedWithParameters namesBeforeColon), none⟩]

/-- The imports and calls. -/
def references : List ReferencePattern :=
  -- The whole declaration is captured, so its text is cut.
  [⟨"importStatement",
    "(import_declaration) @ref",
    some import_⟩,
   ⟨"functionCall",
    "(call_expression function: (identifier) @func arguments: (arguments) @args) @ref",
    some called⟩]

end SourceAtlas.Language.Scala

namespace SourceAtlas.Language

/-- Scala. -/
def scala : Language where
  identity :=
    { name := "scala"
      displayName := "Scala"
      extensions := [".scala", ".sc"]
      defaultGrammar := some "scala" }
  symbolPatterns := Scala.symbols
  referencePatterns := .ok Scala.references
  parameterNames := namesBeforeColon
  inferKind := asGiven

end SourceAtlas.Language
