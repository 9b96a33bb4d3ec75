import SourceAtlas.Language.Conventions

/-! PHP functions, classes, traits and the statements that load other files. -/

namespace SourceAtlas.Language.Php

/-- A parameter name: the word behind the first dollar sign that has one. -/
def parameter : List Char → Option (List Char)
  | [] => none
  | c :: rest =>
    let name := rest.takeWhile isWordChar
    -- Types and marks of references may stand before the dollar sign.
    if c == '$' && !name.isEmpty then some name else parameter rest

/-- The parameter names. -/
def names : String → List String := namesBy parameter

/-- A text without the first occurrence of a part. -/
def dropFirst (part : List Char) : List Char → List Char
  | [] => []
  | c :: rest =>
    -- The keyword stands at the start, but is looked for everywhere.
    match dropStart? part (c :: rest) with
    | some after => after
    | none => c :: dropFirst part rest

/-- A class and the class it extends, or null. -/
def class_ : Extractor :=
  withFields named fun found =>
    -- The clause is captured with its keyword, and is empty where there is none.
    let parent := trimBlanks (dropFirst "extends".toList (found.text "parent").toList)
    [("extends", if parent.isEmpty then .null else .str (String.ofList parent))]

/-- The declarations, in order of priority. -/
def symbols : List SymbolPattern :=
  [⟨"functionDefinition",
    "(function_definition name: (name) @name parameters: (formal_parameters) @params) @def",
    "function", some (namedWithParameters names), none⟩,
   ⟨"classDeclaration",
    "(class_declaration name: (name) @name (base_clause)? @parent) @def",
    "class", some class_, none⟩,
   ⟨"interfaceDeclaration",
    "(interface_declaration name: (name) @name) @def",
    "interface", some named, none⟩,
   ⟨"traitDeclaration",
    "(trait_declaration name: (name) @name) @def",
    "trait", some named, none⟩,
   ⟨"methodDeclaration",
    "(method_declaration name: (name) @name parameters: (formal_parameters) @params) @def",
    "method", some (namedWithParameters names), none⟩]

/-- The imports and calls. -/
def references : List ReferencePattern :=
  [⟨"useStatement",
    "(namespace_use_clause [(qualified_name) (name)] @module) @ref",
    some moduleUnquoted⟩,
   -- Whether a file is loaded once or each time makes no difference here.
   ⟨"require",
    "[(require_expression (_) @module) (require_once_expression (_) @module)] @ref",
    some moduleUnquoted⟩,
   ⟨"includeDirective",
    "[(include_expression (_) @module) (include_once_expression (_) @module)] @ref",
    some moduleUnquoted⟩,
   ⟨"functionCall",
    "(function_call_expression function: (_) @func arguments: (arguments) @args) @ref",
    some called⟩,
   ⟨"constructorCall",
    "(object_creation_expression [(name) (qualified_name)] @func) @ref",
    some callee⟩]

end SourceAtlas.Language.Php

namespace SourceAtlas.Language

/-- PHP. -/
def php : Language where
  identity :=
    { name := "php"
      displayName := "PHP"
      extensions := [".php", ".phtml", ".php3", ".php4", ".php5", ".phps"]
      defaultGrammar := some "php" }
  symbolPatterns := Php.symbols
  referencePatterns := .ok Php.references
  parameterNames := Php.names
  inferKind := asGiven

end SourceAtlas.Language
