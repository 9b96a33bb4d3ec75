import SourceAtlas.Language.Conventions

/-! Go functions, methods, types, constants and variables. -/

namespace SourceAtlas.Language.Go

/-- The parameter names: the first word of each. -/
def names : String → List String :=
  -- Types follow the names, and a type alone is taken for a name.
  namesBy fun parameter => (blankWords parameter).head?

/-- A method and its receiver. -/
def method : Extractor :=
  withFields (namedWithParameters names) fun found =>
    -- The receiver is captured with its parentheses.
    [("receiver", .str (String.ofList (trimBy (fun c => c == '(' || c == ')')
      (found.text "receiver").toList)))]

/-- An import and its alias. -/
def aliasedImport : Extractor := fun found =>
  .ok [("module", .str (unquoted (found.text "module"))), ("alias", .str (found.text "alias"))]

/-- The declarations, in order of priority. -/
def symbols : List SymbolPattern :=
  [⟨"functionDeclaration",
    "(function_declaration name: (identifier) @name parameters: (parameter_list) @params) @def",
    "function", some (namedWithParameters names), none⟩,
   ⟨"methodDeclaration",
    "(method_declaration receiver: (parameter_list) @receiver name: (field_identifier) @name " ++
      "parameters: (parameter_list) @params) @def",
    "method", some method, none⟩,
   ⟨"structDeclaration",
    "(type_declaration (type_spec name: (type_identifier) @name type: (struct_type))) @def",
    "struct", some named, none⟩,
   ⟨"interfaceDeclaration",
    "(type_declaration (type_spec name: (type_identifier) @name type: (interface_type))) @def",
    "interface", some named, none⟩,
   -- An alias is no definition, so the two are declared by different nodes.
   ⟨"typeAlias",
    "(type_declaration (type_alias name: (type_identifier) @name)) @def",
    "type", some named, none⟩,
   -- Structures and interfaces match here too, but come earlier.
   ⟨"typeDefinition",
    "(type_declaration (type_spec name: (type_identifier) @name)) @def",
    "type", some named, none⟩,
   ⟨"constDeclaration",
    "(const_declaration (const_spec name: (identifier) @name)) @def",
    "constant", some named, none⟩,
   ⟨"varDeclaration",
    "(var_declaration (var_spec name: (identifier) @name)) @def",
    "variable", some named, none⟩,
   ⟨"packageDeclaration",
    "(package_clause (package_identifier) @name) @def",
    "package", some named, none⟩]

/-- The imports and calls. -/
def references : List ReferencePattern :=
  [⟨"singleImport",
    "(import_spec name: (_)? @alias path: (interpreted_string_literal) @module) @ref",
    some aliasedImport⟩,
   ⟨"functionCall",
    "(call_expression function: [(identifier) (selector_expression)] @func arguments: " ++
      "(argument_list) @args) @ref",
    some called⟩]

end SourceAtlas.Language.Go

namespace SourceAtlas.Language

/-- Go. -/
def go : Language where
  identity :=
    { name := "go"
      displayName := "Go"
      aliases := ["golang"]
      extensions := [".go"]
      defaultGrammar := some "go" }
  symbolPatterns := Go.symbols
  referencePatterns := .ok Go.references
  parameterNames := Go.names
  inferKind := asGiven

end SourceAtlas.Language
