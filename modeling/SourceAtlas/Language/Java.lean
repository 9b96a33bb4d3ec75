import SourceAtlas.Language.Conventions

/-! Java types, members and imports. -/

namespace SourceAtlas.Language.Java

/-- The parameter names: the last word of each. -/
def names : String → List String :=
  -- Modifiers and the type stand before the name.
  namesBy fun parameter => (blankWords parameter).getLast?

/-- A class, the class it extends and the interfaces it implements, where it has them. -/
def class_ : Extractor :=
  withFields named fun found =>
    -- A capture that is missing is empty, and then the field is left out.
    let parent := found.text "parent"
    let interfaces := found.text "interfaces"
    (if parent = "" then [] else [("extends", .str parent)]) ++
      (if interfaces = "" then [] else [("implements", .strings (splitList interfaces))])

/-- A method and the type it returns. -/
def method : Extractor :=
  withFields (namedWithParameters names) fun found => [("returns", .str (found.text "returns"))]

/-- Whether an import takes all names of its module: a star ends it before the semicolons. -/
def isWildcard (text : String) : Bool :=
  -- The semicolons are taken off before the blanks, so blanks behind them hide the star.
  (trimEndBy isBlank (trimEndBy (· == ';') text.toList)).getLast? == some '*'

/-- An import, whether it is static and whether it is a wildcard. -/
def import_ : Extractor :=
  withFields moduleText fun found =>
    -- Blanks around the text let the word be found at either end of it.
    [("static", .bool (hasPart " static " (" " ++ found.spanText ++ " "))),
     ("wildcard", .bool (isWildcard found.spanText))]

/-- The declarations, in order of priority. -/
def symbols : List SymbolPattern :=
  [⟨"classDeclaration",
    "(class_declaration name: (identifier) @name superclass: (superclass (_) @parent)? " ++
      "interfaces: (super_interfaces (type_list) @interfaces)?) @def",
    "class", some class_, none⟩,
   ⟨"interfaceDeclaration",
    "(interface_declaration name: (identifier) @name) @def",
    "interface", some named, none⟩,
   ⟨"enumDeclaration",
    "(enum_declaration name: (identifier) @name) @def",
    "enum", some named, none⟩,
   ⟨"recordDeclaration",
    "(record_declaration name: (identifier) @name parameters: (formal_parameters) @params) @def",
    "record", some (namedWithParameters names), none⟩,
   ⟨"annotationDefinition",
    "(annotation_type_declaration name: (identifier) @name) @def",
    "annotation", some named, none⟩,
   ⟨"methodDeclaration",
    "(method_declaration type: (_) @returns name: (identifier) @name parameters: " ++
      "(formal_parameters) @params) @def",
    "method", some method, none⟩,
   -- Only the constructors of classes are taken.
   ⟨"constructorDeclaration",
    "(constructor_declaration name: (identifier) @name parameters: (formal_parameters) " ++
      "@params) @def",
    "constructor", some (namedWithParameters names), some "class_body"⟩,
   ⟨"fieldDeclaration",
    "(field_declaration type: (_) @type declarator: (variable_declarator name: (identifier) " ++
      "@name)) @def",
    "field", some (captured [("name", "name"), ("type", "type")]), none⟩,
   ⟨"packageDeclaration",
    "(package_declaration [(scoped_identifier) (identifier)] @name) @def",
    "package", some named, none⟩]

/-- The imports and calls. -/
def references : List ReferencePattern :=
  [⟨"importStatement",
    "(import_declaration [(scoped_identifier) (identifier)] @module) @ref",
    some import_⟩,
   ⟨"methodCall",
    "(method_invocation object: (_)? @receiver name: (identifier) @func arguments: " ++
      "(argument_list) @args) @ref",
    some (captured [("func", "func"), ("receiver", "receiver"), ("args", "args")])⟩,
   ⟨"constructorCall",
    "(object_creation_expression type: (_) @func arguments: (argument_list) @args) @ref",
    some called⟩]

end SourceAtlas.Language.Java

namespace SourceAtlas.Language

/-- Java. -/
def java : Language where
  identity :=
    { name := "java"
      displayName := "Java"
      extensions := [".java"]
      defaultGrammar := some "java" }
  symbolPatterns := Java.symbols
  referencePatterns := .ok Java.references
  parameterNames := Java.names
  inferKind := constantsAmong "field"

end SourceAtlas.Language
