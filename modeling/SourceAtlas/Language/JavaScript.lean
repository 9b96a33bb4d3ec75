import SourceAtlas.Language.Conventions

/-! JavaScript and TypeScript, with the conventions of React. -/

namespace SourceAtlas.Language.JavaScript

/-- The parameter names. -/
def names : String → List String := plainNames

/-- Functions that start with a capital are components, those that start with `use`
and a capital are hooks. -/
def inferKind (name given : String) : String :=
  if given == "function" then
    -- No name starts in both ways.
    if startsCapital name then "component"
    else match dropStart? "use".toList name.toList with
      | some (c :: _) => if isCapital c then "hook" else given
      | _ => given
  else given

/-- The heritage clause without its keyword. -/
def parentName (heritage : String) : String :=
  -- The keyword needs a blank behind it.
  match dropStart? "extends".toList heritage.toList with
  | some (c :: rest) =>
    if isBlank c then String.ofList (trimStartBy isBlank rest) else heritage
  | _ => heritage

/-- A function, marked when it is asynchronous. -/
def function : Extractor := withFields (namedWithParameters names) asyncMark

/-- A function known to be asynchronous. -/
def asyncFunction : Extractor :=
  withFields (namedWithParameters names) fun _ => [("async", .bool true)]

/-- A class and the class it extends. -/
def subclass : Extractor :=
  -- The clause is captured with its keyword.
  withFields named fun found => [("extends", .str (parentName (found.text "parent")))]

/-- A state hook and its setter. -/
def stateHook : Extractor :=
  withFields (captured [("name", "name"), ("setter", "setter")]) fun _ =>
    [("type", .str "useState")]

/-- A component and whether it takes properties. -/
def component : Extractor :=
  -- One parameter of any form is enough.
  withFields named fun found => [("hasProps", .bool (!(names (found.text "params")).isEmpty))]

/-- A default export. -/
def defaultExport : Extractor := fun found =>
  .ok [("default", .bool true), ("value", .str (found.text "value"))]

/-- An import with its clause. -/
def importClause : Extractor := fun found =>
  .ok [("imports", .str (found.text "imports")), ("module", .str (unquoted (found.text "module")))]

/-- The declarations, in order of priority. -/
def symbols : List SymbolPattern :=
  [⟨"functionDeclaration",
    "(function_declaration name: (identifier) @name parameters: (formal_parameters) @params) @def",
    "function", some function, none⟩,
   -- A parameter without parentheses is captured in the same way.
   ⟨"arrowFunction",
    "(lexical_declaration kind: \"const\" (variable_declarator name: (identifier) @name value: " ++
      "(arrow_function [parameters: (formal_parameters) @params parameter: (identifier) " ++
      "@params]))) @def",
    "function", some (namedWithParameters names), none⟩,
   -- Every such function matches above, and was marked there.
   ⟨"asyncFunctionDeclaration",
    "(function_declaration \"async\" name: (identifier) @name parameters: (formal_parameters) " ++
      "@params) @def",
    "function", some asyncFunction, none⟩,
   ⟨"classDeclaration",
    "(class_declaration name: (_) @name) @def",
    "class", some named, none⟩,
   -- So does every such class, without the class that it extends.
   ⟨"classWithExtends",
    "(class_declaration name: (_) @name (class_heritage) @parent) @def",
    "class", some subclass, none⟩,
   ⟨"methodDefinition",
    "(method_definition name: (_) @name parameters: (formal_parameters) @params) @def",
    "method", some (namedWithParameters names), some "class_body"⟩,
   -- Arrow functions match here too, but come earlier.
   ⟨"constDeclaration",
    "(lexical_declaration kind: \"const\" (variable_declarator name: (identifier) @name value: " ++
      "(_))) @def",
    "constant", some named, none⟩,
   ⟨"variableDeclaration",
    "[(lexical_declaration kind: \"let\" (variable_declarator name: (identifier) @name)) " ++
      "(variable_declaration (variable_declarator name: (identifier) @name))] @def",
    "variable", some named, none⟩,
   ⟨"reactHook",
    "(lexical_declaration (variable_declarator name: (array_pattern . (identifier) @name . " ++
      "(identifier) @setter) value: (call_expression function: (identifier) @hook)) (#eq? @hook " ++
      "\"useState\")) @def",
    "hook", some stateHook, none⟩,
   -- Such functions are declared above, and are components there by their names.
   ⟨"reactComponent",
    "(function_declaration name: (identifier) @name parameters: (formal_parameters) @params " ++
      "body: (statement_block (return_statement [(jsx_element) (jsx_self_closing_element) " ++
      "(parenthesized_expression [(jsx_element) (jsx_self_closing_element)])]))) @def",
    "component", some component, none⟩,
   ⟨"tsInterface",
    "(interface_declaration name: (type_identifier) @name) @def",
    "interface", some named, none⟩,
   ⟨"tsTypeAlias",
    "(type_alias_declaration name: (type_identifier) @name) @def",
    "type", some named, none⟩,
   ⟨"tsEnum",
    "(enum_declaration name: (identifier) @name) @def",
    "enum", some named, none⟩,
   -- Exports have no name, so the identifier of the pattern stands for one.
   ⟨"moduleExports",
    "(expression_statement (assignment_expression left: (member_expression object: " ++
      "(identifier) @object property: (property_identifier) @property) right: (_) @value) (#eq? " ++
      "@object \"module\") (#eq? @property \"exports\")) @def",
    "export", some (captured [("value", "value")]), none⟩,
   ⟨"namedExport",
    "(export_statement (export_clause) @names) @def",
    "export", some (captured [("names", "names")]), none⟩,
   ⟨"exportDefault",
    "(export_statement \"default\" [value: (_) @value declaration: (_) @value]) @def",
    "export", some defaultExport, none⟩]

/-- The imports and calls. -/
def references : List ReferencePattern :=
  [⟨"require",
    "(call_expression function: (identifier) @function arguments: (arguments . (string) " ++
      "@module) (#eq? @function \"require\")) @ref",
    some moduleUnquoted⟩,
   ⟨"importDeclaration",
    "(import_statement (import_clause)? @imports source: (string) @module) @ref",
    some importClause⟩,
   ⟨"dynamicImport",
    "(call_expression function: (import) arguments: (arguments . (string) @module)) @ref",
    some moduleUnquoted⟩,
   ⟨"functionCall",
    "(call_expression function: [(identifier) (member_expression)] @func arguments: " ++
      "(arguments) @args) @ref",
    some called⟩]

end SourceAtlas.Language.JavaScript

namespace SourceAtlas.Language

/-- JavaScript and TypeScript. -/
def javaScript : Language where
  identity :=
    { name := "javascript"
      displayName := "JavaScript/TypeScript"
      aliases := ["js", "jsx", "ts", "tsx", "typescript"]
      extensions := [".js", ".jsx", ".mjs", ".cjs", ".ts", ".tsx"]
      grammars := [(".ts", "typescript"), (".tsx", "tsx")]
      defaultGrammar := some "javascript" }
  symbolPatterns := JavaScript.symbols
  referencePatterns := .ok JavaScript.references
  parameterNames := JavaScript.names
  inferKind := JavaScript.inferKind

end SourceAtlas.Language
