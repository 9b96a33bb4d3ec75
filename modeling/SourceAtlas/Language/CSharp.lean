import SourceAtlas.Language.Conventions

/-! C# types, members, namespaces and using directives. -/

namespace SourceAtlas.Language.CSharp

/-- A parameter name: the last of at least two words before the default. -/
def parameter (text : List Char) : Option (List Char) :=
  -- Modifiers and the type stand before the name.
  let words := blankWords (beforeFirst '=' text)
  if 2 ≤ words.length then words.getLast? else none

/-- The parameter names. -/
def names : String → List String := namesBy parameter

/-- A class and its bases. -/
def class_ : Extractor :=
  withFields named fun found =>
    -- The list of bases is captured with its colon.
    let bases := trimStartBy (· == ':') (found.text "bases").toList
    [("bases", .strings ((splitParameters bases).map String.ofList))]

/-- The declarations, in order of priority. -/
def symbols : List SymbolPattern :=
  [⟨"classDeclaration",
    "(class_declaration name: (identifier) @name (base_list)? @bases) @def",
    "class", some class_, none⟩,
   ⟨"interfaceDeclaration",
    "(interface_declaration name: (identifier) @name) @def",
    "interface", some named, none⟩,
   ⟨"structDeclaration",
    "(struct_declaration name: (identifier) @name) @def",
    "struct", some named, none⟩,
   ⟨"recordDeclaration",
    "(record_declaration name: (identifier) @name) @def",
    "record", some named, none⟩,
   ⟨"enumDeclaration",
    "(enum_declaration name: (identifier) @name) @def",
    "enum", some named, none⟩,
   ⟨"methodDeclaration",
    "(method_declaration name: (identifier) @name parameters: (parameter_list) @params) @def",
    "method", some (namedWithParameters names), none⟩,
   ⟨"constructorDeclaration",
    "(constructor_declaration name: (identifier) @name parameters: (parameter_list) @params) @def",
    "constructor", some (namedWithParameters names), none⟩,
   ⟨"propertyDeclaration",
    "(property_declaration name: (identifier) @name) @def",
    "property", some named, none⟩,
   ⟨"namespaceDeclaration",
    "(namespace_declaration name: [(identifier) (qualified_name)] @name) @def",
    "namespace", some named, none⟩]

/-- The imports and calls. -/
def references : List ReferencePattern :=
  [⟨"usingDirective",
    "(using_directive [(identifier) (qualified_name)] @module) @ref",
    some moduleUnquoted⟩,
   ⟨"methodCall",
    "(invocation_expression function: (_) @func arguments: (argument_list) @args) @ref",
    some called⟩,
   -- A construction names a type, and its arguments are not kept.
   ⟨"constructorCall",
    "(object_creation_expression type: (_) @func) @ref",
    some callee⟩]

end SourceAtlas.Language.CSharp

namespace SourceAtlas.Language

/-- C#. -/
def cSharp : Language where
  identity :=
    { name := "csharp"
      displayName := "C#"
      aliases := ["c#", "cs"]
      extensions := [".cs", ".csx"]
      defaultGrammar := some "c_sharp" }
  symbolPatterns := CSharp.symbols
  referencePatterns := .ok CSharp.references
  parameterNames := CSharp.names
  inferKind := asGiven

end SourceAtlas.Language
