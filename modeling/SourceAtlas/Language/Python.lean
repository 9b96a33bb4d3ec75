import SourceAtlas.Language.Conventions

/-! Python functions, methods, classes and module-level assignments. -/

namespace SourceAtlas.Language.Python

/-- A parameter name without annotation, default and stars; the receiver and the
bare marker have none. -/
def parameter (text : List Char) : Option (List Char) :=
  -- One or two stars mark the rest of the arguments, and a star alone leaves no name.
  let name := trimBlanks (trimStartBy (· == '*') (parameterName text))
  if name.isEmpty || name == "self".toList || name == "cls".toList || name == ['/'] then none
  else some name

/-- The parameter names, without the receiver. -/
def names : String → List String := namesBy parameter

/-- A function, marked when it is asynchronous. -/
def function : Extractor := withFields (namedWithParameters names) asyncMark

/-- A class and its bases. -/
def class_ : Extractor :=
  withFields named fun found => [("bases", .strings (splitList (found.text "bases")))]

/-- The declarations, in order of priority. -/
def symbols : List SymbolPattern :=
  -- A function inside of a class is a method, and comes before the function of the same text.
  [⟨"methodDefinition",
    "(function_definition name: (identifier) @name parameters: (parameters) @params) @def",
    "method", some function, some "class_definition"⟩,
   ⟨"functionDefinition",
    "(function_definition name: (identifier) @name parameters: (parameters) @params) @def",
    "function", some function, none⟩,
   ⟨"classDefinition",
    "(class_definition name: (identifier) @name superclasses: (argument_list)? @bases) @def",
    "class", some class_, none⟩,
   -- Only assignments of a module count, not those inside of functions or classes.
   ⟨"variableAssignment",
    "(module (expression_statement (assignment left: (identifier) @name)) @def)",
    "variable", some named, none⟩]

/-- The imports and calls. -/
def references : List ReferencePattern :=
  -- A module with an alias is filed under its own name.
  [⟨"importStatement",
    "(import_statement name: [(dotted_name) @module (aliased_import name: (dotted_name) " ++
      "@module)]) @ref",
    some moduleText⟩,
   ⟨"fromImport",
    "(import_from_statement module_name: [(dotted_name) (relative_import)] @module) @ref",
    some moduleText⟩,
   ⟨"functionCall",
    "(call function: [(identifier) (attribute)] @func arguments: (argument_list) @args) @ref",
    some called⟩]

end SourceAtlas.Language.Python

namespace SourceAtlas.Language

/-- Python. -/
def python : Language where
  identity :=
    { name := "python"
      displayName := "Python"
      aliases := ["py"]
      extensions := [".py", ".pyw", ".pyi"]
      defaultGrammar := some "python" }
  symbolPatterns := Python.symbols
  referencePatterns := .ok Python.references
  parameterNames := Python.names
  inferKind := constantsAmong "variable"

end SourceAtlas.Language
