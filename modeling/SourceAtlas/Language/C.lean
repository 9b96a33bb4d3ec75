import SourceAtlas.Language.Conventions

/-! C functions, prototypes, aggregates, type definitions and macros. -/

namespace SourceAtlas.Language.C

/-- A declarator with blanks for the marks of pointers, references, arrays
and variable arguments. -/
def dropDeclaratorMarks : List Char → List Char
  -- Three dots are one mark, but a single dot belongs to the name.
  | '.' :: '.' :: '.' :: rest => ' ' :: dropDeclaratorMarks rest
  | c :: rest =>
    (if c == '*' || c == '&' || c == '[' || c == ']' then ' ' else c) :: dropDeclaratorMarks rest
  | [] => []

/-- A parameter name: the last of at least two words. -/
def parameter (text : List Char) : Option (List Char) :=
  -- A default value is left out before the words are told apart.
  let words := blankWords (dropDeclaratorMarks (beforeFirst '=' text))
  -- One word alone is a type without a name.
  if 2 ≤ words.length then words.getLast? else none

/-- The parameter names; parameters without a name are left out. -/
def names : String → List String := namesBy parameter

/-- An included file without its delimiters. -/
def include_ : Extractor := fun found =>
  -- The delimiters may be quotation marks or angle brackets.
  .ok [("module", .str (String.ofList (trimBy (fun c => c == '"' || c == '<' || c == '>')
    (found.text "module").toList)))]

/-- The declarations, in order of priority. -/
def symbols : List SymbolPattern :=
  [⟨"functionDefinition",
    "(function_definition declarator: (function_declarator declarator: (identifier) @name " ++
      "parameters: (parameter_list) @params)) @def",
    "function", some (namedWithParameters names), none⟩,
   -- A function that returns a pointer has one more declarator around it.
   ⟨"pointerFunctionDefinition",
    "(function_definition declarator: (pointer_declarator declarator: (function_declarator " ++
      "declarator: (identifier) @name parameters: (parameter_list) @params))) @def",
    "function", some (namedWithParameters names), none⟩,
   -- A prototype of a function that is also defined comes later, so the definition counts.
   ⟨"functionPrototype",
    "(declaration declarator: (function_declarator declarator: (identifier) @name parameters: " ++
      "(parameter_list) @params)) @def",
    "prototype", some (namedWithParameters names), none⟩,
   ⟨"structDefinition",
    "(struct_specifier name: (type_identifier) @name body: (field_declaration_list)) @def",
    "struct", some named, none⟩,
   ⟨"unionDefinition",
    "(union_specifier name: (type_identifier) @name body: (field_declaration_list)) @def",
    "union", some named, none⟩,
   -- Names without a body are no definitions, but uses of the type.
   ⟨"enumDefinition",
    "(enum_specifier name: (type_identifier) @name body: (enumerator_list)) @def",
    "enum", some named, none⟩,
   ⟨"typedefDeclaration",
    "(type_definition declarator: (type_identifier) @name) @def",
    "typedef", some named, none⟩,
   ⟨"macroDefinition",
    "(preproc_def name: (identifier) @name) @def",
    "macro", some named, none⟩,
   ⟨"functionMacro",
    "(preproc_function_def name: (identifier) @name parameters: (preproc_params) @params) @def",
    "macro", some (namedWithParameters names), none⟩]

/-- The imports and calls. -/
def references : List ReferencePattern :=
  [⟨"includeDirective",
    "(preproc_include path: [(string_literal) (system_lib_string)] @module) @ref",
    some include_⟩,
   ⟨"functionCall",
    "(call_expression function: (identifier) @func arguments: (argument_list) @args) @ref",
    some called⟩]

end SourceAtlas.Language.C

namespace SourceAtlas.Language

/-- C. -/
def c : Language where
  identity :=
    { name := "c"
      displayName := "C"
      extensions := [".c", ".h"]
      defaultGrammar := some "c" }
  symbolPatterns := C.symbols
  referencePatterns := .ok C.references
  parameterNames := C.names
  inferKind := constantsAmong "macro"

end SourceAtlas.Language
