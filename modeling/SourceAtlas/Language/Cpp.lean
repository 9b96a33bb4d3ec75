import SourceAtlas.Language.C

/-! C++ adds classes, namespaces, member functions and constructions to C. -/

namespace SourceAtlas.Language.Cpp

/-- A class and the last word of each of its bases. -/
def class_ : Extractor :=
  withFields named fun found =>
    -- The list of bases is captured with its colon.
    let bases := trimStartBy (· == ':') (found.text "bases").toList
    -- An access word may stand before the name of a base.
    [("bases", .strings (((splitParameters bases).filterMap fun base =>
      (blankWords base).getLast?).map String.ofList))]

/-- A method and the scope it belongs to. -/
def qualifiedMethod : Extractor :=
  -- The scope is kept as it is written.
  withFields (namedWithParameters C.names) fun found => [("scope", .str (found.text "scope"))]

/-- The declarations that C does not have, in order of priority. -/
def symbols : List SymbolPattern :=
  [⟨"classDefinition",
    "(class_specifier name: (type_identifier) @name (base_class_clause)? @bases body: " ++
      "(field_declaration_list)) @def",
    "class", some class_, none⟩,
   ⟨"namespaceDefinition",
    "(namespace_definition name: (namespace_identifier) @name) @def",
    "namespace", some named, none⟩,
   ⟨"inlineMethod",
    "(function_definition declarator: (function_declarator declarator: (field_identifier) " ++
      "@name parameters: (parameter_list) @params)) @def",
    "method", some (namedWithParameters C.names), none⟩,
   ⟨"qualifiedMethod",
    "(function_definition declarator: (function_declarator declarator: (qualified_identifier " ++
      "scope: (namespace_identifier) @scope name: (identifier) @name) parameters: " ++
      "(parameter_list) @params)) @def",
    "method", some qualifiedMethod, none⟩]

/-- The calls that C does not have. -/
def references : List ReferencePattern :=
  [⟨"methodCall",
    "(call_expression function: (field_expression field: (field_identifier) @func) arguments: " ++
      "(argument_list) @args) @ref",
    some called⟩,
   ⟨"constructorCall",
    "(new_expression type: (type_identifier) @func) @ref",
    some callee⟩]

end SourceAtlas.Language.Cpp

namespace SourceAtlas.Language

/-- C++. -/
def cpp : Language where
  identity :=
    { name := "cpp"
      displayName := "C++"
      aliases := ["c++", "cxx"]
      extensions := [".cpp", ".cc", ".cxx", ".hpp", ".hh", ".hxx"]
      defaultGrammar := some "cpp" }
  -- What C does not have comes first.
  symbolPatterns := Cpp.symbols ++ C.symbols
  -- The calls of C come first.
  referencePatterns := .ok (C.references ++ Cpp.references)
  parameterNames := C.names
  inferKind := constantsAmong "macro"

end SourceAtlas.Language
