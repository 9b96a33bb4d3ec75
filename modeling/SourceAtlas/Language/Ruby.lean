import SourceAtlas.Language.Conventions

/-! Ruby classes, modules, methods, attributes and constants. -/

namespace SourceAtlas.Language.Ruby

/-- A parameter name without stars, block marks, default and keyword colon. -/
def parameter (text : List Char) : Option (List Char) :=
  -- Stars and block marks stand at the very front.
  let bare := trimStartBy (fun c => c == '*' || c == '&') text
  -- A keyword argument ends with a colon, and may have a default behind it.
  let name := trimBlanks (beforeFirst ':' (beforeFirst '=' bare))
  if name.isEmpty then none else some name

/-- The parameter names. -/
def names : String → List String := namesBy parameter

/-- Assignments to capitalised names are constants. -/
def inferKind (name given : String) : String :=
  -- One capital letter is enough, unlike in other languages.
  if given == "variable" && startsCapital name then "constant" else given

/-- A class and the class it extends, where it has one. -/
def class_ : Extractor :=
  withFields named fun found =>
    -- A capture that is missing is empty, and then the field is left out.
    let parent := found.text "parent"
    if parent = "" then [] else [("extends", .str parent)]

/-- An attribute and the access its macro gives. -/
def attribute_ : Extractor := fun found =>
  -- The name is captured with its colon, and the macro with its five letters in front.
  .ok [("name", .str (String.ofList (trimStartBy (· == ':') (found.text "name").toList))),
       ("access", .str (String.ofList ((found.text "macro").toList.drop 5)))]

/-- A required file and whether it is relative. -/
def requirement : Extractor :=
  withFields moduleUnquoted fun found =>
    [("relative", .bool (found.text "function" == "require_relative"))]

/-- The declarations, in order of priority. -/
def symbols : List SymbolPattern :=
  [⟨"classDefinition",
    "(class name: (_) @name superclass: (superclass (_) @parent)?) @def",
    "class", some class_, none⟩,
   ⟨"moduleDefinition",
    "(module name: (_) @name) @def",
    "module", some named, none⟩,
   ⟨"singletonMethod",
    "(singleton_method name: (_) @name parameters: (method_parameters)? @params) @def",
    "singleton_method", some (namedWithParameters names), none⟩,
   ⟨"methodDefinition",
    "(method name: (_) @name parameters: (method_parameters)? @params) @def",
    "method", some (namedWithParameters names), none⟩,
   -- A macro may declare several attributes, each of which matches.
   ⟨"attrAccessor",
    "(call method: (identifier) @macro arguments: (argument_list (simple_symbol) @name) " ++
      "(#match? @macro \"^attr_(accessor|reader|writer)$\")) @def",
    "attribute", some attribute_, none⟩,
   ⟨"constantAssignment",
    "(assignment left: (constant) @name) @def",
    "variable", some named, none⟩]

/-- The imports and calls. -/
def references : List ReferencePattern :=
  [⟨"requireStatement",
    "(call method: (identifier) @function arguments: (argument_list . (string) @module) " ++
      "(#match? @function \"^(require|require_relative|load)$\")) @ref",
    some requirement⟩,
   ⟨"includeModule",
    "(call method: (identifier) @function arguments: (argument_list . [(constant) " ++
      "(scope_resolution)] @module) (#match? @function \"^(include|extend|prepend)$\")) @ref",
    some (captured [("module", "module"), ("mixin", "function")])⟩,
   ⟨"methodCall",
    "(call receiver: (_) @receiver method: (identifier) @func) @ref",
    some (captured [("func", "func"), ("receiver", "receiver")])⟩]

end SourceAtlas.Language.Ruby

namespace SourceAtlas.Language

/-- Ruby. -/
def ruby : Language where
  identity :=
    { name := "ruby"
      displayName := "Ruby"
      aliases := ["rb"]
      extensions := [".rb", ".rake", ".gemspec", ".ru"]
      defaultGrammar := some "ruby" }
  symbolPatterns := Ruby.symbols
  referencePatterns := .ok Ruby.references
  parameterNames := Ruby.names
  inferKind := Ruby.inferKind

end SourceAtlas.Language
