import SourceAtlas.Language.Conventions

/-! Rust items: functions, types, traits, implementations, modules and macros. -/

namespace SourceAtlas.Language.Rust

/-- A text without the word `mut` and the blanks that must follow it. -/
def dropMut? (text : List Char) : Option (List Char) :=
  match dropStart? "mut".toList text with
  -- Without a blank behind it the word is the start of a longer one.
  | some (c :: rest) => if isBlank c then some (trimStartBy isBlank rest) else none
  | _ => none

/-- A pattern without the borrow and mutability marks in front of it. -/
def dropBorrow (text : List Char) : List Char :=
  match text with
  -- A borrow may be mutable, and so may a name without one.
  | '&' :: rest =>
    let rest := trimStartBy isBlank rest
    (dropMut? rest).getD rest
  | _ => (dropMut? text).getD text

/-- A parameter name without its type and marks; the receiver has none. -/
def parameter (text : List Char) : Option (List Char) :=
  let name := trimBlanks (dropBorrow (trimBlanks (beforeFirst ':' text)))
  -- The receiver is left out, with a type or without one.
  if name.isEmpty || name == "self".toList then none else some name

/-- The parameter names, without the receiver. -/
def names : String → List String := namesBy parameter

/-- A text behind a visibility and the blanks that must follow it. -/
def afterVisibility? (text : List Char) : Option (List Char) :=
  match dropStart? "pub".toList text with
  | none => none
  | some rest =>
    -- The visibility may be limited, in parentheses.
    let rest := match rest with
      | '(' :: inside => match cutAt? (· == ')') inside with
        | some (_, after) => after
        | none => rest
      | _ => rest
    match rest with
    -- Without a blank behind it the word is the start of a longer one.
    | c :: after => if isBlank c then some (trimStartBy isBlank after) else none
    | [] => none

/-- Whether a text starts with the word `async`. -/
def startsAsync (text : List Char) : Bool :=
  match dropStart? "async".toList text with
  | none => false
  -- A character of a word behind it would make it a longer one.
  | some rest => !isWordEdge rest.head?

/-- Whether a function is asynchronous, behind its visibility if it has one. -/
def isAsync (text : String) : Bool :=
  -- The mark stands at the front or right behind the visibility.
  startsAsync text.toList || match afterVisibility? text.toList with
    | some rest => startsAsync rest
    | none => false

/-- Whether a text starts with a visibility. -/
def isPublic (found : StructuralMatch) : Json :=
  -- A limited visibility counts as well.
  .bool (found.spanText.startsWith "pub")

/-- An item and its visibility. -/
def item : Extractor := withFields named fun found => [("public", isPublic found)]

/-- A function, its visibility, and a mark when it is asynchronous. -/
def function : Extractor :=
  withFields (namedWithParameters names) fun found =>
    ("public", isPublic found) ::
      if isAsync found.spanText then [("async", .bool true)] else []

/-- An implementation of a trait for a type. -/
def traitImpl : Extractor := fun found =>
  let trait := found.text "trait"
  let type := found.text "type"
  -- An implementation has no name of its own, so one is made up.
  .ok [("name", .str ("impl " ++ trait ++ " for " ++ type)), ("trait", .str trait),
    ("type", .str type)]

/-- An implementation of a type. -/
def typeImpl : Extractor := fun found =>
  .ok [("name", .str ("impl " ++ found.text "type")), ("type", .str (found.text "type"))]

/-- The declarations, in order of priority. -/
def symbols : List SymbolPattern :=
  [⟨"functionDeclaration",
    "(function_item name: (identifier) @name parameters: (parameters) @params) @def",
    "function", some function, none⟩,
   ⟨"structDeclaration",
    "(struct_item name: (type_identifier) @name) @def",
    "struct", some item, none⟩,
   ⟨"enumDeclaration",
    "(enum_item name: (type_identifier) @name) @def",
    "enum", some item, none⟩,
   ⟨"traitDeclaration",
    "(trait_item name: (type_identifier) @name) @def",
    "trait", some item, none⟩,
   -- Every such implementation matches below too, under another name.
   ⟨"implTrait",
    "(impl_item trait: (_) @trait type: (_) @type) @def",
    "impl", some traitImpl, none⟩,
   ⟨"implBlock",
    "(impl_item type: (_) @type) @def",
    "impl", some typeImpl, none⟩,
   ⟨"typeAlias",
    "(type_item name: (type_identifier) @name) @def",
    "type", some item, none⟩,
   ⟨"constDeclaration",
    "(const_item name: (identifier) @name) @def",
    "constant", some item, none⟩,
   ⟨"staticDeclaration",
    "(static_item name: (identifier) @name) @def",
    "static", some item, none⟩,
   ⟨"modDeclaration",
    "(mod_item name: (identifier) @name) @def",
    "module", some item, none⟩,
   ⟨"macroDefinition",
    "(macro_definition name: (identifier) @name) @def",
    "macro", some named, none⟩]

/-- The imports and calls. -/
def references : List ReferencePattern :=
  [⟨"useStatement",
    "(use_declaration argument: (_) @module) @ref",
    some moduleText⟩,
   ⟨"externCrate",
    "(extern_crate_declaration name: (identifier) @module) @ref",
    some moduleText⟩,
   ⟨"functionCall",
    "(call_expression function: [(identifier) (scoped_identifier) (field_expression)] @func " ++
      "arguments: (arguments) @args) @ref",
    some called⟩,
   ⟨"macroInvocation",
    "(macro_invocation macro: (identifier) @func) @ref",
    some callee⟩]

end SourceAtlas.Language.Rust

namespace SourceAtlas.Language

/-- Rust. -/
def rust : Language where
  identity :=
    { name := "rust"
      displayName := "Rust"
      aliases := ["rs"]
      extensions := [".rs"]
      defaultGrammar := some "rust" }
  symbolPatterns := Rust.symbols
  referencePatterns := .ok Rust.references
  parameterNames := Rust.names
  inferKind := asGiven

end SourceAtlas.Language
