import SourceAtlas.Json.Value
import SourceAtlas.Path
import SourceAtlas.Structure.Match
import SourceAtlas.Text.Case

/-! What the index knows of a language: its names, its files, its patterns and its conventions. -/

namespace SourceAtlas

/-- Why an extractor gave no fields. -/
inductive ExtractFault where
  /-- A text that should hold a word is blank. -/
  | noWord
  /-- The extractor gave up with a message. -/
  | failed (message : String)

/-- Fields read off a match. -/
abbrev Extractor := StructuralMatch → Except ExtractFault (Assoc Json)

/-- A query for declarations: the identifier names the pattern, and a symbol
that has no other name. -/
structure SymbolPattern where
  id : String
  query : String
  kind : String
  extract : Option Extractor
  /-- The type of node that a match must lie inside; empty for anywhere. -/
  context : Option String := none

/-- A query for imports and calls: the identifier is the type of the references found. -/
structure ReferencePattern where
  id : String
  query : String
  extract : Option Extractor

/-- The names of a language and the files that belong to it. -/
structure LanguageIdentity where
  name : String
  displayName : String
  aliases : List String := []
  extensions : List String := []
  /-- Grammars of single extensions; the others use the default. -/
  grammars : Assoc String := []
  defaultGrammar : Option String := none

/-- The names and files of a language as a record. -/
def LanguageIdentity.toJson (identity : LanguageIdentity) : Json :=
  .obj [("name", .str identity.name), ("display_name", .str identity.displayName),
    ("aliases", .strings identity.aliases), ("extensions", .strings identity.extensions),
    ("grammars", .obj (identity.grammars.map fun (key, value) => (key, .str value))),
    ("default_grammar", .ofText? identity.defaultGrammar)]

/-- A language: identity, patterns in order of priority, and conventions
for parameters and kinds. -/
structure Language where
  identity : LanguageIdentity
  symbolPatterns : List SymbolPattern
  /-- The reference patterns, or why they cannot be had. -/
  referencePatterns : Except String (List ReferencePattern)
  parameterNames : String → List String
  inferKind : String → String → String

/-- The reference patterns that can be had. -/
def Language.usableReferences (language : Language) : List ReferencePattern :=
  match language.referencePatterns with
  | .ok patterns => patterns
  -- Patterns that cannot be had are as good as none.
  | .error _ => []

/-- The identity and the patterns of a language as a record. -/
def Language.toJson (language : Language) : Json :=
  .obj [("config", language.identity.toJson),
    ("symbols", .arr (language.symbolPatterns.map fun pattern => .obj [("id", .str pattern.id),
      ("kind", .str pattern.kind), ("context", .ofText? pattern.context),
      ("query", .str pattern.query)])),
    ("references", .arr (language.usableReferences.map fun pattern =>
      .obj [("id", .str pattern.id), ("query", .str pattern.query)]))]

/-- The grammar for a file of a language. -/
def Language.grammarFor (language : Language) (path : String) : Option String :=
  -- The suffix may be written in any case.
  match language.identity.grammars.get? (lower (Path.suffix path)) with
  | some grammar => some grammar
  | none => language.identity.defaultGrammar

end SourceAtlas
