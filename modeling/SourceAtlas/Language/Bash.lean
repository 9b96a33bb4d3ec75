import SourceAtlas.Language.Conventions

/-! Shell functions, declared variables and sourced files. -/

namespace SourceAtlas.Language.Bash

/-- The declarations, in order of priority. -/
def symbols : List SymbolPattern :=
  [⟨"functionDefinition",
    "(function_definition name: (word) @name) @def",
    "function", some named, none⟩,
   ⟨"declaredVariable",
    "(declaration_command (variable_assignment name: (variable_name) @name)) @def",
    "variable", some named, none⟩]

/-- The imports and calls. -/
def references : List ReferencePattern :=
  -- Both forms of the command are one type, and its argument may be any word.
  [⟨"sourceCommand",
    "(command name: (command_name) @command argument: (_) @module (#match? @command " ++
      "\"^(source|\\\\.)$\")) @ref",
    some moduleUnquoted⟩]

end SourceAtlas.Language.Bash

namespace SourceAtlas.Language

/-- Bash. -/
def bash : Language where
  identity :=
    { name := "bash"
      displayName := "Bash"
      aliases := ["sh", "shell"]
      extensions := [".sh", ".bash", ".zsh", ".ksh"]
      defaultGrammar := some "bash" }
  symbolPatterns := Bash.symbols
  referencePatterns := .ok Bash.references
  parameterNames := plainNames
  inferKind := constantsAmong "variable"

end SourceAtlas.Language
