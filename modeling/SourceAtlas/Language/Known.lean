import SourceAtlas.Language.Bash
import SourceAtlas.Language.CSharp
import SourceAtlas.Language.Cpp
import SourceAtlas.Language.Css
import SourceAtlas.Language.Elixir
import SourceAtlas.Language.Go
import SourceAtlas.Language.Haskell
import SourceAtlas.Language.Html
import SourceAtlas.Language.Java
import SourceAtlas.Language.JavaScript
import SourceAtlas.Language.Kotlin
import SourceAtlas.Language.Lua
import SourceAtlas.Language.Php
import SourceAtlas.Language.Python
import SourceAtlas.Language.Registry
import SourceAtlas.Language.Ruby
import SourceAtlas.Language.Rust
import SourceAtlas.Language.Scala
import SourceAtlas.Language.Sql
import SourceAtlas.Language.Swift

/-! The languages that are known from the start. -/

namespace SourceAtlas

/-- Dart, whose files are walked though no grammar is known for them. -/
def Language.dart : Language where
  identity :=
    { name := "dart"
      displayName := "Dart"
      extensions := [".dart"] }
  -- Lines are read in place of a tree, as for any file without a grammar.
  symbolPatterns := []
  referencePatterns := .ok []
  parameterNames := plainNames
  inferKind := asGiven

/-- The known languages in the order of registration. -/
def Language.known : List Language :=
  -- A later language takes an extension or an alias over from an earlier one.
  [Language.javaScript, Language.python, Language.go, Language.rust, Language.java, Language.ruby,
   Language.c, Language.cpp, Language.cSharp, Language.php, Language.swift, Language.kotlin,
   Language.scala, Language.lua, Language.elixir, Language.haskell, Language.bash, Language.css,
   Language.html, Language.sql, Language.dart]

/-- The registry of all known languages. -/
def Registry.known : Registry :=
  Registry.empty.registerAll Language.known

/-- A known language by its own name. -/
def Language.known? (name : String) : Option Language :=
  -- Neither aliases nor the case of letters count here.
  Language.known.find? fun language => language.identity.name == name

end SourceAtlas
