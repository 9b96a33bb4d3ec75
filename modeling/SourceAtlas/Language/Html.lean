import SourceAtlas.Language.Conventions

/-! Elements with an identifier, and the targets of scripts and links. -/

namespace SourceAtlas.Language.Html

/-- The declarations, in order of priority. -/
def symbols : List SymbolPattern :=
  -- Only elements with an identifier are declarations.
  [⟨"elementId",
    "(element (start_tag (tag_name) @tag (attribute (attribute_name) @attribute " ++
      "(quoted_attribute_value (attribute_value) @name))) (#eq? @attribute \"id\")) @def",
    "element", some (captured [("name", "name"), ("tag", "tag")]), none⟩]

/-- The imports and calls. -/
def references : List ReferencePattern :=
  [⟨"scriptSource",
    "(script_element (start_tag (attribute (attribute_name) @attribute (quoted_attribute_value " ++
      "(attribute_value) @module))) (#eq? @attribute \"src\")) @ref",
    some moduleUnquoted⟩,
   -- Other elements may have the attribute too, but do not load a file.
   ⟨"linkHref",
    "(element (start_tag (tag_name) @tag (attribute (attribute_name) @attribute " ++
      "(quoted_attribute_value (attribute_value) @module))) (#eq? @tag \"link\") (#eq? " ++
      "@attribute \"href\")) @ref",
    some moduleUnquoted⟩]

end SourceAtlas.Language.Html

namespace SourceAtlas.Language

/-- HTML. -/
def html : Language where
  identity :=
    { name := "html"
      displayName := "HTML"
      extensions := [".html", ".htm", ".xhtml", ".vue", ".svelte"]
      defaultGrammar := some "html" }
  symbolPatterns := Html.symbols
  referencePatterns := .ok Html.references
  parameterNames := plainNames
  inferKind := asGiven

end SourceAtlas.Language
