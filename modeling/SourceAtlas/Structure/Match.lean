import SourceAtlas.Assoc

/-! Structural parsers, as far as indexing uses them: trees that answer queries, and the matches of
a query, which are named captures, one of which spans the whole. -/

namespace SourceAtlas

/-- A node of a syntax tree as far as queries show it: text, rows counted from
zero, enclosing node types. -/
structure SyntaxNode where
  text : Option String
  startRow : Int
  endRow : Int
  ancestors : List String
  deriving Repr, Inhabited

/-- The nodes bound to each capture. -/
abbrev Captures := Assoc (List SyntaxNode)

/-- One match of a query, and the capture that spans it. -/
structure StructuralMatch where
  captures : Captures
  span : String

namespace StructuralMatch

/-- The first node bound to a capture. -/
def node? (found : StructuralMatch) (capture : String) : Option SyntaxNode :=
  -- A capture that is bound to no nodes counts as unbound.
  match found.captures.get? capture with
  | some (node :: _) => some node
  | _ => none

/-- The text of a capture; empty when it is unbound, and the span's when no capture is named. -/
def text (found : StructuralMatch) (capture : String) : String :=
  -- A node without text shows the empty one.
  match found.node? (if capture = "" then found.span else capture) with
  | some node => node.text.getD ""
  | none => ""

/-- The text of the span. -/
def spanText (found : StructuralMatch) : String :=
  -- The span is a capture like any other.
  found.text found.span

/-- The first line of the span, counted from one. -/
def startLine (found : StructuralMatch) : Int :=
  -- Rows are counted from zero, lines from one.
  match found.node? found.span with
  | some node => node.startRow + 1
  | none => 1

/-- The last line of the span, counted from one. -/
def endLine (found : StructuralMatch) : Int :=
  -- Without a span both lines are the first.
  match found.node? found.span with
  | some node => node.endRow + 1
  | none => found.startLine

/-- Whether the span lies inside a node of a type. -/
def within (found : StructuralMatch) (type : String) : Bool :=
  -- All enclosing nodes count, not only the nearest.
  match found.node? found.span with
  | some node => node.ancestors.contains type
  | none => false

end StructuralMatch

/-- A parsed file: what each query finds in it, or why the query fails. -/
structure SyntaxTree where
  matchesOf : (query : String) → Except String (List Captures)

/-- A parser: for a grammar and a text a tree, no tree, or a failure. -/
structure StructuralParser where
  parse : (grammar text : String) → Except String (Option SyntaxTree)

/-- A parser for which no grammar is installed. -/
def StructuralParser.bare : StructuralParser :=
  -- Parsing does not fail here; there is only no tree.
  ⟨fun _ _ => .ok none⟩

end SourceAtlas
