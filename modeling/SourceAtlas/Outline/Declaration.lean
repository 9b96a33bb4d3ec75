import SourceAtlas.Text.Blank
import SourceAtlas.Text.Utf8
import SourceAtlas.Text.Word

/-! Declarations recognised by the start of their line, for files without a syntax tree. -/

namespace SourceAtlas

/-- What follows a keyword and the blanks after it, of which there is at least one. -/
def afterKeyword? (keyword : String) (text : List Char) : Option (List Char) :=
  -- A keyword at the end of a line declares nothing.
  (dropStart? keyword.toList text).bind fun rest =>
    match rest with
    | c :: more => if isBlank c then some (more.dropWhile isBlank) else none
    | [] => none

/-- What follows a keyword and its blanks, or the same text when the keyword does not lead it. -/
def skipKeyword (keyword : String) (text : List Char) : List Char :=
  -- Marks in front of a declaration may be left out.
  (afterKeyword? keyword text).getD text

/-- A form of declaration: the keyword, the kind it declares, and what may or must
stand around the name. -/
structure DeclarationForm where
  keyword : String
  kind : String
  /-- The keyword may be marked asynchronous. -/
  mayBeAsync : Bool := false
  /-- The name must be followed by an equals sign. -/
  assigned : Bool := false

namespace DeclarationForm

/-- The forms in the order in which they are tried. -/
def all : List DeclarationForm :=
  [{ keyword := "function", kind := "function", mayBeAsync := true },
   { keyword := "class", kind := "class" },
   { keyword := "const", kind := "constant", assigned := true },
   { keyword := "interface", kind := "interface" },
   { keyword := "type", kind := "type", assigned := true }]

/-- The name that a line declares in this form. -/
def name? (form : DeclarationForm) (line : List Char) : Option (List Char) :=
  -- The marks come in this order, and each may stand once.
  let line := skipKeyword "export" line
  let line := if form.mayBeAsync then skipKeyword "async" line else line
  (afterKeyword? form.keyword line).bind fun rest =>
    let name := rest.takeWhile isWordChar
    let after := (rest.dropWhile isWordChar).dropWhile isBlank
    if name.isEmpty || (form.assigned && after.head? != some '=') then none else some name

end DeclarationForm

/-- A declaration found in a line: line number from one, name, kind and the text of the line. -/
structure DeclarationLine where
  line : Nat
  name : String
  kind : String
  text : String

/-- The declarations of one line, in the order of the forms. -/
def declarationsInLine (line : Nat) (text : List Char) : List DeclarationLine :=
  -- No two keywords lead one line, so at most one form applies.
  DeclarationForm.all.filterMap fun form =>
    (form.name? text).map fun name => ⟨line, String.ofList name, form.kind, String.ofList text⟩

/-- The declarations of a text, line by line. -/
def declarationsIn (text : String) : List DeclarationLine :=
  -- Lines are counted from one.
  ((textLines text.toList).zipIdx 1).flatMap fun (line, number) => declarationsInLine number line

end SourceAtlas
