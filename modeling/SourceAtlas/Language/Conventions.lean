import SourceAtlas.Language.Basic
import SourceAtlas.Language.Parameters
import SourceAtlas.Text.Word

/-! Extractors, parameter rules and naming rules that several languages share. -/

namespace SourceAtlas.Language

/-- A rule on characters applied to strings. -/
def onText (rule : List Char → List (List Char)) (text : String) : List String :=
  -- Rules work on characters, and what callers see are strings.
  (rule text.toList).map String.ofList

/-- The parameters of a list as strings. -/
def splitList (text : String) : List String :=
  onText splitParameters text

/-- The parameter names of a list, annotations and defaults dropped. -/
def plainNames (text : String) : List String :=
  onText plainParameterNames text

/-- The name that a rule finds in each parameter, where it finds one. -/
def namesBy (rule : List Char → Option (List Char)) (text : String) : List String :=
  -- A parameter in which no name is found is left out.
  ((splitParameters text.toList).filterMap rule).map String.ofList

/-- The last word before a mark, in lists whose types follow the names. -/
def lastWordBefore (mark : Char) (parameter : List Char) : Option (List Char) :=
  -- Labels and modifiers stand before the name.
  (blankWords (beforeFirst mark parameter)).getLast?

/-- The names in lists of labels and types: the last word before the colon. -/
def namesBeforeColon : String → List String :=
  namesBy (lastWordBefore ':')

/-- Text without surrounding blanks and quotation marks. -/
def unquoted (text : String) : String :=
  String.ofList (unquote text.toList)

/-- Whether a character is an ASCII capital. -/
def isCapital (c : Char) : Bool :=
  'A' ≤ c && c ≤ 'Z'

/-- Whether a name is written in capitals, digits and underscores; a line feed may follow it. -/
def isConstantName (name : String) : Bool :=
  let chars := name.toList
  -- A pattern for the whole name lets one line feed pass.
  let body := if chars.getLast? == some '\n' then chars.dropLast else chars
  match body with
  | [] => false
  -- The first character may be no digit.
  | c :: rest => (isCapital c || c == '_') && rest.all fun c => isCapital c || c.isDigit || c == '_'

/-- Whether a name starts with an ASCII capital. -/
def startsCapital (name : String) : Bool :=
  match name.toList with
  | [] => false
  | c :: _ => isCapital c

/-- Names in capitals of one kind are constants. -/
def constantsAmong (kind : String) (name given : String) : String :=
  -- Names of other kinds keep their kind, however they are written.
  if given == kind && isConstantName name then "constant" else given

/-- Kinds as they are given. -/
def asGiven (_name given : String) : String := given

/-- Fields that hold the texts of captures. -/
def captured (fields : List (String × String)) : Extractor := fun found =>
  -- A capture that is missing has an empty text.
  .ok (fields.map fun (field, capture) => (field, .str (found.text capture)))

/-- An extractor followed by more fields. -/
def withFields (first : Extractor) (more : StructuralMatch → Assoc Json) : Extractor := fun found =>
  -- Where the first fails, there are no fields at all.
  (first found).map fun fields => fields ++ more found

/-- The name. -/
def named : Extractor := captured [("name", "name")]

/-- The name and the parameter names. -/
def namedWithParameters (names : String → List String) : Extractor :=
  withFields named fun found => [("params", .strings (names (found.text "params")))]

/-- The callee and its arguments. -/
def called : Extractor := captured [("func", "func"), ("args", "args")]

/-- The callee alone. -/
def callee : Extractor := captured [("func", "func")]

/-- The module as it is written. -/
def moduleText : Extractor := captured [("module", "module")]

/-- The module without quotation marks. -/
def moduleUnquoted : Extractor := fun found =>
  .ok [("module", .str (unquoted (found.text "module")))]

/-- A mark that a declaration is asynchronous, if its text says so first. -/
def asyncMark (found : StructuralMatch) : Assoc Json :=
  -- The word need not end there.
  if found.spanText.startsWith "async" then [("async", .bool true)] else []

end SourceAtlas.Language
