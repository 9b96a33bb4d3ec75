import SourceAtlas.Schema.Checked

/-! Symbols: named declarations with the place where they stand. -/

namespace SourceAtlas

/-- A declaration found in a file. -/
structure Symbol where
  id : String
  name : String
  kind : String
  file : String
  /-- The first line, counted from one. -/
  startLine : Int
  endLine : Int
  exported : Bool
  /-- The fingerprint of the declaration's text. -/
  contentHash : Option String
  /-- What else is known, in order. -/
  extras : Assoc Json := []

namespace Symbol

/-- The identifier of a name in a file. -/
def makeId (file name : String) : String :=
  -- Two declarations of one name in a file share their identifier.
  file ++ ":" ++ name

/-- The fields that every symbol has, as they are written. -/
def coreFields (symbol : Symbol) : Assoc Json :=
  -- A fingerprint that is not known is written as null.
  [("id", .str symbol.id), ("name", .str symbol.name), ("kind", .str symbol.kind),
    ("file", .str symbol.file), ("start_line", .int symbol.startLine),
    ("end_line", .int symbol.endLine),
    ("exported", .bool symbol.exported), ("content_hash", .ofText? symbol.contentHash)]

/-- A symbol as it is written: the common fields, then the others. -/
def toJson (symbol : Symbol) : Json :=
  -- An extra with the name of a common field would be written beside it.
  .obj (symbol.coreFields ++ symbol.extras)

/-- The fields of a symbol by name; where another field has a common name,
it hides the common one. -/
def fields (symbol : Symbol) : Assoc Json :=
  -- Fields that are put again keep their place.
  Assoc.putAll symbol.coreFields symbol.extras

/-- A symbol with another field put. -/
def withExtra (symbol : Symbol) (key : String) (value : Json) : Symbol :=
  -- A field that is there already is put anew in its place.
  { symbol with extras := symbol.extras.put key value }

/-- The field that says whether a symbol is exported has two names, of
which the first one counts. -/
def exportedField (fields : Assoc Json) : String :=
  -- The second name counts only where the first is left out.
  if fields.has "exports" then "exports" else "exported"

/-- The names of the fields that are no extras. -/
def takenFields (fields : Assoc Json) : List String :=
  -- Where both names are given, the second is an extra.
  ["id", "name", "kind", "file", "start_line", "end_line", exportedField fields, "content_hash"]

/-- Reads a symbol. -/
def read : FieldReader Symbol :=
  -- Everything that has no field of its own is kept as it is.
  FieldReader.record fun fields =>
    (fun id name kind file startLine endLine exported contentHash =>
      { id, name, kind, file, startLine, endLine, exported, contentHash
        extras := fields.filter fun entry => !(takenFields fields).contains entry.1 })
    <$> requiredField fields "id" FieldReader.text
    <*> requiredField fields "name" FieldReader.text
    <*> requiredField fields "kind" FieldReader.text
    <*> requiredField fields "file" FieldReader.text
    <*> requiredField fields "start_line" FieldReader.integer
    <*> requiredField fields "end_line" FieldReader.integer
    <*> defaultField fields (exportedField fields) FieldReader.boolean false
    <*> defaultField fields "content_hash" (FieldReader.optional FieldReader.text) none

end Symbol

end SourceAtlas
