import SourceAtlas.Schema.Checked

/-! References: imports and calls with the line where they stand. -/

namespace SourceAtlas

/-- An import or a call found in a file. -/
structure Reference where
  type : String
  file : String
  line : Int
  module : Option String := none
  func : Option String := none
  /-- What else is known, in order. -/
  extras : Assoc Json := []

namespace Reference

/-- The fields that every reference has, as they are written. -/
def coreFields (reference : Reference) : Assoc Json :=
  -- A field without a value is written as null.
  [("type", .str reference.type), ("file", .str reference.file), ("line", .int reference.line),
    ("module", .ofText? reference.module), ("func", .ofText? reference.func)]

/-- The fields of a reference: the common ones, then the others. -/
def fields (reference : Reference) : Assoc Json :=
  -- The others stand behind, so that a reader finds the common ones first.
  reference.coreFields ++ reference.extras

/-- A reference as it is written. -/
def toJson (reference : Reference) : Json :=
  -- An extra with the name of a common field would be written beside it.
  .obj reference.fields

/-- The names of the fields that are no extras. -/
def takenFields : List String :=
  ["type", "file", "line", "module", "func"]

/-- Reads the optional fields of a reference whose type, file and line are known. -/
def readDetails (type file : String) (line : Int) (fields : Assoc Json) : Checked Reference :=
  -- Everything that has no field of its own is kept as it is.
  (fun module func =>
    { type, file, line, module, func
      extras := fields.filter fun entry => !takenFields.contains entry.1 })
  <$> defaultField fields "module" (FieldReader.optional FieldReader.text) none
  <*> defaultField fields "func" (FieldReader.optional FieldReader.text) none

/-- Reads a reference. -/
def read : FieldReader Reference :=
  -- The details come last, so that faults are named in the order of the fields.
  FieldReader.record fun fields =>
    (fun type file line details => { details with type, file, line })
    <$> requiredField fields "type" FieldReader.text
    <*> requiredField fields "file" FieldReader.text
    <*> requiredField fields "line" FieldReader.integer
    <*> readDetails "" "" 0 fields

end Reference

end SourceAtlas
