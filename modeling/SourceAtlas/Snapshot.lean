import SourceAtlas.Json.Printer
import SourceAtlas.Reference
import SourceAtlas.Symbol

/-! Snapshots: everything that one scan of a source tree found. -/

namespace SourceAtlas

/-- The counts of one scan. -/
structure ScanStats where
  totalFiles : Int := 0
  totalSymbols : Int := 0
  totalReferences : Int := 0
  /-- Whether a structural parser was there, if that is known. -/
  usingStructural : Option Bool := none

namespace ScanStats

/-- The counts as they are written. -/
def toJson (stats : ScanStats) : Json :=
  -- Whether there was a parser is null when it is not known.
  .obj [("total_files", .int stats.totalFiles), ("total_symbols", .int stats.totalSymbols),
    ("total_references", .int stats.totalReferences),
    ("using_structural", match stats.usingStructural with
      | some value => .bool value
      | none => .null)]

/-- Reads the counts. -/
def read : FieldReader ScanStats :=
  -- All counts may be left out.
  FieldReader.record fun fields =>
    ScanStats.mk
    <$> defaultField fields "total_files" FieldReader.integer 0
    <*> defaultField fields "total_symbols" FieldReader.integer 0
    <*> defaultField fields "total_references" FieldReader.integer 0
    <*> defaultField fields "using_structural" (FieldReader.optional FieldReader.boolean) none

end ScanStats

/-- The result of a scan: symbols, references, and the fingerprint of every file that was read. -/
structure Snapshot where
  symbols : List Symbol := []
  references : List Reference := []
  fileHashes : Assoc String := []
  stats : ScanStats := {}

namespace Snapshot

/-- A snapshot as it is written. -/
def toJson (snapshot : Snapshot) : Json :=
  -- The fingerprints keep the order in which the files were read.
  .obj [("symbols", .arr (snapshot.symbols.map Symbol.toJson)),
    ("references", .arr (snapshot.references.map Reference.toJson)),
    ("file_hashes", .obj (snapshot.fileHashes.map fun entry => (entry.1, .str entry.2))),
    ("stats", snapshot.stats.toJson)]

/-- Whether a snapshot can be written: every extra of its symbols and references can be. -/
def isWritable (snapshot : Snapshot) : Bool :=
  -- The other fields are texts, integers and booleans, which can always be written.
  snapshot.symbols.all (fun symbol => symbol.extras.all fun extra => extra.2.isWritable) &&
    snapshot.references.all fun reference => reference.extras.all fun extra => extra.2.isWritable

/-- The text of a stored snapshot. -/
def render (snapshot : Snapshot) : String :=
  -- Stored files have the one style.
  snapshot.toJson.render JsonStyle.stored

/-- Reads a snapshot. -/
def read : FieldReader Snapshot :=
  -- An empty record is an empty snapshot.
  FieldReader.record fun fields =>
    Snapshot.mk
    <$> defaultField fields "symbols" (FieldReader.array Symbol.read) []
    <*> defaultField fields "references" (FieldReader.array Reference.read) []
    <*> defaultField fields "file_hashes" (FieldReader.mapping FieldReader.text) []
    <*> defaultField fields "stats" ScanStats.read {}

/-- Reads a snapshot where null stands for an empty one. -/
def coerce : FieldReader Snapshot
  -- Nothing else that is no record stands for a snapshot.
  | .null => .good {}
  | value => read value

end Snapshot

end SourceAtlas
