import SourceAtlas.Proofs.Json.RoundTrip
import SourceAtlas.Proofs.Schema.Checked
import SourceAtlas.Snapshot

/-! Stored snapshots read back as they were, and what is accepted once is
accepted unchanged ever after. -/

namespace SourceAtlas

/-- What other fields are read as. -/
def rereadExtras (extras : Assoc Json) : Assoc Json :=
  Assoc.putAll [] (Json.rereadFields extras)

/-- Rereading other fields brings no new keys. -/
theorem mem_keys_rereadExtras {extras : Assoc Json} {key : String}
    (member : key ∈ (rereadExtras extras).keys) : key ∈ extras.keys := by
  -- Every key was put by one of the fields.
  rcases Assoc.mem_keys_putAll member with none | found
  · simp at none
  · simpa using found

/-- Plain fields are read back as they were. -/
theorem rereadExtras_eq_self {extras : Assoc Json} (plain : (Json.obj extras).isPlain = true) :
    rereadExtras extras = extras := by
  -- The fields are an object, and plain objects are read back as they were.
  have same := Json.reread_eq_self plain
  simpa [Json.reread, rereadExtras] using same

/-- Common fields that read back as they were stay in front of the other fields. -/
theorem reread_obj_append {core extras : Assoc Json} (same : Json.rereadFields core = core)
    (distinct : core.keys.Nodup) (apart : ∀ key ∈ extras.keys, key ∉ core.keys) :
    (Json.obj (core ++ extras)).reread = .obj (core ++ rereadExtras extras) := by
  -- The common fields are put first, and no other field meets one of their keys.
  have split : Json.rereadFields (core ++ extras) = core ++ Json.rereadFields extras := by
    rw [Json.rereadFields_eq_map, List.map_append, ← Json.rereadFields_eq_map, same,
      ← Json.rereadFields_eq_map]
  have front : Assoc.putAll [] core = core := by
    simpa using @Assoc.putAll_of_nodup Json [] core (by simpa using distinct)
  rw [Json.reread, split, Assoc.putAll_append, front]
  have rest := @Assoc.putAll_append_of_disjoint Json core (Json.rereadFields extras) []
    (by simpa using apart)
  rw [List.append_nil] at rest
  rw [rest, rereadExtras]

/-- An optional text reads back as it is. -/
@[simp] theorem Json.reread_ofText? (text : Option String) :
    (Json.ofText? text).reread = .ofText? text := by
  cases text <;> rfl

/-- An optional text is read from what it is written as. -/
@[simp] theorem FieldReader.optional_text_ofText? (text : Option String) :
    FieldReader.optional FieldReader.text (.ofText? text) = .good text := by
  cases text <;> rfl

namespace Symbol

/-- The names that only common fields of a symbol may have. -/
def reservedFields : List String :=
  ["id", "name", "kind", "file", "start_line", "end_line", "exported", "exports", "content_hash"]

/-- None of the other fields of a symbol takes the name of a common one. -/
def IsTidy (symbol : Symbol) : Prop :=
  ∀ key ∈ symbol.extras.keys, key ∉ reservedFields

/-- What a stored symbol is read as. -/
def reread (symbol : Symbol) : Symbol :=
  { symbol with extras := rereadExtras symbol.extras }

/-- Rereading keeps a symbol tidy. -/
theorem IsTidy.reread {symbol : Symbol} (tidy : symbol.IsTidy) : symbol.reread.IsTidy :=
  fun key member => tidy key (mem_keys_rereadExtras member)

/-- A symbol with plain other fields is read back as it was. -/
theorem reread_eq_self {symbol : Symbol} (plain : (Json.obj symbol.extras).isPlain = true) :
    symbol.reread = symbol := by
  simp [reread, rereadExtras_eq_self plain]

/-- Rereading a written symbol changes its other fields only. -/
theorem toJson_reread {symbol : Symbol} (tidy : symbol.IsTidy) :
    symbol.toJson.reread = symbol.reread.toJson := by
  -- The common fields are texts, integers and booleans.
  have same : Json.rereadFields symbol.coreFields = symbol.coreFields := by
    simp [coreFields, Json.rereadFields, Json.reread]
  refine reread_obj_append same (by simp [coreFields]) fun key member isCore => tidy key member ?_
  -- Every name of a common field is reserved.
  revert isCore
  simp only [coreFields, Assoc.keys_cons, Assoc.keys_nil, reservedFields, List.mem_cons]
  grind

/-- A symbol is read from what it is written as. -/
theorem read_toJson {symbol : Symbol} (tidy : symbol.IsTidy) :
    Symbol.read symbol.toJson = .good symbol := by
  -- Of the two names for the exported field, written symbols use the second.
  have field : exportedField (symbol.coreFields ++ symbol.extras) = "exported" := by
    have : "exports" ∉ symbol.extras.keys := fun member => tidy _ member (by simp [reservedFields])
    simp [exportedField, coreFields, this]
  -- Taking out the common fields leaves the others.
  have extras : (symbol.coreFields ++ symbol.extras).filter
      (fun entry => !(takenFields (symbol.coreFields ++ symbol.extras)).contains entry.1)
        = symbol.extras := by
    simp only [takenFields, field, List.filter_append]
    have front : symbol.coreFields.filter (fun entry =>
        !(["id", "name", "kind", "file", "start_line", "end_line", "exported",
          "content_hash"] : List String).contains entry.1) = [] := by
      simp [coreFields]
    rw [front, List.nil_append, List.filter_eq_self]
    intro entry member
    have apart := tidy entry.1 (Assoc.mem_keys_of_mem member)
    simp only [reservedFields, List.mem_cons, not_or] at apart
    simp [apart]
  simp only [read, toJson, FieldReader.record, field, extras]
  simp [requiredField, defaultField, coreFields, FieldReader.text, FieldReader.integer,
    FieldReader.boolean]

end Symbol

namespace Reference

/-- None of the other fields of a reference takes the name of a common one. -/
def IsTidy (reference : Reference) : Prop :=
  ∀ key ∈ reference.extras.keys, key ∉ takenFields

/-- What a stored reference is read as. -/
def reread (reference : Reference) : Reference :=
  { reference with extras := rereadExtras reference.extras }

/-- Rereading keeps a reference tidy. -/
theorem IsTidy.reread {reference : Reference} (tidy : reference.IsTidy) : reference.reread.IsTidy :=
  fun key member => tidy key (mem_keys_rereadExtras member)

/-- A reference with plain other fields is read back as it was. -/
theorem reread_eq_self {reference : Reference}
    (plain : (Json.obj reference.extras).isPlain = true) : reference.reread = reference := by
  simp [reread, rereadExtras_eq_self plain]

/-- Rereading a written reference changes its other fields only. -/
theorem toJson_reread {reference : Reference} (tidy : reference.IsTidy) :
    reference.toJson.reread = reference.reread.toJson := by
  -- The common fields are texts and integers.
  have same : Json.rereadFields reference.coreFields = reference.coreFields := by
    simp [coreFields, Json.rereadFields, Json.reread]
  refine reread_obj_append same (by simp [coreFields]) fun key member isCore => tidy key member ?_
  simpa [coreFields, takenFields] using isCore

/-- A reference is read from what it is written as. -/
theorem read_toJson {reference : Reference} (tidy : reference.IsTidy) :
    Reference.read reference.toJson = .good reference := by
  -- Taking out the common fields leaves the others.
  have extras : (reference.coreFields ++ reference.extras).filter
      (fun entry => !takenFields.contains entry.1) = reference.extras := by
    have front : reference.coreFields.filter (fun entry => !takenFields.contains entry.1) = [] := by
      simp [coreFields, takenFields]
    rw [List.filter_append, front, List.nil_append, List.filter_eq_self]
    intro entry member
    simpa using tidy entry.1 (Assoc.mem_keys_of_mem member)
  simp only [read, toJson, fields, FieldReader.record, readDetails, extras]
  simp [requiredField, defaultField, coreFields, FieldReader.text, FieldReader.integer]

end Reference

/-- The counts are read from what they are written as. -/
theorem ScanStats.read_toJson (stats : ScanStats) : ScanStats.read stats.toJson = .good stats := by
  -- Whether the scan was structural may be unknown.
  obtain ⟨files, symbols, references, structural⟩ := stats
  cases structural <;>
    simp [read, toJson, FieldReader.record, defaultField, FieldReader.integer, FieldReader.optional,
      FieldReader.boolean]

/-- The counts are written in a form that reads back as it is. -/
theorem ScanStats.toJson_reread (stats : ScanStats) : stats.toJson.reread = stats.toJson := by
  -- The counts are integers, under distinct names.
  obtain ⟨files, symbols, references, structural⟩ := stats
  refine Json.reread_eq_self (Json.isPlain_obj_iff.mpr ⟨by simp, ?_⟩)
  cases structural <;>
    simp [Json.isPlain, Json.keysDistinct, Json.floatFree, Json.isWhole, Json.everyLeaf,
      Json.isDouble, Json.isTorn]

namespace Snapshot

/-- No symbol or reference has a field in the name of a common one, and every
file has one fingerprint. -/
structure IsTidy (snapshot : Snapshot) : Prop where
  symbols : ∀ symbol ∈ snapshot.symbols, symbol.IsTidy
  references : ∀ reference ∈ snapshot.references, reference.IsTidy
  fileHashes : snapshot.fileHashes.keys.Nodup

/-- What a stored snapshot is read as. -/
def reread (snapshot : Snapshot) : Snapshot :=
  { snapshot with
    symbols := snapshot.symbols.map Symbol.reread
    references := snapshot.references.map Reference.reread }

/-- Rereading keeps a snapshot tidy. -/
theorem IsTidy.reread {snapshot : Snapshot} (tidy : snapshot.IsTidy) : snapshot.reread.IsTidy where
  symbols := by
    intro symbol member
    obtain ⟨old, inside, rfl⟩ := List.mem_map.mp member
    exact (tidy.symbols old inside).reread
  references := by
    intro reference member
    obtain ⟨old, inside, rfl⟩ := List.mem_map.mp member
    exact (tidy.references old inside).reread
  fileHashes := tidy.fileHashes

/-- The extra fields of a snapshot are stored and read without any change. -/
structure IsPlain (snapshot : Snapshot) : Prop where
  symbols : ∀ symbol ∈ snapshot.symbols, (Json.obj symbol.extras).isPlain = true
  references : ∀ reference ∈ snapshot.references, (Json.obj reference.extras).isPlain = true

/-- A plain snapshot is read back as it was. -/
theorem reread_eq_self {snapshot : Snapshot} (plain : snapshot.IsPlain) :
    snapshot.reread = snapshot := by
  -- So are its symbols and its references, one by one.
  have symbols : snapshot.symbols.map Symbol.reread = snapshot.symbols :=
    (List.map_congr_left (g := id) fun symbol member =>
      Symbol.reread_eq_self (plain.symbols symbol member)).trans (List.map_id _)
  have references : snapshot.references.map Reference.reread = snapshot.references :=
    (List.map_congr_left (g := id) fun reference member =>
      Reference.reread_eq_self (plain.references reference member)).trans (List.map_id _)
  simp [reread, symbols, references]

/-- Rereading a written snapshot changes the other fields of its symbols and references only. -/
theorem toJson_reread {snapshot : Snapshot} (tidy : snapshot.IsTidy) :
    snapshot.toJson.reread = snapshot.reread.toJson := by
  -- Symbols and references are written one by one, and each is told by its own lemma.
  have symbols : (snapshot.symbols.map Symbol.toJson).map Json.reread
      = (snapshot.symbols.map Symbol.reread).map Symbol.toJson := by
    simp only [List.map_map]
    exact List.map_congr_left fun symbol member => Symbol.toJson_reread (tidy.symbols symbol member)
  have references : (snapshot.references.map Reference.toJson).map Json.reread
      = (snapshot.references.map Reference.reread).map Reference.toJson := by
    simp only [List.map_map]
    exact List.map_congr_left fun reference member =>
      Reference.toJson_reread (tidy.references reference member)
  -- Fingerprints are texts under distinct names, which is plain.
  have hashes : (Json.obj (snapshot.fileHashes.map fun entry => (entry.1, .str entry.2))).reread
      = .obj (snapshot.fileHashes.map fun entry => (entry.1, .str entry.2)) := by
    refine Json.reread_eq_self (Json.isPlain_obj_iff.mpr ⟨?_, ?_⟩)
    · simpa [Assoc.keys, Function.comp_def] using tidy.fileHashes
    · intro entry member
      obtain ⟨old, _, rfl⟩ := List.mem_map.mp member
      rfl
  simp only [toJson, Json.reread, Json.rereadFields, Json.rereadItems_eq_map, symbols, references]
  rw [Json.reread] at hashes
  rw [hashes, ScanStats.toJson_reread]
  rfl

/-- A snapshot is read from what it is written as. -/
theorem read_toJson {snapshot : Snapshot} (tidy : snapshot.IsTidy) :
    Snapshot.read snapshot.toJson = .good snapshot := by
  -- The two lists, the fingerprints and the counts are read one after the other.
  have symbols := FieldReader.items_map
    (fun symbol member => Symbol.read_toJson (tidy.symbols symbol member)) 0
  have references := FieldReader.items_map
    (fun reference member => Reference.read_toJson (tidy.references reference member)) 0
  have hashes : FieldReader.entries FieldReader.text
      (snapshot.fileHashes.map fun entry => (entry.1, .str entry.2)) = .good snapshot.fileHashes :=
    @FieldReader.entries_map String FieldReader.text .str (fun _ => rfl) snapshot.fileHashes
  simp [read, toJson, FieldReader.record, defaultField, FieldReader.array, FieldReader.mapping,
    symbols, references, hashes, ScanStats.read_toJson]

/-- The stored text of a tidy snapshot without oversized integers holds the
snapshot that rereading says. -/
theorem parse_render {snapshot : Snapshot} (tidy : snapshot.IsTidy)
    (fits : snapshot.toJson.fitsDigits = true) :
    ∃ value, Json.parseExact snapshot.render = .ok value ∧
      Snapshot.read value = .good snapshot.reread :=
  ⟨snapshot.toJson.reread, Json.parseExact_render fits,
    by rw [toJson_reread tidy, read_toJson tidy.reread]⟩

/-- Only a snapshot without oversized integers has a stored text that can be read. -/
theorem fitsDigits_of_parse {snapshot : Snapshot} {value : Json}
    (parsed : Json.parseExact snapshot.render = .ok value) : snapshot.toJson.fitsDigits = true := by
  -- With an oversized integer in it, the text would not have been read.
  by_cases fits : snapshot.toJson.fitsDigits = true
  · exact fits
  · obtain ⟨error, failed⟩ := Json.parseExact_render_oversized (by simpa using fits)
    rw [render, failed] at parsed
    cases parsed

end Snapshot

/-- The fields of a well-formed object are well-formed. -/
theorem Json.keysDistinct_of_field? {value field : Json} {key : String}
    (distinct : value.keysDistinct = true) (found : value.field? key = some field) :
    field.keysDistinct = true := by
  -- Only objects have fields.
  cases value with
  | obj fields =>
    simp only [Json.keysDistinct, Bool.and_eq_true, Json.keysDistinctFields_iff] at distinct
    exact distinct.2 _ (Assoc.mem_of_get?_eq_some found)
  | _ => simp [Json.field?] at found

/-- The other fields of a symbol are those of its object that it does not take. -/
theorem Symbol.extras_of_read {value : Json} {symbol : Symbol}
    (accepted : Symbol.read value = .good symbol) :
    ∃ fields, value = .obj fields ∧
      symbol.extras = fields.filter fun entry => !(takenFields fields).contains entry.1 := by
  -- Only an object is read as a symbol.
  obtain ⟨fields, rfl, parts⟩ := FieldReader.record_eq_good_iff.mp accepted
  simp only [Checked.seq_eq_good_iff, Checked.map_eq_good_iff] at parts
  -- The eight common fields are read in turn and the rest is kept.
  obtain ⟨_, _,
    ⟨_, _, ⟨_, _, ⟨_, _, ⟨_, _, ⟨_, _, ⟨_, _, ⟨_, _, rfl⟩, _, rfl⟩, _, rfl⟩, _, rfl⟩, _, rfl⟩,
    _, rfl⟩, _, rfl⟩, _, rfl⟩ := parts
  exact ⟨fields, rfl, rfl⟩

/-- A symbol read from an object that gives the exported field one name only is tidy. -/
theorem Symbol.isTidy_of_read {fields : Assoc Json} {symbol : Symbol}
    (accepted : Symbol.read (.obj fields) = .good symbol)
    (single : ¬ (fields.has "exports" = true ∧ fields.has "exported" = true)) : symbol.IsTidy := by
  -- A key of the other fields is one that was not taken.
  obtain ⟨_, ⟨⟩, isExtras⟩ := Symbol.extras_of_read accepted
  intro key member
  simp only [isExtras, Assoc.keys, List.mem_map, List.mem_filter] at member
  obtain ⟨entry, ⟨inside, free⟩, rfl⟩ := member
  have present := Assoc.mem_keys_of_mem inside
  simp only [Assoc.has_iff] at single
  simp only [takenFields, exportedField, Bool.not_eq_true', List.contains_eq_mem, List.mem_cons,
    decide_eq_false_iff_not, not_or] at free
  simp only [reservedFields, List.mem_cons, not_or]
  -- The symbol takes one of the two names for the exported field, and the object
  -- does not have the other.
  by_cases renamed : "exports" ∈ Assoc.keys fields
  · have other : entry.1 ≠ "exported" := fun same => single ⟨renamed, same ▸ present⟩
    simp only [Assoc.has_iff.mpr renamed, if_true] at free
    grind
  · have other : entry.1 ≠ "exports" := fun same => renamed (same ▸ present)
    simp only [Assoc.has_eq_false.mpr renamed, Bool.false_eq_true, if_false] at free
    grind

/-- The other fields of a reference are those of its object that it does not take. -/
theorem Reference.extras_of_read {value : Json} {reference : Reference}
    (accepted : Reference.read value = .good reference) :
    ∃ fields, value = .obj fields ∧
      reference.extras = fields.filter fun entry => !takenFields.contains entry.1 := by
  -- The common fields are read in turn and the rest is kept.
  obtain ⟨fields, rfl, parts⟩ := FieldReader.record_eq_good_iff.mp accepted
  simp only [readDetails, Checked.seq_eq_good_iff, Checked.map_eq_good_iff] at parts
  obtain ⟨_, _, ⟨_, _, ⟨_, _, ⟨_, _, rfl⟩, _, rfl⟩, _, rfl⟩, ⟨_, _, ⟨_, _, rfl⟩, _, rfl⟩, rfl⟩ :=
    parts
  exact ⟨fields, rfl, rfl⟩

/-- A reference that has been read is tidy. -/
theorem Reference.isTidy_of_read {value : Json} {reference : Reference}
    (accepted : Reference.read value = .good reference) : reference.IsTidy := by
  -- A key of the other fields is one that was not taken.
  obtain ⟨fields, rfl, isExtras⟩ := Reference.extras_of_read accepted
  intro key member
  simp only [isExtras, Assoc.keys, List.mem_map, List.mem_filter] at member
  obtain ⟨entry, ⟨_, free⟩, rfl⟩ := member
  simpa using free

/-- The items of an array that is a field of an object. -/
def Json.itemsAt (value : Json) (key : String) : List Json :=
  match value.field? key with
  | some (.arr items) => items
  | _ => []

/-- Whatever is read from an array that may be left out is read from one of its items. -/
private theorem exists_of_mem_defaultField {α : Type} {fields : Assoc Json} {key : String}
    {read : FieldReader α} {results : List α}
    (accepted : defaultField fields key (FieldReader.array read) [] = .good results) {x : α}
    (member : x ∈ results) : ∃ item ∈ (Json.obj fields).itemsAt key, read item = .good x := by
  -- An array that is left out gives nothing to be read.
  rcases defaultField_eq_good_iff.mp accepted with ⟨listed, found, isRead⟩ | ⟨_, rfl⟩
  · obtain ⟨items, rfl, readItems⟩ := FieldReader.array_eq_good_iff.mp isRead
    simpa [Json.itemsAt, Json.field?, found] using FieldReader.exists_of_mem_items readItems member
  · simp at member

namespace Snapshot

/-- Every symbol, every reference and the fingerprints of a snapshot come from
the fields of an object. -/
theorem sources_of_read {value : Json} {snapshot : Snapshot}
    (accepted : Snapshot.read value = .good snapshot) :
    (∀ symbol ∈ snapshot.symbols, ∃ item ∈ value.itemsAt "symbols",
      Symbol.read item = .good symbol) ∧
    (∀ reference ∈ snapshot.references,
      ∃ item ∈ value.itemsAt "references", Reference.read item = .good reference) ∧
    (snapshot.fileHashes = [] ∨ ∃ fields, value.field? "file_hashes" = some (.obj fields) ∧
      snapshot.fileHashes.keys = Assoc.keys fields) := by
  obtain ⟨fields, rfl, parts⟩ := FieldReader.record_eq_good_iff.mp accepted
  simp only [Checked.seq_eq_good_iff, Checked.map_eq_good_iff] at parts
  -- The fields are read one after the other, so the first of them stands innermost.
  obtain ⟨_, stats, ⟨_, hashes, ⟨_, references, ⟨symbols, readSymbols, rfl⟩, readReferences, rfl⟩,
    readHashes, rfl⟩, _, rfl⟩ := parts
  refine ⟨fun symbol member => exists_of_mem_defaultField readSymbols member,
    fun reference member => exists_of_mem_defaultField readReferences member, ?_⟩
  rcases defaultField_eq_good_iff.mp readHashes with ⟨listed, found, read⟩ | ⟨_, rfl⟩
  · obtain ⟨entries, rfl, readEntries⟩ := FieldReader.mapping_eq_good_iff.mp read
    exact .inr ⟨entries, found, FieldReader.keys_of_entries readEntries⟩
  · exact .inl rfl

/-- What is accepted where null stands for an empty snapshot is empty or accepted as it stands. -/
theorem coerce_eq_good_iff {value : Json} {snapshot : Snapshot} :
    coerce value = .good snapshot ↔
      (value = .null ∧ snapshot = {}) ∨ (value ≠ .null ∧ read value = .good snapshot) := by
  cases value <;> simp [coerce, eq_comm]

/-- Whatever is accepted as it stands is accepted where null stands for an empty snapshot. -/
theorem coerce_of_read {value : Json} {snapshot : Snapshot}
    (accepted : read value = .good snapshot) : coerce value = .good snapshot := by
  -- Null itself is not accepted.
  refine coerce_eq_good_iff.mpr (.inr ⟨?_, accepted⟩)
  rintro rfl
  obtain ⟨_, ⟨⟩, _⟩ := FieldReader.record_eq_good_iff.mp accepted

/-- What the stored text of a tidy snapshot is accepted as is the snapshot that rereading says. -/
theorem eq_reread_of_parse {snapshot previous : Snapshot} {value : Json} (tidy : snapshot.IsTidy)
    (parsed : Json.parseExact snapshot.render = .ok value)
    (accepted : coerce value = .good previous) : previous = snapshot.reread := by
  -- The text has one value, and that value is accepted in one way.
  obtain ⟨stored, parsed', read⟩ := parse_render tidy (fitsDigits_of_parse parsed)
  cases parsed.symm.trans parsed'
  simpa using accepted.symm.trans (coerce_of_read read)

/-- An accepted snapshot has at most one fingerprint of a file. -/
theorem nodup_fileHashes_of_coerce {value : Json} {snapshot : Snapshot}
    (distinct : value.keysDistinct = true) (accepted : coerce value = .good snapshot) :
    snapshot.fileHashes.keys.Nodup := by
  -- The fingerprints are the fields of an object, whose keys are distinct.
  rcases coerce_eq_good_iff.mp accepted with ⟨_, rfl⟩ | ⟨_, accepted⟩
  · simp
  obtain ⟨_, _, hashes⟩ := sources_of_read accepted
  rcases hashes with empty | ⟨fields, found, same⟩
  · simp [empty]
  · have inner := Json.keysDistinct_of_field? distinct found
    simp only [Json.keysDistinct, Bool.and_eq_true, decide_eq_true_eq] at inner
    exact same ▸ inner.1

/-- An accepted snapshot is tidy when no symbol gives the exported field both of its names. -/
theorem isTidy_of_coerce {value : Json} {snapshot : Snapshot} (distinct : value.keysDistinct = true)
    (accepted : coerce value = .good snapshot)
    (single : ∀ fields, .obj fields ∈ value.itemsAt "symbols" →
      ¬ (Assoc.has fields "exports" = true ∧ Assoc.has fields "exported" = true)) :
    snapshot.IsTidy := by
  -- Null stands for a snapshot in which there is nothing.
  have hashes := nodup_fileHashes_of_coerce distinct accepted
  rcases coerce_eq_good_iff.mp accepted with ⟨_, rfl⟩ | ⟨_, accepted⟩
  · exact ⟨by simp, by simp, hashes⟩
  -- Each part is tidy for what it was read from.
  obtain ⟨symbols, references, _⟩ := sources_of_read accepted
  refine ⟨fun symbol member => ?_, fun reference member => ?_, hashes⟩
  · obtain ⟨item, listed, read⟩ := symbols symbol member
    obtain ⟨fields, rfl, _⟩ := Symbol.extras_of_read read
    exact Symbol.isTidy_of_read read (single fields listed)
  · obtain ⟨item, _, read⟩ := references reference member
    exact Reference.isTidy_of_read read

/-- Fields that can all be written hold no torn text. -/
theorem isWhole_of_isWritable {extras : Assoc Json}
    (writable : extras.all (fun extra => extra.2.isWritable) = true) :
    (Json.obj extras).isWhole = true := by
  -- A field that can be written is whole.
  rw [Json.isWhole, Json.everyLeaf, Json.everyLeafOfFields_iff]
  intro entry member
  have held := List.all_eq_true.mp writable entry member
  simp only [Json.isWritable, Bool.and_eq_true] at held
  exact held.2

/-- The other fields of a snapshot have keys of their own and hold no doubles. -/
structure IsExact (snapshot : Snapshot) : Prop where
  symbols : ∀ symbol ∈ snapshot.symbols,
    (Json.obj symbol.extras).keysDistinct = true ∧ (Json.obj symbol.extras).floatFree = true
  references : ∀ reference ∈ snapshot.references,
    (Json.obj reference.extras).keysDistinct = true ∧ (Json.obj reference.extras).floatFree = true

/-- Such a snapshot is stored and read without any change if it can be written. -/
theorem IsExact.isPlain {snapshot : Snapshot} (isExact : snapshot.IsExact)
    (writable : snapshot.isWritable = true) : snapshot.IsPlain := by
  -- What can be written is whole, and that is all that was missing.
  simp only [isWritable, Bool.and_eq_true, List.all_eq_true] at writable
  refine ⟨fun symbol member => ?_, fun reference member => ?_⟩
  · obtain ⟨keys, noDouble⟩ := isExact.symbols symbol member
    have whole := isWhole_of_isWritable (List.all_eq_true.mpr (writable.1 symbol member))
    rw [Json.isPlain, keys, noDouble, whole]
    rfl
  · obtain ⟨keys, noDouble⟩ := isExact.references reference member
    have whole := isWhole_of_isWritable (List.all_eq_true.mpr (writable.2 reference member))
    rw [Json.isPlain, keys, noDouble, whole]
    rfl

end Snapshot

end SourceAtlas
