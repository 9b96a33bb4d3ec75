import SourceAtlas.Proofs.Index.Files
import SourceAtlas.Proofs.Index.Pieces
import SourceAtlas.Proofs.Index.Refresh

/-! The texts of a source tree determine the symbols and fingerprints of its
scans and refreshes alike. -/

namespace SourceAtlas

namespace Indexer

/-- The texts of some files, by the names of the files; files that cannot be read have none. -/
def textsOf (project : Folder) (root : List String) (files : List (List String)) : Assoc String :=
  files.filterMap fun path =>
    (project.textAt? (root ++ path)).map fun content => (joinPath path, content)

/-- The texts that a scan reads. -/
def texts (indexer : Indexer) (project : Folder) (root : List String) : Assoc String :=
  textsOf project root (indexer.sourceFiles project root)

/-- The names of texts are names of their files, in order. -/
theorem keys_textsOf_sublist (project : Folder) (root : List String) (files : List (List String)) :
    (textsOf project root files).keys.Sublist (files.map joinPath) := by
  -- A file that cannot be read is left out.
  induction files with
  | nil => simp [textsOf]
  | cons path files ih =>
    simp only [textsOf, List.filterMap_cons, List.map_cons] at ih ⊢
    cases project.textAt? (root ++ path) with
    | none => exact ih.cons _
    | some content => exact ih.cons_cons _

/-- The texts of two lists of files, one after the other. -/
theorem textsOf_append (project : Folder) (root : List String) (files others : List (List String)) :
    textsOf project root (files ++ others)
      = textsOf project root files ++ textsOf project root others :=
  List.filterMap_append

/-- A text of some files is the text of one of them. -/
theorem mem_textsOf_iff {project : Folder} {root : List String} {files : List (List String)}
    {text : String × String} : text ∈ textsOf project root files ↔
      ∃ path ∈ files, project.textAt? (root ++ path) = some text.2 ∧ joinPath path = text.1 := by
  -- Every text comes from a file that can be read.
  simp only [textsOf, List.mem_filterMap, Option.map_eq_some_iff]
  constructor
  · rintro ⟨path, listed, content, read, rfl⟩
    exact ⟨path, listed, read, rfl⟩
  · rintro ⟨path, listed, read, named⟩
    exact ⟨path, listed, text.2, read, by rw [named]⟩

/-- No text of some has the name of a file, or a name that goes on from it with a colon. -/
def NamedApart (texts : Assoc String) (file : String) : Prop :=
  ∀ text ∈ texts, text.1 ≠ file ∧ ∀ rest, text.1.toList ≠ file.toList ++ ':' :: rest

/-- A file whose name is apart from those of some texts is none of theirs. -/
theorem NamedApart.not_mem_keys {texts : Assoc String} {file : String}
    (apart : NamedApart texts file) : file ∉ texts.keys := by
  -- A text of the file would have its name.
  intro member
  obtain ⟨text, listed, isFile⟩ := List.mem_map.mp member
  exact (apart text listed).1 isFile

end Indexer

/-- A draft holds the symbols and the fingerprints of some texts. -/
structure Draft.Shows (indexer : Indexer) (texts : Assoc String) (draft : Draft) : Prop where
  symbols : draft.symbols = texts.flatMap fun text => indexer.pieceOf text.1 text.2
  fileHashes : draft.fileHashes = texts.map fun text => (text.1, fingerprint text.2)

/-- A snapshot holds the symbols and the fingerprints of some texts. -/
structure Snapshot.Shows (indexer : Indexer) (texts : Assoc String) (snapshot : Snapshot) :
    Prop where
  symbols : snapshot.symbols = texts.flatMap fun text => indexer.pieceOf text.1 text.2
  fileHashes : snapshot.fileHashes = texts.map fun text => (text.1, fingerprint text.2)

namespace Draft

variable {indexer : Indexer} {texts : Assoc String} {draft : Draft}

/-- An empty draft shows no texts. -/
private theorem shows_empty (indexer : Indexer) : Shows indexer [] {} :=
  ⟨rfl, rfl⟩

/-- The files that have a fingerprint are those of the texts. -/
theorem Shows.keys (shows : draft.Shows indexer texts) : draft.fileHashes.keys = texts.keys := by
  -- Each text has one fingerprint, under its name.
  rw [shows.fileHashes]
  simp [Assoc.keys, Function.comp_def]

/-- A draft of texts without colons in names has no symbols of a further file. -/
theorem Shows.apart (shows : draft.Shows indexer texts)
    (plain : ∀ text ∈ texts, indexer.PlainNames text.1 text.2) {file : String}
    (named : Indexer.NamedApart texts file) : draft.Apart file := by
  intro name
  rw [← Bool.not_eq_true, has_iff, shows.symbols]
  intro taken
  -- The identifier names its file up to the last colon, and that would be the file of a text.
  obtain ⟨symbol, member, sameId⟩ := List.mem_map.mp taken
  obtain ⟨text, listed, inside⟩ := List.mem_flatMap.mp member
  rw [((indexer.pieceOf_spec text.1 text.2).1 symbol inside).place.2] at sameId
  rcases Symbol.eq_or_colon_of_makeId_eq (plain text listed symbol inside) sameId.symm with
    same | ⟨rest, longer⟩
  · exact (named text listed).1 same
  · exact (named text listed).2 rest longer

/-- Reading a further text shows it too. -/
theorem Shows.addText (shows : draft.Shows indexer texts)
    (plain : ∀ text ∈ texts, indexer.PlainNames text.1 text.2) {file : String}
    (named : Indexer.NamedApart texts file) (content : String) :
    (indexer.addText draft file content).1.Shows indexer (texts ++ [(file, content)]) := by
  -- The text adds behind the draft what it adds to an empty one.
  have new := named.not_mem_keys
  have split :=
    @Indexer.addText_append indexer file content draft {} (shows.apart plain named)
      (shows.keys ▸ new)
  have whole : draft.append {} = draft := by simp [append]
  have hashes := (Indexer.grows_addText indexer {} file content).fileHashes
  rw [whole] at split
  refine ⟨?_, ?_⟩
  · simp [split, append, shows.symbols, Indexer.pieceOf]
  · simp [split, append, shows.fileHashes, hashes, addHash, Assoc.put_of_not_mem]

/-- Symbols with distinct identifiers are all added to a draft that has none. -/
private theorem foldl_addSymbol_of_nodup {symbols : List Symbol}
    (distinct : ((draft.symbols ++ symbols).map Symbol.id).Nodup) :
    symbols.foldl addSymbol draft = { draft with symbols := draft.symbols ++ symbols } := by
  -- The induction is on the symbols, each of which is new when its turn comes.
  induction symbols generalizing draft with
  | nil => simp
  | cons symbol symbols ih =>
    have fresh : draft.has symbol.id = false := by
      rw [← Bool.not_eq_true, has_iff]
      intro taken
      rw [List.map_append, List.nodup_append] at distinct
      exact distinct.2.2 _ taken _ (by simp) rfl
    rw [List.foldl_cons, addSymbol, fresh]
    simpa using @ih { draft with symbols := draft.symbols ++ [symbol] } (by simpa using distinct)

/-- Where every item brings parts that bear its name, the parts that bear the name of an item
are those that it brings. -/
theorem filter_flatMap_of_named {α β : Type} {items : List α} {nameOf : α → String}
    {parts : α → List β} {bears : β → String} (distinct : (items.map nameOf).Nodup)
    (own : ∀ item ∈ items, ∀ part ∈ parts item, bears part = nameOf item) {item : α}
    (listed : item ∈ items) :
    (items.flatMap parts).filter (fun part => bears part == nameOf item) = parts item := by
  -- The induction is on the items, up to the one whose parts are asked for.
  induction items with
  | nil => simp at listed
  | cons first items ih =>
    simp only [List.map_cons, List.nodup_cons, List.forall_mem_cons] at distinct own
    rw [List.flatMap_cons, List.filter_append]
    rcases List.mem_cons.mp listed with rfl | later
    · -- The first item brings all of the parts, and the others bring none.
      have all : (parts item).filter (fun part => bears part == nameOf item) = parts item := by
        rw [List.filter_eq_self]
        exact fun part inside => by simp [own.1 part inside]
      have none : (items.flatMap parts).filter (fun part => bears part == nameOf item) = [] := by
        simp only [List.filter_eq_nil_iff, List.mem_flatMap, beq_iff_eq]
        rintro part ⟨other, member, inside⟩ same
        exact distinct.1 (List.mem_map.mpr
          ⟨other, member, (own.2 other member part inside).symm.trans same⟩)
      rw [all, none, List.append_nil]
    · -- The first item has another name.
      have front : (parts first).filter (fun part => bears part == nameOf item) = [] := by
        simp only [List.filter_eq_nil_iff, beq_iff_eq]
        intro part inside same
        exact distinct.1 (List.mem_map.mpr ⟨item, later, same.symm.trans (own.1 part inside)⟩)
      rw [front, List.nil_append, ih distinct.2 own.2 later]

/-- Among the symbols of texts, those of a file are the symbols of its text. -/
theorem filter_pieces (indexer : Indexer) {texts : Assoc String} (distinct : texts.keys.Nodup)
    {file content : String} (listed : (file, content) ∈ texts) :
    (texts.flatMap fun text => indexer.pieceOf text.1 text.2).filter (·.file == file)
      = indexer.pieceOf file content :=
  @filter_flatMap_of_named _ _ texts Prod.fst _ Symbol.file distinct
    (fun text _ symbol inside => ((indexer.pieceOf_spec text.1 text.2).1 symbol inside).place.1)
    _ listed

/-- Taking over the symbols of a text shows the text, as reading it would. -/
theorem Shows.carry (shows : draft.Shows indexer texts)
    (plain : ∀ text ∈ texts, indexer.PlainNames text.1 text.2) {previous : Snapshot}
    {old : Assoc String} (distinct : old.keys.Nodup) (earlier : previous.Shows indexer old)
    {file content : String} (named : Indexer.NamedApart texts file)
    (listed : (file, content) ∈ old) :
    (Indexer.carry draft previous file (fingerprint content)).Shows indexer
      (texts ++ [(file, content)]) := by
  -- The previous symbols of the file are those of the old text, which is listed.
  have apart := shows.apart plain named
  have new := named.not_mem_keys
  obtain ⟨candidates, distinctIds⟩ := indexer.pieceOf_spec file content
  have whole : draft.addHash file (fingerprint content)
      = draft.append (addHash {} file (fingerprint content)) := by
    rw [← addHash_append {} (shows.keys ▸ new)]
    simp [append]
  -- The symbols go behind the draft, where no other symbol stands yet.
  have carried : Indexer.carry draft previous file (fingerprint content) = draft.append
      { addHash {} file (fingerprint content) with symbols := indexer.pieceOf file content } := by
    rw [Indexer.carry, earlier.symbols, filter_pieces indexer distinct listed, whole, foldl_append,
      foldl_addSymbol_of_nodup (by simpa [addHash] using distinctIds)]
    · simp [addHash]
    · intro symbol inside draft
      refine addSymbol_append draft ?_
      rw [(candidates symbol inside).place.2]
      exact apart symbol.name
  refine ⟨?_, ?_⟩
  · simp [carried, append, shows.symbols]
  · simp [carried, append, shows.fileHashes, addHash, Assoc.put_of_not_mem]

/-- Steps that show the text of one further file each show the texts of all of them. -/
private theorem shows_foldl {α : Type} (view : α → Draft) {step : α → List String → α}
    {project : Folder} {root : List String} {files : List (List String)}
    (one : ∀ done path rest, files = done ++ path :: rest →
      ∀ state, (view state).Shows indexer (Indexer.textsOf project root done) →
        (view (step state path)).Shows indexer (Indexer.textsOf project root (done ++ [path])))
    {state : α} (shows : (view state).Shows indexer []) :
    (view (files.foldl step state)).Shows indexer (Indexer.textsOf project root files) := by
  -- The induction is on the files to come; those that have been read stand in front of them.
  have run : ∀ rest done state, files = done ++ rest →
      (view state).Shows indexer (Indexer.textsOf project root done) →
      (view (rest.foldl step state)).Shows indexer (Indexer.textsOf project root files) := by
    intro rest
    induction rest with
    | nil =>
      intro done state split shows
      rwa [split, List.append_nil]
    | cons path rest ih =>
      intro done state split shows
      exact ih (done ++ [path]) _ (by simp [split]) (one done path rest split state shows)
  exact run files [] state rfl shows

end Draft

namespace Indexer

variable {indexer : Indexer} {project : Folder} {root : List String}

/-- The texts that a scan reads are those of the files that it walks. -/
theorem mem_texts_iff {text : String × String} : text ∈ indexer.texts project root ↔
    ∃ path ∈ indexer.sourceFiles project root,
      project.textAt? (root ++ path) = some text.2 ∧ joinPath path = text.1 :=
  mem_textsOf_iff

/-- Where every file that is walked has one text, no other text is read. -/
theorem eq_of_mem_texts {content : String}
    (read : ∀ path ∈ indexer.sourceFiles project root,
      project.textAt? (root ++ path) = some content)
    {text : String × String} (member : text ∈ indexer.texts project root) : text.2 = content := by
  -- A text that is read is that of a file that is walked.
  obtain ⟨path, walked, isText, _⟩ := mem_texts_iff.mp member
  exact Option.some.inj (isText.symm.trans (read path walked))

/-- The names of the texts that a scan reads are distinct. -/
theorem nodup_keys_texts (indexer : Indexer) (wellNamed : project.wellNamed = true)
    (root : List String) : (indexer.texts project root).keys.Nodup :=
  (indexer.nodup_sourceNames wellNamed root).sublist (keys_textsOf_sublist project root _)

/-- The files before one in the walk have names apart from its own. -/
private theorem namedApart_of_walk (wellNamed : project.wellNamed = true)
    {done rest : List (List String)} {path : List String}
    (split : indexer.sourceFiles project root = done ++ path :: rest) :
    NamedApart (textsOf project root done) (joinPath path) := by
  -- The walk is in order, and names that go on with a colon come later.
  intro text member
  obtain ⟨other, listed, _, named⟩ := mem_textsOf_iff.mp member
  have sorted := indexer.pairwise_sourceFiles wellNamed root
  rw [split, List.pairwise_append] at sorted
  have earlier : other < path := sorted.2.2 other listed path (by simp)
  have walked : path ∈ indexer.sourceFiles project root := by simp [split]
  have otherWalked : other ∈ indexer.sourceFiles project root := by simp [split, listed]
  rw [← named]
  refine ⟨fun same => ?_, not_colon_of_lt wellNamed walked otherWalked earlier⟩
  exact List.lt_irrefl _ (sourceFiles_inj wellNamed otherWalked walked same ▸ earlier)

/-- Reading a file after those that are walked before it shows its text, if there is one. -/
private theorem shows_addFile (wellNamed : project.wellNamed = true)
    (plain : ∀ text ∈ indexer.texts project root, indexer.PlainNames text.1 text.2)
    {done rest : List (List String)} {path : List String}
    (split : indexer.sourceFiles project root = done ++ path :: rest) {draft : Draft}
    (shows : draft.Shows indexer (textsOf project root done)) :
    (indexer.addFile project (root ++ path) (joinPath path) draft).1.Shows indexer
      (textsOf project root (done ++ [path])) := by
  -- A file that cannot be read has no text to be shown.
  rw [textsOf_append]
  cases read : project.textAt? (root ++ path) with
  | none => simpa [addFile, textsOf, read] using shows
  | some content =>
    have isText : textsOf project root [path] = [(joinPath path, content)] := by
      simp [textsOf, read]
    simp only [addFile, read, isText]
    refine shows.addText (fun text member => plain text ?_)
      (namedApart_of_walk wellNamed split) content
    rw [texts, split, textsOf_append]
    exact List.mem_append_left _ member

/-- A scan shows the texts that it reads, when no symbol of them has a colon in its name. -/
theorem scanned_shows_of_plainNames (wellNamed : project.wellNamed = true)
    (plain : ∀ text ∈ indexer.texts project root, indexer.PlainNames text.1 text.2) :
    (indexer.scanned project root).Shows indexer (indexer.texts project root) := by
  -- Every step of the run reads one more file of the walk.
  have shows := @Draft.shows_foldl indexer _ id
    (fun draft file => (indexer.addFile project (root ++ file) (joinPath file) draft).1)
    project root _
    (fun done path rest split draft shows => shows_addFile wellNamed plain split shows) {}
    (Draft.shows_empty indexer)
  rw [scanned_eq]
  exact ⟨shows.symbols, shows.fileHashes⟩

/-- A scan shows the texts that it reads. -/
theorem scanned_shows (wellNamed : project.wellNamed = true)
    (colonFree : ∀ text ∈ indexer.texts project root, indexer.ColonFree text.1 text.2) :
    (indexer.scanned project root).Shows indexer (indexer.texts project root) :=
  scanned_shows_of_plainNames wellNamed fun text member => (colonFree text member).plainNames

/-- A refresh of a snapshot that shows texts shows the texts that it finds, when different texts
have different fingerprints. -/
theorem refreshed_shows (wellNamed : project.wellNamed = true)
    (colonFree : ∀ text ∈ indexer.texts project root, indexer.ColonFree text.1 text.2)
    {previous : Snapshot} {old : Assoc String} (distinct : old.keys.Nodup)
    (earlier : previous.Shows indexer old)
    (apart : ∀ text ∈ indexer.texts project root, ∀ other ∈ old,
      fingerprint text.2 = fingerprint other.2 → text.2 = other.2) :
    (indexer.refreshed project root previous).1.Shows indexer (indexer.texts project root) := by
  -- Every step of the run reads a file or takes it over.
  have plain : ∀ text ∈ indexer.texts project root, indexer.PlainNames text.1 text.2 :=
    fun text member => (colonFree text member).plainNames
  have one : ∀ done path rest, indexer.sourceFiles project root = done ++ path :: rest →
      ∀ state : Draft × Changes, state.1.Shows indexer (textsOf project root done) →
      (indexer.refreshFile project root previous state path).1.Shows indexer
        (textsOf project root (done ++ [path])) := by
    intro done path rest split state shows
    rcases indexer.refreshFile_cases project root previous state path with
      isRead | ⟨content, isText, found, carried⟩
    · rw [isRead]
      exact shows_addFile wellNamed plain split shows
    · -- The old text under the name has the fingerprint of the new one, so it is the new one.
      have isTexts : textsOf project root [path] = [(joinPath path, content)] := by
        simp [textsOf, isText]
      have member : (joinPath path, content) ∈ indexer.texts project root :=
        mem_texts_iff.mpr ⟨path, by simp [split], isText, rfl⟩
      rw [earlier.fileHashes] at found
      obtain ⟨⟨file, other⟩, inside, isEntry⟩ := List.mem_map.mp (Assoc.mem_of_get?_eq_some found)
      simp only [Prod.mk.injEq] at isEntry
      obtain ⟨rfl, sameHash⟩ := isEntry
      obtain rfl : content = other := apart _ member _ inside sameHash.symm
      rw [textsOf_append, isTexts, carried]
      refine shows.carry (fun text member => plain text ?_) distinct earlier
        (namedApart_of_walk wellNamed split) inside
      rw [texts, split, textsOf_append]
      exact List.mem_append_left _ member
  have shows := @Draft.shows_foldl indexer _ Prod.fst _ project root _ one ({}, {})
    (Draft.shows_empty indexer)
  exact ⟨shows.symbols, shows.fileHashes⟩

/-- Reading a file adds tidy references only. -/
private theorem tidy_addFile {path : List String} {file : String} {draft : Draft}
    (tidy : ∀ reference ∈ draft.references, reference.IsTidy) :
    ∀ reference ∈ (indexer.addFile project path file draft).1.references, reference.IsTidy := by
  -- A file that cannot be read adds none.
  cases read : project.textAt? path with
  | none => simpa [addFile, read] using tidy
  | some content =>
    obtain ⟨added, isAfter, own⟩ := (grows_addText indexer draft file content).references
    simp only [addFile, read, isAfter]
    exact List.forall_mem_append.mpr ⟨tidy, fun reference member => (own reference member).2⟩

/-- Reading files, and renewing a snapshot for them, gives tidy references only. -/
theorem tidy_references (indexer : Indexer) (project : Folder) (root : List String)
    (previous : Snapshot) (files : List (List String)) :
    (∀ reference ∈ (indexer.index project root files).references, reference.IsTidy) ∧
      ∀ reference ∈ (indexer.renew project root previous files).1.references, reference.IsTidy := by
  -- Every step of both runs keeps the references tidy.
  constructor
  · exact @List.foldlRecOn _ _
      (fun draft : Draft => ∀ reference ∈ draft.references, reference.IsTidy) _ _ _
      (by simp) fun draft tidy path _ => tidy_addFile tidy
  · refine @List.foldlRecOn _ _
      (fun state : Draft × Changes => ∀ reference ∈ state.1.references, reference.IsTidy)
      files (indexer.refreshFile project root previous) ({}, {})
      (by simp) fun state tidy path _ => ?_
    rcases indexer.refreshFile_cases project root previous state path with
      read | ⟨content, _, _, carried⟩
    · rw [read]
      exact tidy_addFile tidy
    · -- Taking over symbols brings no references.
      obtain ⟨added, isAfter, none⟩ :=
        (@Draft.grows_foldl (fun _ => True) (fun _ => False) _ Draft.addSymbol
          (previous.symbols.filter (·.file == joinPath path))
          (fun _ _ draft => draft.grows_addSymbol trivial)
          (state.1.addHash (joinPath path) (fingerprint content))).references
      intro reference member
      rw [carried, carry, isAfter] at member
      rcases List.mem_append.mp member with old | new
      · exact tidy reference old
      · exact (none reference new).elim

end Indexer

/-- A snapshot of texts with distinct names and tidy references is tidy. -/
theorem Snapshot.Shows.isTidy {indexer : Indexer} {texts : Assoc String} {snapshot : Snapshot}
    (shows : snapshot.Shows indexer texts) (distinct : texts.keys.Nodup)
    (references : ∀ reference ∈ snapshot.references, reference.IsTidy) : snapshot.IsTidy where
  symbols := by
    -- Every symbol comes from a text.
    intro symbol member
    rw [shows.symbols] at member
    obtain ⟨text, _, inside⟩ := List.mem_flatMap.mp member
    exact ((indexer.pieceOf_spec text.1 text.2).1 symbol inside).isTidy
  references := references
  fileHashes := by
    -- Each text has one fingerprint, under its name.
    rw [shows.fileHashes]
    simpa [Assoc.keys, Function.comp_def] using distinct

end SourceAtlas
