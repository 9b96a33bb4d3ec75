import SourceAtlas.Proofs.Index.Files
import SourceAtlas.Proofs.Index.Refresh

/-! What holds of every snapshot that scans and refreshes return, however
they follow on each other. -/

namespace SourceAtlas

/-- A symbol with a name, under the identifier that file and name make, on lines
that are counted from one. -/
structure Symbol.IsPlaced (symbol : Symbol) : Prop where
  identified : symbol.id = Symbol.makeId symbol.file symbol.name
  named : symbol.name ≠ ""
  starts : 1 ≤ symbol.startLine
  ends : symbol.startLine ≤ symbol.endLine

/-- The parts of a snapshot agree with each other and with the files that were walked for it. -/
structure Snapshot.IsSound (files : List String) (snapshot : Snapshot) : Prop where
  distinct : (snapshot.symbols.map Symbol.id).Nodup
  placed : ∀ symbol ∈ snapshot.symbols, symbol.IsPlaced
  symbolFiles : ∀ symbol ∈ snapshot.symbols, symbol.file ∈ snapshot.fileHashes.keys
  referenceFiles : ∀ reference ∈ snapshot.references, reference.file ∈ snapshot.fileHashes.keys
  walked : ∀ file ∈ snapshot.fileHashes.keys, file ∈ files
  /-- The symbols of each file stand together, and the files in the order of the walk. -/
  grouped : snapshot.symbols = files.flatMap fun file => snapshot.symbols.filter (·.file == file)
  symbolCount : snapshot.stats.totalSymbols = snapshot.symbols.length
  referenceCount : snapshot.stats.totalReferences = snapshot.references.length
  fileCount : (snapshot.fileHashes.length : Int) ≤ snapshot.stats.totalFiles

/-- What holds of a draft once some files have been read into it. -/
structure Draft.IsSound (done : List String) (draft : Draft) : Prop where
  distinct : (draft.symbols.map Symbol.id).Nodup
  placed : ∀ symbol ∈ draft.symbols, symbol.IsPlaced ∧ symbol.IsTidy
  symbolFiles : ∀ symbol ∈ draft.symbols, symbol.file ∈ draft.fileHashes.keys
  references : ∀ reference ∈ draft.references,
    reference.file ∈ draft.fileHashes.keys ∧ reference.IsTidy
  walked : draft.fileHashes.keys.Sublist done
  grouped : draft.symbols = done.flatMap fun file => draft.symbols.filter (·.file == file)

namespace Draft

/-- Before any file is read the draft is empty. -/
theorem isSound_empty : Draft.IsSound [] {} :=
  ⟨by simp, by simp, by simp, by simp, by simp, by simp⟩

/-- No symbol stands in a file that has not been read. -/
theorem IsSound.filter_eq_nil {done : List String} {draft : Draft} (sound : draft.IsSound done)
    {file : String} (new : file ∉ done) : draft.symbols.filter (·.file == file) = [] := by
  -- Every symbol stands in a file that has been read.
  simp only [List.filter_eq_nil_iff, beq_iff_eq]
  rintro symbol member rfl
  exact new (sound.walked.subset (sound.symbolFiles symbol member))

/-- A file that adds nothing leaves a draft as it is. -/
theorem IsSound.skip {done : List String} {draft : Draft} (sound : draft.IsSound done)
    {file : String} (new : file ∉ done) : draft.IsSound (done ++ [file]) where
  distinct := sound.distinct
  placed := sound.placed
  symbolFiles := sound.symbolFiles
  references := sound.references
  walked := sound.walked.trans (List.sublist_append_left done [file])
  grouped := by
    -- The file has no symbols to be grouped.
    simp only [List.flatMap_append, List.flatMap_singleton, sound.filter_eq_nil new,
      List.append_nil]
    exact sound.grouped

/-- A file that adds its fingerprint, and symbols and references of its
own, leaves a sound draft. -/
theorem IsSound.grow {done : List String} {draft after : Draft} (sound : draft.IsSound done)
    {file hash : String} (new : file ∉ done)
    (grows : (draft.addHash file hash).Grows
      (fun symbol => symbol.file = file ∧ symbol.IsPlaced ∧ symbol.IsTidy)
      (Indexer.IsReferenceOf file) after) :
    after.IsSound (done ++ [file]) := by
  -- All that is added stands in the file.
  obtain ⟨added, isAfter, own⟩ := grows.symbols
  obtain ⟨addedRefs, isAfterRefs, ownRefs⟩ := grows.references
  -- The fingerprint is the last one, since the file has none yet.
  have fresh : file ∉ draft.fileHashes.keys := fun member => new (sound.walked.subset member)
  have keys : after.fileHashes.keys = draft.fileHashes.keys ++ [file] := by
    rw [grows.fileHashes, addHash, Assoc.keys_put, if_neg fresh]
  simp only [addHash] at isAfter isAfterRefs
  refine ⟨grows.distinct sound.distinct, ?_, ?_, ?_, ?_, ?_⟩
  · rw [isAfter]
    exact List.forall_mem_append.mpr ⟨sound.placed, fun symbol member => (own symbol member).2⟩
  · rw [isAfter, keys]
    refine List.forall_mem_append.mpr ⟨fun symbol member => ?_, fun symbol member => ?_⟩
    · exact List.mem_append_left _ (sound.symbolFiles symbol member)
    · simp [(own symbol member).1]
  · rw [isAfterRefs, keys]
    refine List.forall_mem_append.mpr ⟨fun reference member => ?_, fun reference member => ?_⟩
    · obtain ⟨known, tidy⟩ := sound.references reference member
      exact ⟨List.mem_append_left _ known, tidy⟩
    · exact ⟨by simp [(ownRefs reference member).1], (ownRefs reference member).2⟩
  · rw [keys]
    exact sound.walked.append_right [file]
  · -- The new symbols all stand in the new file, and no old one does.
    have others : ∀ other ∈ done,
        after.symbols.filter (·.file == other) = draft.symbols.filter (·.file == other) := by
      intro other before
      have none : added.filter (·.file == other) = [] := by
        simp only [List.filter_eq_nil_iff, beq_iff_eq]
        rintro symbol member rfl
        exact new ((own symbol member).1 ▸ before)
      rw [isAfter, List.filter_append, none, List.append_nil]
    have mine : after.symbols.filter (·.file == file) = added := by
      rw [isAfter, List.filter_append, sound.filter_eq_nil new, List.nil_append,
        List.filter_eq_self]
      intro symbol member
      simp [(own symbol member).1]
    have front : (done.flatMap fun other => after.symbols.filter (·.file == other))
        = draft.symbols := by
      rw [List.flatMap_def, List.map_congr_left others, ← List.flatMap_def, ← sound.grouped]
    rw [List.flatMap_append, List.flatMap_singleton, mine, front, isAfter]

/-- Steps that keep a draft sound, one for each of some new files, leave a
sound draft of all of them. -/
theorem isSound_foldl {α : Type} (view : α → Draft) {step : α → List String → α}
    {files : List (List String)}
    (one : ∀ path ∈ files, ∀ done state, joinPath path ∉ done → (view state).IsSound done →
      (view (step state path)).IsSound (done ++ [joinPath path])) {done : List String} {state : α}
    (distinct : (done ++ files.map joinPath).Nodup) (sound : (view state).IsSound done) :
    (view (files.foldl step state)).IsSound (done ++ files.map joinPath) := by
  -- The induction is on the files to come; the invariant speaks of those that have been read.
  induction files generalizing done state with
  | nil => simpa using sound
  | cons path files ih =>
    simp only [List.forall_mem_cons] at one
    have new : joinPath path ∉ done := by
      intro before
      rw [List.nodup_append] at distinct
      exact distinct.2.2 _ before _ (by simp) rfl
    simpa using ih one.2 (by simpa using distinct) (one.1 done state new sound)

end Draft

namespace Indexer

/-- Every tree that the parser gives counts its rows from zero. -/
def CountsRows (indexer : Indexer) : Prop :=
  ∀ file content language tree, indexer.Parses file content language tree → HasRows tree

variable {indexer : Indexer}

/-- Reading a file keeps a draft sound. -/
theorem isSound_addFile (rows : indexer.CountsRows) (project : Folder) (path : List String)
    {file : String} {done : List String} {draft : Draft} (new : file ∉ done)
    (sound : draft.IsSound done) :
    (indexer.addFile project path file draft).1.IsSound (done ++ [file]) := by
  -- A file that cannot be read adds nothing.
  unfold addFile
  split
  · rename_i content _
    -- What a text adds are candidates, and these are placed in the file.
    have grows := grows_addText indexer draft file content
    refine sound.grow new ⟨?_, grows.references, grows.fileHashes, grows.distinct⟩
    obtain ⟨added, isAfter, candidates⟩ := grows.symbols
    refine ⟨added, isAfter, fun symbol member => ?_⟩
    have candidate := candidates symbol member
    obtain ⟨rfl, identified⟩ := candidate.place
    obtain ⟨named, starts, ends⟩ := candidate.shape (rows _ content)
    exact ⟨rfl, ⟨identified, named, starts, ends⟩, candidate.isTidy⟩
  · exact sound.skip new

/-- Taking over the symbols of an unchanged file keeps a draft sound. -/
theorem isSound_carry {previous : Snapshot}
    (earlier : ∀ symbol ∈ previous.symbols, symbol.IsPlaced ∧ symbol.IsTidy) {file : String}
    (hash : String) {done : List String} {draft : Draft} (new : file ∉ done)
    (sound : draft.IsSound done) :
    (carry draft previous file hash).IsSound (done ++ [file]) := by
  -- The symbols are added one by one, and each of them was placed before.
  refine sound.grow new (Draft.grows_foldl (fun symbol member draft => draft.grows_addSymbol ?_) _)
  obtain ⟨inside, isFile⟩ := List.mem_filter.mp member
  exact ⟨by simpa using isFile, earlier symbol inside⟩

/-- The snapshot of a sound draft is sound and tidy. -/
theorem isSound_snapshot (indexer : Indexer) {files : List String} {draft : Draft}
    (sound : draft.IsSound files) (distinct : files.Nodup) {count : Nat}
    (all : count = files.length) :
    (indexer.snapshot draft count).IsSound files ∧ (indexer.snapshot draft count).IsTidy := by
  -- The counts are taken from the draft, but for the files.
  refine ⟨⟨sound.distinct, fun symbol member => (sound.placed symbol member).1, sound.symbolFiles,
    fun reference member => (sound.references reference member).1,
    fun file member => sound.walked.subset member, sound.grouped, rfl, rfl, ?_⟩,
    ⟨fun symbol member => (sound.placed symbol member).2,
      fun reference member => (sound.references reference member).2, distinct.sublist sound.walked⟩⟩
  -- A file that cannot be read is counted all the same.
  have fewer := sound.walked.length_le
  simp only [Assoc.keys, List.length_map] at fewer
  simp only [snapshot]
  omega

/-- A scan returns a sound snapshot. -/
theorem isSound_scanned (rows : indexer.CountsRows) {project : Folder}
    (wellNamed : project.wellNamed = true) (root : List String) :
    (indexer.scanned project root).IsSound (indexer.sourceNames project root) ∧
      (indexer.scanned project root).IsTidy := by
  -- Each file of the walk is read into a sound draft.
  have distinct := indexer.nodup_sourceNames wellNamed root
  have sound := Draft.isSound_foldl id
    (fun path _ _ _ new sound => isSound_addFile rows project (root ++ path) new sound)
    distinct Draft.isSound_empty
  rw [scanned_eq]
  exact indexer.isSound_snapshot sound distinct (by simp)

/-- A refresh of a snapshot with placed symbols returns a sound snapshot. -/
theorem isSound_refreshed (rows : indexer.CountsRows) {project : Folder}
    (wellNamed : project.wellNamed = true) (root : List String) {previous : Snapshot}
    (earlier : ∀ symbol ∈ previous.symbols, symbol.IsPlaced ∧ symbol.IsTidy) :
    (indexer.refreshed project root previous).1.IsSound (indexer.sourceNames project root) ∧
      (indexer.refreshed project root previous).1.IsTidy := by
  -- Each file of the walk is read or taken over.
  have distinct := indexer.nodup_sourceNames wellNamed root
  have one : ∀ path ∈ indexer.sourceFiles project root, ∀ done (state : Draft × Changes),
      joinPath path ∉ done → state.1.IsSound done →
      (indexer.refreshFile project root previous state path).1.IsSound
        (done ++ [joinPath path]) := by
    intro path _ done state new sound
    rcases indexer.refreshFile_cases project root previous state path with
      read | ⟨content, _, _, carried⟩
    · rw [read]
      exact isSound_addFile rows project (root ++ path) new sound
    · rw [carried]
      exact isSound_carry earlier _ new sound
  have sound := @Draft.isSound_foldl _ Prod.fst _ _ one [] ({}, {}) distinct Draft.isSound_empty
  exact indexer.isSound_snapshot sound distinct (by simp)

/-- The snapshots that calls can return one after the other, each with the names of the files
that were walked: by a scan, or by a refresh of an empty snapshot, of one returned before, or
of one returned before and read back from its stored text. Parser, patterns and tree may
differ from call to call. -/
inductive Returned : List String → Snapshot → Prop where
  | scan {indexer : Indexer} {project : Folder} {root : List String} (rows : indexer.CountsRows)
      (wellNamed : project.wellNamed = true) {files : List (List String)} {snapshot : Snapshot}
      (walked : indexer.walk project root = .ok files)
      (returns : indexer.scan project root = .ok snapshot) :
      Returned (files.map joinPath) snapshot
  | first {indexer : Indexer} {project : Folder} {root : List String} (rows : indexer.CountsRows)
      (wellNamed : project.wellNamed = true) {files : List (List String)} {snapshot : Snapshot}
      {changes : Changes} (walked : indexer.walk project root = .ok files)
      (returns : indexer.refresh project root {} = .ok (snapshot, changes)) :
      Returned (files.map joinPath) snapshot
  | refresh {indexer : Indexer} {project : Folder} {root : List String} (rows : indexer.CountsRows)
      (wellNamed : project.wellNamed = true) {known : List String} {previous : Snapshot}
      (before : Returned known previous) {files : List (List String)} {snapshot : Snapshot}
      {changes : Changes} (walked : indexer.walk project root = .ok files)
      (returns : indexer.refresh project root previous = .ok (snapshot, changes)) :
      Returned (files.map joinPath) snapshot
  | reread {indexer : Indexer} {project : Folder} {root : List String} (rows : indexer.CountsRows)
      (wellNamed : project.wellNamed = true) {known : List String} {earlier previous : Snapshot}
      {value : Json} (before : Returned known earlier)
      (parsed : Json.parseExact earlier.render = .ok value)
      (accepted : Snapshot.coerce value = .good previous) {files : List (List String)}
      {snapshot : Snapshot} {changes : Changes} (walked : indexer.walk project root = .ok files)
      (returns : indexer.refresh project root previous = .ok (snapshot, changes)) :
      Returned (files.map joinPath) snapshot

/-- A scan that ends returns a sound snapshot of the files that are walked. -/
theorem isSound_scan {indexer : Indexer} {project : Folder} {root : List String}
    (rows : indexer.CountsRows) (wellNamed : project.wellNamed = true) {files : List (List String)}
    {snapshot : Snapshot} (walked : indexer.walk project root = .ok files)
    (returns : indexer.scan project root = .ok snapshot) :
    snapshot.IsSound (files.map joinPath) ∧ snapshot.IsTidy := by
  -- Where the walk ends, the scan is known.
  rw [((scan_eq_ok_iff wellNamed).mp returns).2, walk_eq_ok wellNamed walked]
  exact isSound_scanned rows wellNamed root

/-- So does a refresh of a snapshot with placed symbols. -/
theorem isSound_refresh {indexer : Indexer} {project : Folder} {root : List String}
    (rows : indexer.CountsRows) (wellNamed : project.wellNamed = true)
    {previous snapshot : Snapshot} {files : List (List String)} {changes : Changes}
    (walked : indexer.walk project root = .ok files)
    (returns : indexer.refresh project root previous = .ok (snapshot, changes))
    (earlier : ∀ symbol ∈ previous.symbols, symbol.IsPlaced ∧ symbol.IsTidy) :
    snapshot.IsSound (files.map joinPath) ∧ snapshot.IsTidy := by
  -- Where the walk ends, the refresh is known.
  have isResult := ((refresh_eq_ok_iff wellNamed).mp returns).2
  rw [show snapshot = _ from congrArg Prod.fst isResult, walk_eq_ok wellNamed walked]
  exact isSound_refreshed rows wellNamed root earlier

/-- Every snapshot that is ever returned is sound: identifiers are distinct and made of file and
name, lines are counted from one, everything stands in files that have a fingerprint and were
walked, symbols stand file by file in the order of the walk, and the counts are right. -/
theorem returned_isSound {files : List String} {snapshot : Snapshot}
    (returned : Returned files snapshot) : snapshot.IsSound files := by
  -- Only tidy snapshots are read back from their text, so the induction carries that too.
  have both : snapshot.IsSound files ∧ snapshot.IsTidy := by
    induction returned with
    | scan rows wellNamed walked returns => exact isSound_scan rows wellNamed walked returns
    | first rows wellNamed walked returns =>
      exact isSound_refresh rows wellNamed walked returns (by simp)
    | refresh rows wellNamed _ walked returns ih =>
      exact isSound_refresh rows wellNamed walked returns fun symbol member =>
        ⟨ih.1.placed symbol member, ih.2.symbols symbol member⟩
    | reread rows wellNamed _ parsed accepted walked returns ih =>
      -- Storing and reading back changes other fields only, so symbols stay where they were.
      cases Snapshot.eq_reread_of_parse ih.2 parsed accepted
      refine isSound_refresh rows wellNamed walked returns fun symbol member => ?_
      refine ⟨?_, ih.2.reread.symbols symbol member⟩
      obtain ⟨old, inside, rfl⟩ := List.mem_map.mp member
      obtain ⟨identified, named, starts, ends⟩ := ih.1.placed old inside
      exact ⟨identified, named, starts, ends⟩
  exact both.1

/-- A tree with one file, scanned with a parser that finds one declaration in
every text, then refreshed. -/
theorem returned_isSound_refreshed :
    let parser : StructuralParser :=
      ⟨fun _ _ => .ok (some ⟨fun _ => .ok [[("def", [⟨some "f", 0, 2, []⟩])]]⟩)⟩
    let language : Language := {
      identity :=
        { name := "t", displayName := "T", extensions := [".t"], defaultGrammar := some "t" }
      symbolPatterns := [⟨"f", "(f) @def", "function", none, none⟩]
      referencePatterns := .ok []
      parameterNames := fun _ => []
      inferKind := fun _ kind => kind }
    let indexer : Indexer := ⟨{}, Registry.empty.registerAll [language], some parser⟩
    let project : Folder := [("a.t", .file "f".toUTF8)]
    ∃ first second changes, indexer.scan project [] = .ok first ∧
      indexer.refresh project [] first = .ok (second, changes) ∧ second.IsSound ["a.t"] := by
  -- The one match of the parser starts at row zero.
  intro parser language indexer project
  have rows : indexer.CountsRows := by
    rintro file content language tree ⟨_, _, grammar, ⟨⟩, _, ⟨⟩⟩
    intro query span found listed node spans
    simp only [SyntaxTree.spanned, List.map_cons, List.map_nil, List.mem_singleton] at listed
    subst listed
    simp only [StructuralMatch.node?, Assoc.get?_cons, Assoc.get?_nil] at spans
    by_cases isSpan : span = "def"
    · simp only [isSpan, if_true, Option.some.injEq] at spans
      simp [← spans]
    · simp [isSpan] at spans
  have wellNamed : project.wellNamed = true := by decide
  have found : (indexer.walk project []).toOption = some [["a.t"]] := by decide +kernel
  have walked := eq_ok_of_toOption found
  have scans : indexer.scan project [] = .ok (indexer.index project [] [["a.t"]]) := by
    rw [Indexer.scan, walked]
    rfl
  have refreshes : ∀ previous, indexer.refresh project [] previous
      = .ok (indexer.renew project [] previous [["a.t"]]) := by
    intro previous
    rw [Indexer.refresh, walked]
    rfl
  have sound := returned_isSound (.refresh rows wellNamed (.scan rows wellNamed walked scans) walked
    (refreshes _))
  exact ⟨_, _, _, scans, refreshes _, sound⟩

end Indexer

end SourceAtlas
