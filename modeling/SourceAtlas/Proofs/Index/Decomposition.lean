import SourceAtlas.Proofs.FileTree.Alone
import SourceAtlas.Proofs.Index.References
import SourceAtlas.Proofs.Index.Texts

/-! A scan is made up of the scans of its files, each of them standing alone. -/

namespace SourceAtlas

/-- What a snapshot holds of a file: its symbols, its references and its fingerprint. -/
def Snapshot.about (snapshot : Snapshot) (file : String) :
    List Symbol × List Reference × Assoc String :=
  (snapshot.symbols.filter (·.file == file), snapshot.references.filter (·.file == file),
    snapshot.fileHashes.filter (·.1 == file))

/-- A file or a link stands below a folder in two trees, and leads to the same bytes. -/
structure Folder.Shares (tree other : Folder) (root path : List String) : Prop where
  named : path ≠ []
  stands : ∃ entry, tree.at? (root ++ path) = some entry ∧ entry.isFolder = false
  standsToo : ∃ entry, other.at? (root ++ path) = some entry ∧ entry.isFolder = false
  bytes : other.bytesAt? (root ++ path) = tree.bytesAt? (root ++ path)

namespace Indexer

/-- What a scan reads in a tree that holds one file of the project and nothing else. -/
def scanAlone (indexer : Indexer) (project : Folder) (root path : List String) : Snapshot :=
  indexer.scanned (project.alone (root ++ path)) root

/-- What is asked of a tree: its walk ends, the names on the way to a file are proper ones, and no
symbol that a syntax tree gives has a colon in its name. -/
structure Separable (indexer : Indexer) (project : Folder) (root : List String)
    (files : List (List String)) : Prop where
  wellNamed : project.wellNamed = true
  walked : indexer.walk project root = .ok files
  named : ∀ path ∈ files, ∀ name ∈ root ++ path, Folder.isName name = true
  colonFree : ∀ path ∈ files, ∀ content language tree,
    project.textAt? (root ++ path) = some content →
      indexer.Parses (joinPath path) content language tree →
        ∀ alone, indexer.scan (project.alone (root ++ path)) root = .ok alone →
          ∀ symbol ∈ alone.symbols, ':' ∉ symbol.name.toList

variable {indexer : Indexer} {project : Folder} {root path : List String}
  {files : List (List String)}

/-- The files of a separable tree are those that are read from it. -/
theorem Separable.files_eq (separable : indexer.Separable project root files) :
    files = indexer.sourceFiles project root :=
  walk_eq_ok separable.wellNamed separable.walked

/-- A file that is read has bytes. -/
private theorem bytesAt?_of_mem_sourceFiles (wellNamed : project.wellNamed = true)
    (member : path ∈ indexer.sourceFiles project root) :
    ∃ bytes, project.bytesAt? (root ++ path) = some bytes := by
  -- It is wanted, so its path leads to bytes.
  obtain ⟨entry, _, wanted⟩ := (mem_sourceFiles_iff wellNamed).mp member
  obtain ⟨bytes, _, isBytes, _⟩ := wants_iff_bytesAt?.mp wanted
  exact ⟨bytes, isBytes⟩

/-- A file that is read from a tree is the one leaf of the tree in which it stands
alone, and is wanted there. -/
private theorem meets_alone (separable : indexer.Separable project root files)
    (member : path ∈ files) {other : List String} {entry : Entry} :
    indexer.Meets (project.alone (root ++ path)) root other entry ↔
      other = path ∧
        (∃ bytes, entry = .file bytes ∧ project.bytesAt? (root ++ path) = some bytes) := by
  -- The tree holds a single leaf, which is the file that the path leads to.
  rw [separable.files_eq] at member
  obtain ⟨standing, ⟨named, _, _, passed⟩, _⟩ := (mem_sourceFiles_iff separable.wellNamed).mp member
  obtain ⟨bytes, isBytes⟩ := bytesAt?_of_mem_sourceFiles separable.wellNamed member
  have whole : root ++ path ≠ [] := by simp [named]
  rw [Folder.alone_eq isBytes]
  constructor
  · rintro ⟨_, stands, leaf, _⟩
    obtain ⟨same, isFile⟩ := (Folder.at?_put_nil_iff whole bytes leaf).mp stands
    exact ⟨List.append_cancel_left same, bytes, isFile, isBytes⟩
  · rintro ⟨rfl, _, rfl, found⟩
    cases isBytes.symm.trans found
    exact ⟨named, (Folder.at?_put_nil_iff whole bytes rfl).mpr ⟨rfl, rfl⟩, rfl, passed⟩

/-- A file that is read from a tree is the one file that is read when it stands
alone, with the same text. -/
private theorem walk_alone (separable : indexer.Separable project root files)
    (member : path ∈ files) :
    (project.alone (root ++ path)).wellNamed = true ∧
      indexer.sourceFiles (project.alone (root ++ path)) root = [path] ∧
      (∃ found, indexer.walk (project.alone (root ++ path)) root = .ok found) ∧
      (project.alone (root ++ path)).textAt? (root ++ path) = project.textAt? (root ++ path) := by
  -- The file is read from the project, so it has bytes and stands under proper names.
  have walked := separable.files_eq ▸ member
  obtain ⟨standing, ⟨named, found, _⟩, wanted⟩ :=
    (mem_sourceFiles_iff separable.wellNamed).mp walked
  obtain ⟨bytes, isBytes⟩ := bytesAt?_of_mem_sourceFiles separable.wellNamed walked
  have aloneNamed :=
    Folder.wellNamed_alone project (Folder.wellNamed_at? separable.wellNamed found).2
  have sameBytes : (project.alone (root ++ path)).bytesAt? (root ++ path)
      = project.bytesAt? (root ++ path) := by
    rw [isBytes, Folder.bytesAt?_alone isBytes (by simp [named]) (separable.named path member)]
  -- The only leaf is the file, and it is wanted for the same reasons as before.
  have isWanted : ∀ entry,
      indexer.wants (project.alone (root ++ path)) root (path, entry) = true := by
    intro entry
    rw [indexer.wants_of_bytesAt? sameBytes]
    exact wanted
  have only : ∀ other, other ∈ indexer.sourceFiles (project.alone (root ++ path)) root ↔
      other = path := by
    intro other
    simp only [mem_sourceFiles_iff aloneNamed, meets_alone separable member]
    constructor
    · rintro ⟨_, ⟨same, _⟩, _⟩
      exact same
    · rintro rfl
      exact ⟨_, ⟨rfl, bytes, rfl, isBytes⟩, isWanted _⟩
  refine ⟨aloneNamed, ?_, ?_, by simp only [Folder.textAt?, sameBytes]⟩
  · -- A walk in strict order that meets nothing else meets the file once.
    have sorted := indexer.pairwise_sourceFiles aloneNamed root
    generalize indexer.sourceFiles (project.alone (root ++ path)) root = files at only sorted
    cases files with
    | nil => simpa using only path
    | cons first rest =>
      obtain rfl : first = path := (only first).mp (by simp)
      cases rest with
      | nil => rfl
      | cons next rest =>
        obtain rfl : next = first := (only next).mp (by simp)
        exact absurd (List.rel_of_pairwise_cons sorted (by simp)) (List.lt_irrefl _)
  · rw [walk_ends_iff aloneNamed]
    intro other entry meets stops
    obtain ⟨rfl, _⟩ := (meets_alone separable member).mp meets
    rw [wants_iff.mp (isWanted entry)] at stops
    obtain ⟨fault, fails⟩ := stops
    cases fails

/-- The scan of a file that stands alone ends. -/
private theorem scan_alone (separable : indexer.Separable project root files)
    (member : path ∈ files) :
    indexer.scan (project.alone (root ++ path)) root
      = .ok (indexer.scanAlone project root path) := by
  -- The walk over the single file ends, and so does the scan.
  obtain ⟨aloneNamed, _, ends, _⟩ := walk_alone separable member
  exact (scan_eq_ok_iff aloneNamed).mpr ⟨ends, rfl⟩

/-- The scan of a file that stands alone gives the symbols, the fingerprint and the
references of its text. -/
theorem scanAlone_spec (separable : indexer.Separable project root files) (member : path ∈ files) :
    (indexer.scanAlone project root path).Shows indexer (textsOf project root [path]) ∧
      (indexer.scanAlone project root path).references
        = indexer.referencesAt project root path := by
  -- Nothing is indexed before the file, so the draft starts empty.
  obtain ⟨_, walk, _, text⟩ := walk_alone separable member
  refine ⟨?_, by simp [scanAlone, references_scanned, walk, referencesAt, text]⟩
  cases read : project.textAt? (root ++ path) with
  | none =>
    constructor <;> simp [scanAlone, scanned_eq, snapshot, walk, addFile, text, textsOf, read]
  | some content =>
    have hashes := (grows_addText indexer {} (joinPath path) content).fileHashes
    constructor
    · simp [scanAlone, scanned_eq, snapshot, walk, addFile, text, textsOf, read, pieceOf]
    · simp [scanAlone, scanned_eq, snapshot, walk, addFile, text, textsOf, read, hashes,
        Draft.addHash, Assoc.put_of_not_mem]

/-- No symbol of a separable tree has a colon in its name, whichever way its file is read. -/
theorem Separable.plainNames (separable : indexer.Separable project root files) :
    ∀ text ∈ indexer.texts project root, indexer.PlainNames text.1 text.2 := by
  rintro ⟨file, content⟩ member
  -- A text belongs to a walked file, and there are two ways to read it.
  obtain ⟨path, walked, read, rfl⟩ := mem_texts_iff.mp member
  rw [← separable.files_eq] at walked
  by_cases parsed : ∃ language tree, indexer.Parses (joinPath path) content language tree
  · obtain ⟨language, tree, parses⟩ := parsed
    have free := separable.colonFree path walked content language tree read parses _
      (scan_alone separable walked)
    rw [(scanAlone_spec separable walked).1.symbols] at free
    simpa [PlainNames, textsOf, read] using free
  · exact plainNames_of_unparsed fun language tree parses => parsed ⟨language, tree, parses⟩

/-- The texts of some files are those of each of them. -/
private theorem textsOf_eq_flatMap (project : Folder) (root : List String)
    (files : List (List String)) :
    textsOf project root files = files.flatMap fun path => textsOf project root [path] := by
  -- Every file adds its own text.
  induction files with
  | nil => rfl
  | cons path files ih => rw [List.flatMap_cons, ← ih, ← textsOf_append, List.singleton_append]

/-- A scan is the scans of the walked files alone, one after the other. -/
theorem scanned_eq_flatMap (separable : indexer.Separable project root files) :
    let alone := indexer.scanAlone project root
    (indexer.scanned project root).symbols = files.flatMap (fun path => (alone path).symbols) ∧
      (indexer.scanned project root).references
        = files.flatMap (fun path => (alone path).references) ∧
      (indexer.scanned project root).fileHashes
        = files.flatMap (fun path => (alone path).fileHashes) := by
  intro alone
  -- Names without colons keep the identifiers of the files apart.
  have shows := scanned_shows_of_plainNames separable.wellNamed separable.plainNames
  have spec := fun {path} => @scanAlone_spec indexer project root path files separable
  refine ⟨?_, ?_, ?_⟩
  · rw [shows.symbols, texts, ← separable.files_eq, textsOf_eq_flatMap, List.flatMap_assoc]
    exact congrArg List.flatten (List.map_congr_left fun path walked =>
      (spec walked).1.symbols.symm)
  · rw [references_scanned, ← separable.files_eq]
    exact congrArg List.flatten (List.map_congr_left fun path walked => (spec walked).2.symm)
  · rw [shows.fileHashes, texts, ← separable.files_eq, textsOf_eq_flatMap, List.map_flatMap]
    exact congrArg List.flatten (List.map_congr_left fun path walked =>
      (spec walked).1.fileHashes.symm)

/-- A text of one file bears its name. -/
private theorem eq_of_mem_textsOf {text : String × String}
    (member : text ∈ textsOf project root [path]) : text.1 = joinPath path := by
  -- The one file that is listed is the file of the text.
  obtain ⟨other, listed, _, named⟩ := mem_textsOf_iff.mp member
  rw [← named, List.mem_singleton.mp listed]

/-- All that the scan of a file alone gives bears the name of the file. -/
theorem scanAlone_named (separable : indexer.Separable project root files) (member : path ∈ files) :
    (∀ symbol ∈ (indexer.scanAlone project root path).symbols, symbol.file = joinPath path) ∧
      (∀ reference ∈ (indexer.scanAlone project root path).references,
        reference.file = joinPath path) ∧
      ∀ entry ∈ (indexer.scanAlone project root path).fileHashes, entry.1 = joinPath path := by
  -- Symbols and references carry the name of the text that they are found in.
  obtain ⟨shows, references⟩ := scanAlone_spec separable member
  rw [shows.symbols, references, shows.fileHashes]
  refine ⟨fun symbol inside => ?_, fun _ inside => file_of_mem_referencesAt inside,
    fun entry inside => ?_⟩
  · obtain ⟨text, listed, inside⟩ := List.mem_flatMap.mp inside
    rw [((indexer.pieceOf_spec text.1 text.2).1 symbol inside).place.1, eq_of_mem_textsOf listed]
  · obtain ⟨text, listed, rfl⟩ := List.mem_map.mp inside
    have named := eq_of_mem_textsOf listed
    exact named

/-- A scan holds of a walked file what the scan of the file alone gives. -/
theorem about_scanned (separable : indexer.Separable project root files) (member : path ∈ files) :
    let alone := indexer.scanAlone project root path
    (indexer.scanned project root).about (joinPath path)
      = (alone.symbols, alone.references, alone.fileHashes) := by
  intro alone
  -- Walked files have different names.
  have distinct := indexer.nodup_sourceNames separable.wellNamed root
  rw [sourceNames, ← separable.files_eq] at distinct
  have named :=
    fun other walked => @scanAlone_named indexer project root other files separable walked
  -- Of the concatenation, only what bears the name of the file is kept.
  obtain ⟨symbols, references, fileHashes⟩ := scanned_eq_flatMap separable
  simp only [Snapshot.about, symbols, references, fileHashes]
  rw [Draft.filter_flatMap_of_named distinct (fun other walked => (named other walked).1) member,
    Draft.filter_flatMap_of_named distinct (fun other walked => (named other walked).2.1) member,
    Draft.filter_flatMap_of_named distinct (fun other walked => (named other walked).2.2) member]

/-- A scan holds nothing of a path that is not walked. -/
private theorem about_scanned_of_not_mem (separable : indexer.Separable project root files)
    (named : path ≠ []) (free : SlashFree path) (skipped : path ∉ files) :
    (indexer.scanned project root).about (joinPath path) = ([], [], []) := by
  -- The name of a walked file is not the name of the path.
  have elsewhere : ∀ other ∈ files, joinPath other ≠ joinPath path := by
    intro other walked same
    obtain ⟨otherNamed, otherFree⟩ :=
      slashFree_of_mem_sourceFiles separable.wellNamed (separable.files_eq ▸ walked)
    exact skipped (joinPath_inj otherNamed named otherFree free same ▸ walked)
  -- So nothing in the three lists bears the name of the path.
  obtain ⟨symbols, references, fileHashes⟩ := scanned_eq_flatMap separable
  simp only [Snapshot.about, symbols, references, fileHashes, Prod.mk.injEq, List.filter_eq_nil_iff,
    List.mem_flatMap, beq_iff_eq]
  refine ⟨?_, ?_, ?_⟩
  · rintro symbol ⟨other, walked, inside⟩
    exact (scanAlone_named separable walked).1 symbol inside ▸ elsewhere other walked
  · rintro reference ⟨other, walked, inside⟩
    exact (scanAlone_named separable walked).2.1 reference inside ▸ elsewhere other walked
  · rintro entry ⟨other, walked, inside⟩
    exact (scanAlone_named separable walked).2.2 entry inside ▸ elsewhere other walked

variable {other : Folder} {others : List (List String)}

/-- A file that two trees share is read from both or from none. -/
theorem mem_sourceFiles_of_shares (wellNamed : project.wellNamed = true)
    (otherNamed : other.wellNamed = true) (shares : project.Shares other root path) :
    path ∈ indexer.sourceFiles other root ↔ path ∈ indexer.sourceFiles project root := by
  -- Being wanted is a matter of the name and the bytes.
  obtain ⟨entry, found, isLeaf⟩ := shares.stands
  obtain ⟨otherEntry, otherFound, otherLeaf⟩ := shares.standsToo
  have wants : indexer.wants other root (path, otherEntry)
      = indexer.wants project root (path, entry) :=
    indexer.wants_of_bytesAt? shares.bytes
  simp only [mem_sourceFiles_iff wellNamed, mem_sourceFiles_iff otherNamed, Meets, found,
    otherFound]
  constructor
  · rintro ⟨_, ⟨named, ⟨rfl⟩, _, passed⟩, wanted⟩
    exact ⟨entry, ⟨named, rfl, isLeaf, passed⟩, wants ▸ wanted⟩
  · rintro ⟨_, ⟨named, ⟨rfl⟩, _, passed⟩, wanted⟩
    exact ⟨otherEntry, ⟨named, rfl, otherLeaf, passed⟩, wants ▸ wanted⟩

/-- A scan holds the same of a file in every tree that shares it. -/
private theorem about_scanned_of_shares (separable : indexer.Separable project root files)
    (otherSeparable : indexer.Separable other root others)
    (shares : project.Shares other root path) :
    (indexer.scanned other root).about (joinPath path)
      = (indexer.scanned project root).about (joinPath path) := by
  -- The file is walked in both trees or in neither.
  have both := @mem_sourceFiles_of_shares indexer project root path other separable.wellNamed
    otherSeparable.wellNamed shares
  rw [← separable.files_eq, ← otherSeparable.files_eq] at both
  by_cases walked : path ∈ files
  · -- Alone, the file is known by its text.
    have sameText : other.textAt? (root ++ path) = project.textAt? (root ++ path) := by
      simp only [Folder.textAt?, shares.bytes]
    have sameTexts : textsOf other root [path] = textsOf project root [path] := by
      simp only [textsOf, List.filterMap_cons, List.filterMap_nil, sameText]
    have sameReferences : indexer.referencesAt other root path
        = indexer.referencesAt project root path := by
      simp only [referencesAt, sameText]
    obtain ⟨shows, own⟩ := scanAlone_spec separable walked
    obtain ⟨otherShows, otherOwn⟩ := scanAlone_spec otherSeparable (both.mpr walked)
    rw [about_scanned separable walked, about_scanned otherSeparable (both.mpr walked),
      otherShows.symbols, otherOwn, otherShows.fileHashes, shows.symbols, own, shows.fileHashes,
      sameTexts, sameReferences]
  · -- A file that is not walked leaves nothing in either scan.
    obtain ⟨entry, found, _⟩ := shares.stands
    have free : SlashFree path := fun name inside =>
      (Folder.wellNamed_at? separable.wellNamed found).2 name (by simp [inside])
    rw [about_scanned_of_not_mem separable shares.named free walked,
      about_scanned_of_not_mem otherSeparable shares.named free (mt both.mp walked)]

/-- A scan of a separable tree ends and is, in the order of the walk, the scans of its files
alone. No name of a symbol has a colon, also where lines are read for want of a syntax tree.
What is indexed for a file is the same in every separable tree that shares the file, whatever
other files there are. -/
theorem scan_decomposes (indexer : Indexer) (project : Folder) (root : List String)
    (files : List (List String)) (separable : indexer.Separable project root files) :
    ∃ whole, indexer.scan project root = .ok whole ∧
      (∃ alone : List String → Snapshot,
        (∀ path ∈ files, indexer.scan (project.alone (root ++ path)) root = .ok (alone path)) ∧
        whole.symbols = files.flatMap (fun path => (alone path).symbols) ∧
        whole.references = files.flatMap (fun path => (alone path).references) ∧
        whole.fileHashes = files.flatMap (fun path => (alone path).fileHashes)) ∧
      (∀ symbol ∈ whole.symbols, ':' ∉ symbol.name.toList) ∧
      ∀ other others, indexer.Separable other root others → ∀ path, project.Shares other root path →
        ∃ rest, indexer.scan other root = .ok rest ∧
          rest.about (joinPath path) = whole.about (joinPath path) := by
  -- A walk that ends is a scan that ends.
  have scans : ∀ {tree files}, indexer.Separable tree root files →
      indexer.scan tree root = .ok (indexer.scanned tree root) := fun separable =>
    (scan_eq_ok_iff separable.wellNamed).mpr ⟨⟨_, separable.walked⟩, rfl⟩
  have shows := scanned_shows_of_plainNames separable.wellNamed separable.plainNames
  refine ⟨_, scans separable,
    ⟨indexer.scanAlone project root, fun path member => scan_alone separable member,
      scanned_eq_flatMap separable⟩,
    fun symbol member => ?_,
    fun other others otherSeparable path shares =>
      ⟨_, scans otherSeparable, about_scanned_of_shares separable otherSeparable shares⟩⟩
  -- Every symbol comes from the text of a walked file.
  rw [shows.symbols] at member
  obtain ⟨text, listed, inside⟩ := List.mem_flatMap.mp member
  exact separable.plainNames text listed symbol inside

/-- A flat tree whose files have proper names is separable when nothing is parsed and
no leaf stops the walk. -/
private theorem separable_of_flat {flat : Folder} (unparsed : indexer.parser = none)
    (wellNamed : flat.wellNamed = true)
    (isFlat : ∀ pair ∈ flat, pair.2.isFolder = false ∧ Folder.isName pair.1 = true)
    (passes : ∀ pair ∈ flat, (indexer.inspect flat [] ([pair.1], pair.2)).toOption.isSome = true) :
    indexer.Separable flat [] (indexer.sourceFiles flat []) := by
  -- In a flat tree every leaf stands at the top.
  have single : ∀ {path entry}, indexer.Meets flat [] path entry →
      ∃ name, path = [name] ∧ (name, entry) ∈ flat := by
    rintro path entry ⟨_, found, isLeaf, _⟩
    exact Folder.leaf_of_flat (fun pair inside => (isFlat pair inside).1) isLeaf found
  -- No leaf stops the walk.
  have ends : ∃ files, indexer.walk flat [] = .ok files := by
    rw [walk_ends_iff wellNamed]
    rintro path entry meets ⟨fault, fails⟩
    obtain ⟨name, rfl, listed⟩ := single meets
    have passed := passes _ listed
    rw [fails] at passed
    cases passed
  obtain ⟨files, walked⟩ := ends
  refine ⟨wellNamed, walk_eq_ok wellNamed walked ▸ walked, fun path member name inside => ?_, ?_⟩
  · obtain ⟨entry, meets, _⟩ := (mem_sourceFiles_iff wellNamed).mp member
    obtain ⟨only, rfl, listed⟩ := single meets
    rw [List.nil_append, List.mem_singleton] at inside
    exact inside ▸ (isFlat _ listed).2
  · -- Without a parser there is no syntax tree.
    rintro path _ content language tree _ ⟨_, parser, _, isParser, _⟩
    rw [unparsed] at isParser
    cases isParser

/-- Two files that declare the same class, and the second of them without the first: what is indexed
for the second file is the same. -/
theorem scan_decomposes_namesakes :
    let language : Language := {
      identity := { name := "t", displayName := "T", extensions := [".t"] }
      symbolPatterns := []
      referencePatterns := .ok []
      parameterNames := fun _ => []
      inferKind := fun _ kind => kind }
    let indexer : Indexer := ⟨{}, Registry.empty.registerAll [language], none⟩
    let project : Folder :=
      [("a.t", .file "class F".toUTF8), ("b.t", .file "class F\nimport a".toUTF8)]
    let rest : Folder := [("b.t", .file "class F\nimport a".toUTF8)]
    ∃ whole part, indexer.scan project [] = .ok whole ∧ indexer.scan rest [] = .ok part ∧
      part.about "b.t" = whole.about "b.t" ∧ (part.about "b.t").1.map Symbol.id = ["b.t:F"] := by
  -- Both trees are flat, and the second file is the same in both.
  intro language indexer project rest
  have separable :=
    @separable_of_flat indexer project rfl (by decide) (by decide) (by decide +kernel)
  have separableRest :=
    @separable_of_flat indexer rest rfl (by decide) (by decide) (by decide +kernel)
  let entry := Entry.file "class F\nimport a".toUTF8
  have shares : project.Shares rest [] ["b.t"] :=
    ⟨by decide, ⟨entry, by simp [project, entry], rfl⟩, ⟨entry, by simp [rest, entry], rfl⟩,
      by decide +kernel⟩
  obtain ⟨whole, isWhole, _, _, shared⟩ := scan_decomposes indexer project [] _ separable
  obtain ⟨part, isPart, same⟩ := shared rest _ separableRest ["b.t"] shares
  refine ⟨whole, part, isWhole, isPart, same, ?_⟩
  rw [((scan_eq_ok_iff separableRest.wellNamed).mp isPart).2]
  decide +kernel

/-- A file that is added to a tree in which a link leads through its name stops the scan, and
nothing is indexed any more for a file that was indexed before. -/
theorem scan_stopped_by_added_file :
    let language : Language := {
      identity := { name := "javascript", displayName := "JavaScript", extensions := [".js"] }
      symbolPatterns := []
      referencePatterns := .ok []
      parameterNames := fun _ => []
      inferKind := fun _ kind => kind }
    let indexer : Indexer := ⟨{}, Registry.empty.registerAll [language], none⟩
    let before : Folder := [("a.js", .link "f.js/x"), ("b.js", .file "class F".toUTF8)]
    let after : Folder := before ++ [("f.js", .file "class G".toUTF8)]
    (∃ files, indexer.Separable before [] files) ∧ before.Shares after [] ["b.js"] ∧
      (∃ whole, indexer.scan before [] = .ok whole ∧
        (whole.about "b.js").1.map Symbol.id = ["b.js:F"]) ∧
      ¬ ∃ whole, indexer.scan after [] = .ok whole := by
  -- Before the file is added the link leads nowhere, and both leaves pass.
  intro language indexer before after
  have separable :=
    @separable_of_flat indexer before rfl (by decide) (by decide) (by decide +kernel)
  let entry := Entry.file "class F".toUTF8
  have shares : before.Shares after [] ["b.js"] :=
    ⟨by decide, ⟨entry, by simp [before, entry], rfl⟩, ⟨entry, by simp [before, after, entry], rfl⟩,
      by decide +kernel⟩
  have walked : ["b.js"] ∈ indexer.sourceFiles before [] := by
    refine (mem_sourceFiles_iff separable.wellNamed).mpr
      ⟨entry, ⟨by simp, by simp [before, entry], rfl, by simp⟩, ?_⟩
    decide +kernel
  refine ⟨⟨_, separable⟩, shares,
    ⟨_, (scan_eq_ok_iff separable.wellNamed).mpr ⟨⟨_, separable.walked⟩, rfl⟩, ?_⟩, ?_⟩
  · have about := about_scanned separable walked
    have named : joinPath ["b.js"] = "b.js" := by decide +kernel
    rw [named] at about
    rw [about]
    decide +kernel
  · -- Behind the file that has been added, the path of the link goes on.
    have wellNamed : after.wellNamed = true := by
      decide
    rintro ⟨whole, isWhole⟩
    have unstopped := (walk_ends_iff wellNamed).mp ((scan_eq_ok_iff wellNamed).mp isWhole).1
    have linked : after.at? ["a.js"] = some (.link "f.js/x") := by
      simp [before, after]
    refine unstopped ["a.js"] _ ⟨by simp, linked, rfl, by simp⟩ ?_
    have stops : (indexer.inspect after [] (["a.js"], .link "f.js/x")).toOption = none := by
      decide +kernel
    cases seen : indexer.inspect after [] (["a.js"], .link "f.js/x") with
    | error fault => exact ⟨fault, rfl⟩
    | ok wanted => rw [seen] at stops; cases stops

end Indexer

end SourceAtlas
