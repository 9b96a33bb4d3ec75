import SourceAtlas.Index.Scan
import SourceAtlas.Proofs.FileTree.Store
import SourceAtlas.Proofs.FileTree.Walk

/-! The files that a scan reads: which ones, in which order, and under which names. -/

namespace SourceAtlas

/-- A path below a folder is named by what comes behind the folder. -/
@[simp] theorem nameFrom_append (folder path : List String) :
    nameFrom folder (folder ++ path) = joinPath path := by
  simp [nameFrom]

/-- A value has no fault to wrap. -/
private theorem mapError_ok {ε φ α : Type} (wrap : ε → φ) (value : α) :
    (Except.ok value : Except ε α).mapError wrap = .ok value := rfl

/-- A fault is wrapped. -/
private theorem mapError_error {ε φ α : Type} (wrap : ε → φ) (fault : ε) :
    (Except.error fault : Except ε α).mapError wrap = .error (wrap fault) := rfl

/-- A result that has a value is that value. -/
theorem eq_ok_of_toOption {ε α : Type} {result : Except ε α} {value : α}
    (found : result.toOption = some value) : result = .ok value := by
  -- A fault has no value.
  cases result with
  | error fault => cases found
  | ok other => rw [Option.some.inj found]

/-- A result that has some value is one. -/
theorem exists_ok_of_isSome {ε α : Type} {result : Except ε α}
    (found : result.toOption.isSome = true) : ∃ value, result = .ok value := by
  obtain ⟨value, isValue⟩ := Option.isSome_iff_exists.mp found
  exact ⟨value, eq_ok_of_toOption isValue⟩

namespace Indexer

/-! ## The leaves that are met -/

/-- A file or link below the root, in folders none of which is ignored. -/
def Meets (indexer : Indexer) (tree : Folder) (root path : List String) (entry : Entry) : Prop :=
  path ≠ [] ∧ tree.at? (root ++ path) = some entry ∧ entry.isFolder = false ∧
    ∀ name ∈ path.dropLast, name ∉ indexer.settings.ignoreDirs

variable {indexer : Indexer} {tree : Folder} {root path : List String} {entry : Entry} {leaf : Leaf}
  {leaves : List Leaf} {files : List (List String)}

/-- The leaves below the root, without those in ignored folders. -/
def leavesBelow (indexer : Indexer) (tree : Folder) (root : List String) : List Leaf :=
  match tree.at? root with
  | some (.folder entries) => Folder.leaves indexer.settings.ignoreDirs.contains entries
  | _ => []

/-- A walk goes through the leaves below the root and selects files. -/
theorem walk_eq_select (indexer : Indexer) (tree : Folder) (root : List String) :
    indexer.walk tree root = indexer.select tree root (indexer.leavesBelow tree root) := by
  -- A root that is missing or a leaf has no leaves below.
  rw [walk, leavesBelow]
  cases tree.at? root with
  | none => rfl
  | some entry => cases entry <;> rfl

/-- The leaves below the root are those that are met. -/
theorem mem_leavesBelow_iff (wellNamed : tree.wellNamed = true) :
    (path, entry) ∈ indexer.leavesBelow tree root ↔ indexer.Meets tree root path entry := by
  -- What stands at the root decides whether anything stands below.
  cases atRoot : tree.at? root with
  | none => simp [leavesBelow, Meets, Folder.at?_append, atRoot]
  | some standing =>
    cases standing with
    | folder entries =>
      have inner := (Folder.wellNamed_at? wellNamed atRoot).1
      rw [leavesBelow, atRoot, Folder.mem_leaves_iff _ inner]
      simp only [Folder.HasLeaf, Meets, Folder.at?_append, atRoot, Option.bind_some,
        Entry.at?_folder, List.contains_eq_mem, decide_eq_false_iff_not]
      constructor
      · rintro ⟨found, isLeaf, passed⟩
        refine ⟨?_, found, isLeaf, passed⟩
        -- The folder itself is no leaf.
        rintro rfl
        simp only [Folder.at?_nil, Option.some.injEq] at found
        simp [← found, Entry.isFolder] at isLeaf
      · rintro ⟨-, met⟩
        exact met
    | _ =>
      -- Below a leaf nothing stands.
      simp only [leavesBelow, atRoot, List.not_mem_nil, Meets, false_iff, not_and]
      intro named
      obtain ⟨name, rest, rfl⟩ := List.exists_cons_of_ne_nil named
      simp [Folder.at?_append, atRoot]

/-- The leaves below the root stand in the order of their names. -/
private theorem pairwise_leavesBelow (indexer : Indexer) (wellNamed : tree.wellNamed = true)
    (root : List String) :
    ((indexer.leavesBelow tree root).map Prod.fst).Pairwise (· < ·) := by
  -- Below a folder the leaves are in order already.
  rw [leavesBelow]
  split
  · rename_i entries atRoot
    exact Folder.pairwise_leaves _ (Folder.wellNamed_at? wellNamed atRoot).1
  · -- Below a root that is no folder stands nothing.
    exact .nil

/-! ## The files to be read -/

/-- Whether a leaf is a file to be read; one that stops the walk is none. -/
def wants (indexer : Indexer) (tree : Folder) (root : List String) (leaf : Leaf) : Bool :=
  (indexer.inspect tree root leaf).toOption.getD false

/-- The files to be read below the root, in the order of the walk. -/
def sourceFiles (indexer : Indexer) (tree : Folder) (root : List String) : List (List String) :=
  ((indexer.leavesBelow tree root).filter (indexer.wants tree root)).map Prod.fst

/-- The names of the files that a scan reads, in the order of the walk. -/
def sourceNames (indexer : Indexer) (tree : Folder) (root : List String) : List String :=
  (indexer.sourceFiles tree root).map joinPath

/-- A file to be read is a leaf that passes every test. -/
theorem wants_iff :
    indexer.wants tree root leaf = true ↔ indexer.inspect tree root leaf = .ok true := by
  -- A fault says no as well.
  rw [wants]
  cases indexer.inspect tree root leaf with
  | error fault => simp [Except.toOption]
  | ok wanted => simp [Except.toOption]

/-- A leaf is a file to be read iff its path leads to a file of a known language that is not too
large, and its name is not ignored. -/
theorem wants_iff_bytesAt? : indexer.wants tree root (path, entry) = true ↔
    ∃ bytes language, tree.bytesAt? (root ++ path) = some bytes ∧
      matchesAny (indexer.settings.ignoreFiles.map Glob.parse) (path.getLast?.getD "") = false ∧
      indexer.registry.ofPath (path.getLast?.getD "") = .ok (some language) ∧
      (bytes.size : Int) ≤ indexer.settings.maxFileSize := by
  -- The tests are made one after the other, and each that fails says no or stops the walk.
  rw [wants_iff, inspect, Folder.bytesAt?]
  cases tree.fileAt (root ++ path) with
  | error fault => simp [bind, Except.bind, Except.toOption, mapError_error]
  | ok file =>
    cases file with
    | none => simp [bind, Except.bind, pure, Except.pure, Except.toOption, mapError_ok]
    | some bytes =>
      cases matchesAny (indexer.settings.ignoreFiles.map Glob.parse) (path.getLast?.getD "") with
      | true => simp [bind, Except.bind, pure, Except.pure, Except.toOption, mapError_ok]
      | false =>
        cases indexer.registry.ofPath (path.getLast?.getD "") with
        | error reason => simp [bind, Except.bind, Except.toOption, mapError_ok, mapError_error]
        | ok language =>
          cases language <;>
            simp [bind, Except.bind, pure, Except.pure, Except.toOption, mapError_ok]

/-- What a leaf is to a scan depends on the file that its path leads to. -/
theorem wants_of_bytesAt? (indexer : Indexer) {other : Folder} {standing : Entry}
    (same : other.bytesAt? (root ++ path) = tree.bytesAt? (root ++ path)) :
    indexer.wants other root (path, standing) = indexer.wants tree root (path, entry) := by
  -- The tests look at the name and the bytes, and at nothing else.
  rw [Bool.eq_iff_iff, wants_iff_bytesAt?, wants_iff_bytesAt?, same]

/-- Where no leaf stops the walk, the files to be read are selected. -/
private theorem select_of_unstopped
    (unstopped : ∀ leaf ∈ leaves, ¬ ∃ fault, indexer.inspect tree root leaf = .error fault) :
    indexer.select tree root leaves
      = .ok ((leaves.filter (indexer.wants tree root)).map Prod.fst) := by
  -- One leaf after the other is looked at, and passes.
  induction leaves with
  | nil => rfl
  | cons leaf leaves ih =>
    have rest := ih fun other member => unstopped other (List.mem_cons_of_mem _ member)
    cases seen : indexer.inspect tree root leaf with
    | error fault => exact absurd ⟨fault, seen⟩ (unstopped leaf List.mem_cons_self)
    | ok wanted =>
      rw [select, seen, rest]
      cases wanted with
      | false => simp [bind, Except.bind, pure, Except.pure, wants, seen, Except.toOption]
      | true => simp [bind, Except.bind, pure, Except.pure, wants, seen, Except.toOption]

/-- A leaf that stops the walk stops the selection, unless another one did before. -/
private theorem select_of_stopped (member : leaf ∈ leaves)
    (stops : ∃ fault, indexer.inspect tree root leaf = .error fault) :
    ∃ fault, indexer.select tree root leaves = .error fault := by
  -- The leaves before it pass or stop the walk themselves.
  induction leaves with
  | nil => cases member
  | cons first leaves ih =>
    rw [select]
    cases seen : indexer.inspect tree root first with
    | error fault => exact ⟨fault, rfl⟩
    | ok wanted =>
      rcases List.mem_cons.mp member with rfl | later
      · obtain ⟨fault, fails⟩ := stops
        rw [seen] at fails
        cases fails
      · obtain ⟨fault, fails⟩ := ih later
        rw [fails]
        exact ⟨fault, rfl⟩

/-- A walk ends exactly when no leaf that is met stops it. -/
theorem walk_ends_iff (wellNamed : tree.wellNamed = true) :
    (∃ files, indexer.walk tree root = .ok files) ↔
    ∀ path entry, indexer.Meets tree root path entry →
      ¬ ∃ fault, indexer.inspect tree root (path, entry) = .error fault := by
  -- The walk selects among the leaves, so it is stopped by a leaf or not at all.
  rw [walk_eq_select]
  constructor
  · rintro ⟨files, ends⟩ path entry meets stops
    obtain ⟨fault, fails⟩ := select_of_stopped ((mem_leavesBelow_iff wellNamed).mpr meets) stops
    rw [ends] at fails
    cases fails
  · intro unstopped
    exact ⟨_, select_of_unstopped fun leaf member =>
      unstopped leaf.1 leaf.2 ((mem_leavesBelow_iff wellNamed).mp member)⟩

/-- A walk that meets only files to be read ends. -/
theorem walk_ends_of_wanted (wellNamed : tree.wellNamed = true)
    (wanted : ∀ path entry, indexer.Meets tree root path entry →
      indexer.wants tree root (path, entry) = true) :
    ∃ files, indexer.walk tree root = .ok files := by
  -- A file to be read does not stop the walk.
  rw [walk_ends_iff wellNamed]
  rintro path entry meets ⟨fault, fails⟩
  rw [wants_iff.mp (wanted path entry meets)] at fails
  cases fails

/-- A walk that ends has found the files to be read. -/
theorem walk_eq_ok (wellNamed : tree.wellNamed = true) (ends : indexer.walk tree root = .ok files) :
    files = indexer.sourceFiles tree root := by
  -- A walk that ends was not stopped, and selects the files to be read.
  have unstopped := (walk_ends_iff wellNamed).mp ⟨files, ends⟩
  rw [walk_eq_select, select_of_unstopped fun leaf member =>
    unstopped leaf.1 leaf.2 ((mem_leavesBelow_iff wellNamed).mp member)] at ends
  exact (Except.ok.inj ends).symm

/-- A file is read iff it or a link to it stands below the root in folders that are not
skipped, and it is wanted. -/
theorem mem_sourceFiles_iff (wellNamed : tree.wellNamed = true) {path : List String} :
    path ∈ indexer.sourceFiles tree root ↔
      ∃ entry, indexer.Meets tree root path entry ∧
        indexer.wants tree root (path, entry) = true := by
  -- The leaves of the walk are those that are met.
  simp only [sourceFiles, List.mem_map, List.mem_filter]
  constructor
  · rintro ⟨⟨path, entry⟩, ⟨member, wanted⟩, rfl⟩
    exact ⟨entry, (mem_leavesBelow_iff wellNamed).mp member, wanted⟩
  · rintro ⟨entry, meets, wanted⟩
    exact ⟨(path, entry), ⟨(mem_leavesBelow_iff wellNamed).mpr meets, wanted⟩, rfl⟩

/-- The files are read in the order of their names at every level. -/
theorem pairwise_sourceFiles (indexer : Indexer) (wellNamed : tree.wellNamed = true)
    (root : List String) : (indexer.sourceFiles tree root).Pairwise (· < ·) :=
  (indexer.pairwise_leavesBelow wellNamed root).sublist (List.filter_sublist.map Prod.fst)

/-- The path of a file that is read has a name, and no name has a slash. -/
theorem slashFree_of_mem_sourceFiles (wellNamed : tree.wellNamed = true) {path : List String}
    (member : path ∈ indexer.sourceFiles tree root) :
    path ≠ [] ∧ ∀ name ∈ path, '/' ∉ name.toList := by
  -- The file stands under its names in a well-named tree.
  obtain ⟨entry, ⟨named, found, _⟩, _⟩ := (mem_sourceFiles_iff wellNamed).mp member
  exact ⟨named, fun name inside => (Folder.wellNamed_at? wellNamed found).2 name (by simp [inside])⟩

/-- The files that a scan reads are told apart by their names. -/
theorem sourceFiles_inj (wellNamed : tree.wellNamed = true) {path other : List String}
    (member : path ∈ indexer.sourceFiles tree root)
    (otherMember : other ∈ indexer.sourceFiles tree root) (same : joinPath path = joinPath other) :
    path = other := by
  -- Slash-free names can be read off the joined path.
  obtain ⟨named, free⟩ := slashFree_of_mem_sourceFiles wellNamed member
  obtain ⟨otherNamed, otherFree⟩ := slashFree_of_mem_sourceFiles wellNamed otherMember
  exact joinPath_inj named otherNamed free otherFree same

/-- The name of a file that is read earlier does not go on from that of a later one with a colon. -/
theorem not_colon_of_lt (wellNamed : tree.wellNamed = true) {path other : List String}
    (member : path ∈ indexer.sourceFiles tree root)
    (otherMember : other ∈ indexer.sourceFiles tree root) (earlier : other < path)
    (rest : List Char) :
    (joinPath other).toList ≠ (joinPath path).toList ++ ':' :: rest := by
  -- A longer name comes later in the order of names.
  obtain ⟨named, free⟩ := slashFree_of_mem_sourceFiles wellNamed member
  obtain ⟨otherNamed, otherFree⟩ := slashFree_of_mem_sourceFiles wellNamed otherMember
  exact fun longer => List.lt_asymm earlier
    (lt_of_joinPath_colon named otherNamed free otherFree longer)

/-- No two files are read under one name. -/
theorem nodup_sourceNames (indexer : Indexer) (wellNamed : tree.wellNamed = true)
    (root : List String) : (indexer.sourceNames tree root).Nodup := by
  -- The order of the walk is strict, and distinct paths have distinct names.
  rw [sourceNames, List.Nodup, List.pairwise_map]
  refine (indexer.pairwise_sourceFiles wellNamed root).imp_of_mem
    fun {path other} member otherMember less same => ?_
  -- Equal names would come from equal paths, and the order is strict.
  exact List.lt_irrefl _ (sourceFiles_inj wellNamed member otherMember same ▸ less)

/-! ## Scans -/

/-- What a scan reads when nothing stops its walk. -/
def scanned (indexer : Indexer) (tree : Folder) (root : List String) : Snapshot :=
  indexer.index tree root (indexer.sourceFiles tree root)

/-- What a refresh gives when nothing stops its walk. -/
def refreshed (indexer : Indexer) (tree : Folder) (root : List String) (previous : Snapshot) :
    Snapshot × Changes :=
  indexer.renew tree root previous (indexer.sourceFiles tree root)

/-- Files below the root are read under their names seen from it. -/
theorem scanned_eq (indexer : Indexer) (tree : Folder) (root : List String) :
    indexer.scanned tree root = indexer.snapshot ((indexer.sourceFiles tree root).foldl
      (fun draft file => (indexer.addFile tree (root ++ file) (joinPath file) draft).1) {})
      (indexer.sourceFiles tree root).length := by
  -- A path below the root is named by what comes behind the root.
  simp only [scanned, index, indexFile, nameFrom_append]

/-- A scan returns what it reads, exactly when its walk ends. -/
theorem scan_eq_ok_iff (wellNamed : tree.wellNamed = true) {snapshot : Snapshot} :
    indexer.scan tree root = .ok snapshot ↔
      (∃ files, indexer.walk tree root = .ok files) ∧ snapshot = indexer.scanned tree root := by
  -- The scan goes over the files of the walk.
  rw [scan]
  cases ends : indexer.walk tree root with
  | error fault => simp [Except.map]
  | ok files => simp [Except.map, scanned, walk_eq_ok wellNamed ends, eq_comm]

/-- A refresh returns what it finds, exactly when its walk ends. -/
theorem refresh_eq_ok_iff (wellNamed : tree.wellNamed = true) {previous : Snapshot}
    {result : Snapshot × Changes} :
    indexer.refresh tree root previous = .ok result ↔
      (∃ files, indexer.walk tree root = .ok files) ∧
      result = indexer.refreshed tree root previous := by
  -- The refresh goes over the files of the walk.
  rw [refresh]
  cases ends : indexer.walk tree root with
  | error fault => simp [Except.map]
  | ok files => simp [Except.map, refreshed, walk_eq_ok wellNamed ends, eq_comm]

/-! ## Growing trees -/

/-- A spot is left aside: every file that is walked, before or after a tree has grown,
stood elsewhere before. -/
def LeavesAside (indexer : Indexer) (root : List String) (spot : Option (List String))
    (tree after : Folder) : Prop :=
  ∀ path, path ∈ indexer.sourceFiles tree root ∨ path ∈ indexer.sourceFiles after root →
    some (root ++ path) ≠ spot ∧
      ∃ other, tree.locate (root ++ path) = .ok other ∧ some other ≠ spot

variable {after : Folder} {spot : Option (List String)}

/-- A path that led elsewhere leads to the same bytes after a tree has grown. -/
private theorem bytesAt?_of_grows (grows : tree.GrowsBeside spot after) {path other : List String}
    (leads : tree.locate path = .ok other) (elsewhere : some other ≠ spot) :
    after.bytesAt? path = tree.bytesAt? path := by
  have leads' : after.locate path = .ok other := grows.larger.resolve leads
  -- The place that the path leads to holds the same file as before, or none.
  apply Option.ext
  intro bytes
  rw [Folder.bytesAt?_eq_some_iff, Folder.bytesAt?_eq_some_iff, leads, leads']
  simp only [Except.ok.injEq, exists_eq_left']
  exact grows.leaves rfl elsewhere

/-- The walk meets the same files after a tree has grown beside them. -/
private theorem sourceFiles_of_grows (wellNamed : tree.wellNamed = true)
    (afterNamed : after.wellNamed = true) (grows : tree.GrowsBeside spot after)
    (aside : indexer.LeavesAside root spot tree after) :
    indexer.sourceFiles after root = indexer.sourceFiles tree root := by
  -- The bytes behind a walked path are the same, so it is wanted as before.
  have wants : ∀ path entry, (∃ other, tree.locate (root ++ path) = .ok other ∧ some other ≠ spot) →
      indexer.wants after root (path, entry) = indexer.wants tree root (path, entry) := by
    rintro path entry ⟨other, leads, elsewhere⟩
    exact indexer.wants_of_bytesAt? (bytesAt?_of_grows grows leads elsewhere)
  -- Both walks are strictly in order, so it is enough that they meet the same files.
  have before := indexer.pairwise_sourceFiles wellNamed root
  have later := indexer.pairwise_sourceFiles afterNamed root
  have nodup : ∀ {files : List (List String)}, files.Pairwise (· < ·) → files.Nodup := by
    intro files sorted
    refine sorted.imp fun {a b} less => ?_
    rintro rfl
    exact List.lt_irrefl _ less
  refine List.Perm.eq_of_pairwise (fun a b _ _ less greater => absurd greater (List.lt_asymm less))
    later before
    ((List.perm_ext_iff_of_nodup (nodup later) (nodup before)).mpr fun path => ?_)
  constructor
  · intro member
    obtain ⟨apart, elsewhere⟩ := aside path (.inr member)
    obtain ⟨entry, ⟨named, found, isLeaf, passed⟩, wanted⟩ :=
      (mem_sourceFiles_iff afterNamed).mp member
    rw [wants path entry elsewhere] at wanted
    have before := (grows.leaves isLeaf apart).mp found
    exact (mem_sourceFiles_iff wellNamed).mpr ⟨entry, ⟨named, before, isLeaf, passed⟩, wanted⟩
  · intro member
    obtain ⟨apart, elsewhere⟩ := aside path (.inl member)
    obtain ⟨entry, ⟨named, found, isLeaf, passed⟩, wanted⟩ :=
      (mem_sourceFiles_iff wellNamed).mp member
    rw [← wants path entry elsewhere] at wanted
    have later := (grows.leaves isLeaf apart).mpr found
    exact (mem_sourceFiles_iff afterNamed).mpr ⟨entry, ⟨named, later, isLeaf, passed⟩, wanted⟩

/-- In a tree that has grown from a flat one by a file in a skipped folder, only entries
of the flat one are met. -/
theorem meets_of_grown {flat : Folder} {place : List String}
    (isFlat : ∀ pair ∈ flat, pair.2.isFolder = false)
    (skipped : ∃ name ∈ place.dropLast, indexer.settings.ignoreDirs.contains name = true)
    (grown : ∀ path entry, entry.isFolder = false → path ≠ place → tree.at? path = some entry →
      flat.at? path = some entry) {path : List String} {entry : Entry}
    (meets : indexer.Meets tree [] path entry) : ∃ name, path = [name] ∧ (name, entry) ∈ flat := by
  obtain ⟨_, found, isLeaf, passed⟩ := meets
  -- The walk does not reach the new file, since it would have to pass the skipped folder.
  have elsewhere : path ≠ place := by
    rintro rfl
    obtain ⟨name, inside, isSkipped⟩ := skipped
    exact passed name inside (by simpa using isSkipped)
  exact Folder.leaf_of_flat isFlat isLeaf (grown path entry isLeaf elsewhere found)

/-- A scan reads the same after a tree has grown beside the files of its walk. -/
theorem scanned_of_grows (wellNamed : tree.wellNamed = true) (afterNamed : after.wellNamed = true)
    (grows : tree.GrowsBeside spot after) (aside : indexer.LeavesAside root spot tree after) :
    indexer.scanned after root = indexer.scanned tree root := by
  -- The walk is the same, and so is every text.
  have same := sourceFiles_of_grows wellNamed afterNamed grows aside
  have step : ∀ path ∈ indexer.sourceFiles tree root, ∀ draft,
      (indexer.addFile after (root ++ path) (joinPath path) draft).1
        = (indexer.addFile tree (root ++ path) (joinPath path) draft).1 := by
    intro path member draft
    obtain ⟨_, other, leads, elsewhere⟩ := aside path (.inl member)
    simp only [addFile, Folder.textAt?, bytesAt?_of_grows grows leads elsewhere]
  -- The same files are read one by one, each with the text that it had.
  have run : ∀ (files : List (List String)) (draft : Draft),
      (∀ path ∈ files, path ∈ indexer.sourceFiles tree root) →
      files.foldl (fun draft file =>
          (indexer.addFile after (root ++ file) (joinPath file) draft).1) draft
        = files.foldl (fun draft file =>
          (indexer.addFile tree (root ++ file) (joinPath file) draft).1) draft := by
    intro files
    induction files with
    | nil => exact fun _ _ => rfl
    | cons path files ih =>
      intro draft members
      simp only [List.forall_mem_cons] at members
      rw [List.foldl_cons, List.foldl_cons, step path members.1, ih _ members.2]
  rw [scanned_eq, scanned_eq, same, run _ _ fun path member => member]

end Indexer

end SourceAtlas
