import SourceAtlas.Proofs.Index.Files
import SourceAtlas.Proofs.Index.References

/-! What a refresh reports and which references it finds, for any previous snapshot. -/

namespace SourceAtlas

/-- How a walked file stands to a previous snapshot. -/
inductive Standing where
  /-- The snapshot has no fingerprint of the file. -/
  | added
  /-- It has one that is not that of the file. -/
  | updated
  | unchanged
  deriving DecidableEq

namespace Indexer

/-- The fingerprint of the file at the end of a path; a file that cannot be read has none. -/
def currentHash? (project : Folder) (path : List String) : Option String :=
  (project.textAt? path).map fingerprint

/-- How a file stands to a previous snapshot: by the fingerprint that it has
now and the one it had. -/
def standing (project : Folder) (root : List String) (previous : Snapshot) (path : List String) :
    Standing :=
  match previous.fileHashes.get? (joinPath path) with
  | none => .added
  | some hash => if currentHash? project (root ++ path) = some hash then .unchanged else .updated

/-- A file has changed unless it has the fingerprint. -/
theorem hasChanged_iff {project : Folder} {path : List String} {hash : String} :
    hasChanged project path hash = true ↔ currentHash? project path ≠ some hash := by
  -- A file that cannot be read has changed.
  unfold hasChanged currentHash?
  split <;> simp_all

/-- The changes with one more file that stands so. -/
def noted (file : String) (changes : Changes) : Standing → Changes
  | .added => { changes with added := changes.added ++ [file] }
  | .updated => { changes with updated := changes.updated ++ [file] }
  | .unchanged => { changes with unchanged := changes.unchanged + 1 }

variable {indexer : Indexer} {project : Folder} {root : List String} {previous : Snapshot}

/-- A refreshed file is noted as it stands, and its references are found unless it is unchanged. -/
private theorem refreshFile_spec (indexer : Indexer) (project : Folder) (root : List String)
    (previous : Snapshot) (state : Draft × Changes) (path : List String) :
    (indexer.refreshFile project root previous state path).2
        = noted (joinPath path) state.2 (standing project root previous path) ∧
      (indexer.refreshFile project root previous state path).1.references = state.1.references ++
        if standing project root previous path = .unchanged then []
        else indexer.referencesAt project root path := by
  -- A file without a known fingerprint and a changed one are both read.
  have read := references_addFile indexer project root path state.1
  cases known : previous.fileHashes.get? (joinPath path) with
  | none => simp [refreshFile, indexFile, standing, known, noted, read]
  | some hash =>
    by_cases same : currentHash? project (root ++ path) = some hash
    · have isSame : hasChanged project (root ++ path) hash = false := by
        rw [← Bool.not_eq_true, hasChanged_iff]
        exact fun differs => differs same
      simp [refreshFile, standing, known, same, isSame, noted, references_carry]
    · simp [refreshFile, indexFile, standing, known, same, hasChanged_iff.mpr same, noted, read]

/-- The files of some that stand in a way, by name and in order. -/
def filesOf (project : Folder) (root : List String) (previous : Snapshot)
    (files : List (List String)) (wanted : Standing) : List String :=
  (files.filter fun path => standing project root previous path = wanted).map joinPath

/-- A run over some files notes each of them as it stands. -/
private theorem changes_foldl (indexer : Indexer) (project : Folder) (root : List String)
    (previous : Snapshot) (files : List (List String)) (state : Draft × Changes) :
    let after := (files.foldl (indexer.refreshFile project root previous) state).2
    after.added = state.2.added ++ filesOf project root previous files .added ∧
      after.updated = state.2.updated ++ filesOf project root previous files .updated ∧
      after.unchanged = state.2.unchanged
        + (filesOf project root previous files .unchanged).length := by
  -- Every file goes to the end of the list of its standing, so what has been noted stays in front.
  induction files generalizing state with
  | nil => simp [filesOf]
  | cons path files ih =>
    obtain ⟨isAdded, isUpdated, isUnchanged⟩ :=
      ih (indexer.refreshFile project root previous state path)
    simp only [List.foldl_cons, isAdded, isUpdated, isUnchanged,
      (indexer.refreshFile_spec _ _ _ _ _).1]
    cases stands : standing project root previous path <;>
      simp [noted, filesOf, stands, Nat.add_assoc, Nat.add_comm]

/-- A run over some files finds the references of those that are not unchanged. -/
theorem references_foldl_refreshFile (indexer : Indexer) (project : Folder) (root : List String)
    (previous : Snapshot) (files : List (List String)) (state : Draft × Changes) :
    (files.foldl (indexer.refreshFile project root previous) state).1.references
      = state.1.references ++ files.flatMap fun path =>
          if standing project root previous path = .unchanged then []
          else indexer.referencesAt project root path := by
  -- Each file adds its own references behind those of the files before.
  induction files generalizing state with
  | nil => simp
  | cons path files ih =>
    rw [List.foldl_cons, ih, (indexer.refreshFile_spec project root previous state path).2,
      List.flatMap_cons, List.append_assoc]

/-- Each file stands in one of three ways. -/
theorem length_filesOf (project : Folder) (root : List String) (previous : Snapshot)
    (files : List (List String)) :
    (filesOf project root previous files .added).length
      + (filesOf project root previous files .updated).length
      + (filesOf project root previous files .unchanged).length = files.length := by
  -- One of the three lists gets longer with every file.
  induction files with
  | nil => rfl
  | cons path files ih =>
    simp only [filesOf, List.length_map] at ih ⊢
    cases stands : standing project root previous path <;> simp [stands] <;> omega

/-- The name of a walked file is among the names of those that stand in a way
iff the file stands so. -/
theorem joinPath_mem_filesOf_iff (wellNamed : project.wellNamed = true) {path : List String}
    (walked : path ∈ indexer.sourceFiles project root) {wanted : Standing} :
    joinPath path ∈ filesOf project root previous (indexer.sourceFiles project root) wanted ↔
      standing project root previous path = wanted := by
  -- Walked files are told apart by their names.
  simp only [filesOf, List.mem_map, List.mem_filter, decide_eq_true_eq]
  constructor
  · rintro ⟨other, ⟨member, stands⟩, same⟩
    exact sourceFiles_inj wellNamed member walked same ▸ stands
  · exact fun stands => ⟨path, ⟨walked, stands⟩, rfl⟩

/-- The references of a refresh are those of a scan in the files that are added or updated. -/
private theorem references_refreshed (indexer : Indexer) (wellNamed : project.wellNamed = true)
    (root : List String) (previous : Snapshot) :
    let files := indexer.sourceFiles project root
    (indexer.refreshed project root previous).1.references
      = (indexer.scanned project root).references.filter fun reference =>
          (filesOf project root previous files .added
            ++ filesOf project root previous files .updated).contains reference.file := by
  -- Both runs go over the same files in the same order.
  intro files
  have run := indexer.references_foldl_refreshFile project root previous files ({}, {})
  rw [references_scanned, List.filter_flatMap]
  refine run.trans ?_
  simp only [List.nil_append, List.flatMap_def]
  congr 1
  refine List.map_congr_left fun path walked => ?_
  -- All references of a file are kept, or none of them is.
  have same : ∀ reference ∈ indexer.referencesAt project root path,
      (filesOf project root previous files .added
        ++ filesOf project root previous files .updated).contains reference.file = true ↔
          standing project root previous path ≠ .unchanged := by
    intro reference member
    rw [file_of_mem_referencesAt member, List.contains_iff_mem, List.mem_append,
      joinPath_mem_filesOf_iff wellNamed walked, joinPath_mem_filesOf_iff wellNamed walked]
    cases standing project root previous path <;> simp
  split
  · rename_i unchanged
    exact (List.filter_eq_nil_iff.mpr fun reference member kept =>
      (same reference member).mp kept unchanged).symm
  · rename_i changed
    exact (List.filter_eq_self.mpr fun reference member => (same reference member).mpr changed).symm

/-- The removed files are those that the previous snapshot knows and the walk
does not meet, each once. -/
private theorem removedFiles_spec (previous : Snapshot) (files : List String)
    (mapping : previous.fileHashes.keys.Nodup) :
    (removedFiles previous files).Pairwise (· < ·) ∧
      ∀ file, file ∈ removedFiles previous files ↔
        file ∈ previous.fileHashes.keys ∧ file ∉ files := by
  -- Known files are the keys of a mapping, so each of them is listed once.
  have sorted := @List.pairwise_mergeSort _ (fun a b : String => decide (a ≤ b))
    (fun a b c first second => by
      simp only [decide_eq_true_eq] at *; exact String.le_trans first second)
    (fun a b => by simpa using String.le_total a b)
    (previous.fileHashes.keys.filter fun file => !files.contains file)
  have distinct : (removedFiles previous files).Nodup :=
    (List.mergeSort_perm _ _).nodup_iff.mpr (mapping.sublist List.filter_sublist)
  refine ⟨sorted.imp₂ (fun a b le differs => ?_) distinct, fun file => ?_⟩
  · -- Sorted names that are distinct are strictly increasing.
    exact String.not_le.mp fun ge => differs (String.le_antisymm (by simpa using le) ge)
  · simp [removedFiles, sortTexts]

/-- Whatever the previous snapshot says, a refresh that ends finds the references of a scan in the
files that it has no fingerprint of or another one than they have now. It reports these files in the
order of the walk as added and updated, counts all others as unchanged, and lists in order the known
files that are not walked. -/
theorem refresh_reports {refreshed : Snapshot} {changes : Changes}
    (wellNamed : project.wellNamed = true) (mapping : previous.fileHashes.keys.Nodup)
    (returned : indexer.refresh project root previous = .ok (refreshed, changes)) :
    ∃ files fresh, indexer.walk project root = .ok files ∧ indexer.scan project root = .ok fresh ∧
      refreshed.references = fresh.references.filter
        (fun reference => (changes.added ++ changes.updated).contains reference.file) ∧
      changes.added = filesOf project root previous files .added ∧
      changes.updated = filesOf project root previous files .updated ∧
      changes.unchanged = (filesOf project root previous files .unchanged).length ∧
      ((changes.added.length + changes.updated.length + changes.unchanged : Nat) : Int)
        = refreshed.stats.totalFiles ∧
      changes.removed.Pairwise (· < ·) ∧
      ∀ file, file ∈ changes.removed ↔
        file ∈ previous.fileHashes.keys ∧ file ∉ files.map joinPath := by
  obtain ⟨⟨files, ends⟩, isResult⟩ := (refresh_eq_ok_iff wellNamed).mp returned
  obtain rfl : refreshed = (indexer.refreshed project root previous).1 := congrArg Prod.fst isResult
  obtain rfl : changes = (indexer.refreshed project root previous).2 := congrArg Prod.snd isResult
  have isFiles := walk_eq_ok wellNamed ends
  refine ⟨files, indexer.scanned project root, ends,
    (scan_eq_ok_iff wellNamed).mpr ⟨⟨files, ends⟩, rfl⟩, ?_⟩
  -- The run over the walked files notes each of them as it stands.
  obtain ⟨added, updated, unchanged⟩ := indexer.changes_foldl project root previous files ({}, {})
  rw [isFiles] at added updated unchanged
  -- What the run notes starts from nothing.
  have isAdded : (indexer.refreshed project root previous).2.added
      = filesOf project root previous files .added := isFiles ▸ added.trans (by simp)
  have isUpdated : (indexer.refreshed project root previous).2.updated
      = filesOf project root previous files .updated := isFiles ▸ updated.trans (by simp)
  have isUnchanged : (indexer.refreshed project root previous).2.unchanged
      = (filesOf project root previous files .unchanged).length :=
    isFiles ▸ unchanged.trans (by simp)
  have isRemoved : (indexer.refreshed project root previous).2.removed
      = removedFiles previous (files.map joinPath) := by
    simp only [Indexer.refreshed, renew, nameFrom_append, isFiles]
  -- The references are compared file by file, and the rest is what was noted.
  refine ⟨?_, isAdded, isUpdated, isUnchanged, ?_, ?_⟩
  · rw [isAdded, isUpdated, isFiles]
    exact indexer.references_refreshed wellNamed root previous
  · rw [isAdded, isUpdated, isUnchanged, length_filesOf, isFiles]
    rfl
  · rw [isRemoved]
    exact removedFiles_spec previous _ mapping

/-- A tree with one file, and a stored value that knows two other files and a symbol under an
identifier of the one that is there: that file is added and its references are found, and the
two others are removed. -/
theorem refresh_reports_strangers :
    let language : Language := {
      identity := { name := "t", displayName := "T", extensions := [".t"] }
      symbolPatterns := []
      referencePatterns := .ok []
      parameterNames := fun _ => []
      inferKind := fun _ kind => kind }
    let indexer : Indexer := ⟨{}, Registry.empty.registerAll [language], none⟩
    let project : Folder := [("a.t", .file "class F\nimport b".toUTF8)]
    let value := Json.obj [("symbols", .arr [.obj [("id", .str "a.t:F"), ("name", .str "F"),
      ("kind", .str "class"), ("file", .str "z.t"), ("start_line", .int 7), ("end_line", .int 7)]]),
      ("file_hashes", .obj [("z.t", .str "00"), ("b.t", .str "01")])]
    ∃ previous refreshed changes fresh, Snapshot.coerce value = .good previous ∧
      indexer.refresh project [] previous = .ok (refreshed, changes) ∧
      indexer.scan project [] = .ok fresh ∧
      refreshed.references = fresh.references ∧ changes.added = ["a.t"] ∧ changes.updated = [] ∧
      changes.removed.Pairwise (· < ·) ∧
      ∀ file, file ∈ changes.removed ↔ file = "z.t" ∨ file = "b.t" := by
  -- The value is accepted although it fits no file of the tree.
  intro language indexer project value
  let previous : Snapshot := {
    symbols := [⟨"a.t:F", "F", "class", "z.t", 7, 7, false, none, []⟩]
    fileHashes := [("z.t", "00"), ("b.t", "01")] }
  have accepted : Snapshot.coerce value = .good previous := rfl
  have wellNamed : project.wellNamed = true := by decide
  have found : (indexer.walk project []).toOption = some [["a.t"]] := by decide +kernel
  have walked := eq_ok_of_toOption found
  obtain ⟨⟨refreshed, changes⟩, returned⟩ :
      ∃ result, indexer.refresh project [] previous = .ok result :=
    ⟨_, by rw [refresh, walked]; rfl⟩
  obtain ⟨files, fresh, isWalk, scanned, references, added, updated, _, _, sorted, removed⟩ :=
    @refresh_reports indexer project [] previous refreshed changes wellNamed
      (Snapshot.nodup_fileHashes_of_coerce (by decide) accepted) returned
  cases walked.symm.trans isWalk
  -- No fingerprint of the file is known.
  have stands : standing project [] previous ["a.t"] = .added := by decide +kernel
  have isAdded : changes.added = ["a.t"] := by
    rw [added]
    simp [filesOf, stands, joinPath, joinWith]
  have isUpdated : changes.updated = [] := by
    rw [updated]
    simp [filesOf, stands]
  refine ⟨previous, refreshed, changes, fresh, accepted, returned, scanned, ?_, isAdded, isUpdated,
    sorted, fun file => ?_⟩
  · rw [references, isAdded, isUpdated, List.filter_eq_self]
    -- Every reference that a scan finds stands in the file.
    intro reference member
    rw [((scan_eq_ok_iff wellNamed).mp scanned).2, references_scanned,
      ← walk_eq_ok wellNamed walked, List.flatMap_singleton] at member
    simp [file_of_mem_referencesAt member, joinPath, joinWith]
  · rw [removed file]
    simp only [previous, Assoc.keys_cons, Assoc.keys_nil, List.mem_cons, List.not_mem_nil, or_false]
    constructor
    · exact And.left
    · rintro (rfl | rfl) <;> decide

end Indexer

end SourceAtlas
