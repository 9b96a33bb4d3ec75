import SourceAtlas.Proofs.Index.Files
import SourceAtlas.Proofs.Index.Growth

/-! A refresh records the same fingerprints as a scan, whatever the previous snapshot says. -/

namespace SourceAtlas.Indexer

/-- The fingerprints after a file has been read: that of its text is put, if there is a text. -/
def recordHash (project : Folder) (path : List String) (file : String) (hashes : Assoc String) :
    Assoc String :=
  match project.textAt? path with
  | some content => hashes.put file (fingerprint content)
  | none => hashes

/-- Reading a file records its fingerprint and no other. -/
theorem fileHashes_addFile (indexer : Indexer) (project : Folder) (path : List String)
    (file : String) (draft : Draft) :
    (indexer.addFile project path file draft).1.fileHashes
      = recordHash project path file draft.fileHashes := by
  -- A file that cannot be read records nothing.
  cases found : project.textAt? path with
  | none => simp [addFile, recordHash, found]
  | some content =>
    simp only [addFile, recordHash, found]
    exact (grows_addText indexer draft file content).fileHashes

/-- Taking over symbols that are there already or not changes no fingerprint. -/
private theorem fileHashes_carry (draft : Draft) (previous : Snapshot) (file hash : String) :
    (carry draft previous file hash).fileHashes = draft.fileHashes.put file hash :=
  -- Adding symbols leaves the fingerprints alone.
  (@Draft.grows_foldl (fun _ => True) (fun _ => True) _ _ _
    (fun _ _ draft => draft.grows_addSymbol trivial) (draft.addHash file hash)).fileHashes

/-- A file that has not changed has the fingerprint it is compared with. -/
private theorem textAt?_of_not_hasChanged {project : Folder} {path : List String} {hash : String}
    (same : hasChanged project path hash = false) :
    ∃ content, project.textAt? path = some content ∧ fingerprint content = hash := by
  -- A file that cannot be read has changed.
  unfold hasChanged at same
  split at same
  · rename_i content found
    exact ⟨content, found, by simpa using same⟩
  · simp at same

/-- A refresh reads a file, or takes over the symbols of its text from the previous snapshot, which
knows the text by its fingerprint. -/
theorem refreshFile_cases (indexer : Indexer) (project : Folder) (root : List String)
    (previous : Snapshot) (state : Draft × Changes) (path : List String) :
    (indexer.refreshFile project root previous state path).1
        = (indexer.addFile project (root ++ path) (joinPath path) state.1).1 ∨
      ∃ content, project.textAt? (root ++ path) = some content ∧
        previous.fileHashes.get? (joinPath path) = some (fingerprint content) ∧
        (indexer.refreshFile project root previous state path).1
          = carry state.1 previous (joinPath path) (fingerprint content) := by
  -- An unknown file and a changed one are read.
  obtain ⟨draft, changes⟩ := state
  simp only [refreshFile, indexFile, nameFrom_append]
  split
  · exact .inl rfl
  · rename_i hash known
    split
    · exact .inl rfl
    · -- The old fingerprint that is kept is that of the text.
      rename_i same
      obtain ⟨content, found, rfl⟩ := textAt?_of_not_hasChanged (by simpa using same)
      exact .inr ⟨content, found, known, rfl⟩

/-- A refreshed file records the fingerprint that reading it records. -/
private theorem fileHashes_refreshFile (indexer : Indexer) (project : Folder) (root : List String)
    (previous : Snapshot) (state : Draft × Changes) (path : List String) :
    (indexer.refreshFile project root previous state path).1.fileHashes
      = recordHash project (root ++ path) (joinPath path) state.1.fileHashes := by
  -- Either way it is the fingerprint of the text.
  rcases indexer.refreshFile_cases project root previous state path with
    read | ⟨content, found, _, carried⟩
  · rw [read]
    exact fileHashes_addFile indexer project (root ++ path) (joinPath path) state.1
  · rw [carried, fileHashes_carry]
    simp only [recordHash, found]

/-- Renewing a snapshot for some files records the fingerprints that reading them records. -/
theorem fileHashes_renew (indexer : Indexer) (project : Folder) (root : List String)
    (previous : Snapshot) (files : List (List String)) :
    (indexer.renew project root previous files).1.fileHashes
      = (indexer.index project root files).fileHashes := by
  -- Both runs go over the same files and record the same at each of them.
  have run : ∀ (files : List (List String)) (state : Draft × Changes) (draft : Draft),
      state.1.fileHashes = draft.fileHashes →
      (files.foldl (indexer.refreshFile project root previous) state).1.fileHashes
        = (files.foldl (fun draft file => (indexer.indexFile project root (root ++ file) draft).1)
            draft).fileHashes := by
    intro files
    induction files with
    | nil => exact fun _ _ same => same
    | cons path files ih =>
      intro state draft same
      refine ih _ _ ?_
      simp only [fileHashes_refreshFile, indexFile, nameFrom_append, fileHashes_addFile, same]
  exact run files ({}, {}) {} rfl

/-- A refresh records the fingerprints of a scan. -/
theorem fileHashes_refreshed (indexer : Indexer) (project : Folder) (root : List String)
    (previous : Snapshot) :
    (indexer.refreshed project root previous).1.fileHashes
      = (indexer.scanned project root).fileHashes :=
  fileHashes_renew indexer project root previous _

/-- A refresh and a scan end together, with the same fingerprints and counts, or break
off for the same reason. -/
theorem refresh_cases (indexer : Indexer) (project : Folder) (root : List String)
    (previous : Snapshot) :
    (∃ fault, indexer.scan project root = .error fault ∧
      indexer.refresh project root previous = .error fault) ∨
    ∃ fresh refreshed changes, indexer.scan project root = .ok fresh ∧
      indexer.refresh project root previous = .ok (refreshed, changes) ∧
      refreshed.fileHashes = fresh.fileHashes ∧
      refreshed.stats.totalFiles = fresh.stats.totalFiles ∧
      refreshed.stats.totalSymbols = refreshed.symbols.length ∧
      refreshed.stats.totalReferences = refreshed.references.length := by
  -- Both walk first, and then go over the same files.
  rw [scan, refresh]
  cases indexer.walk project root with
  | error fault => exact .inl ⟨fault, rfl, rfl⟩
  | ok files =>
    exact .inr ⟨_, _, _, rfl, rfl, fileHashes_renew indexer project root previous files, rfl, rfl,
      rfl⟩

/-- A scan counts what it lists. -/
theorem stats_of_scan {indexer : Indexer} {project : Folder} {root : List String} {fresh : Snapshot}
    (scans : indexer.scan project root = .ok fresh) :
    fresh.stats.totalSymbols = fresh.symbols.length ∧
      fresh.stats.totalReferences = fresh.references.length := by
  -- The counts are taken when the walk has ended.
  rw [scan] at scans
  cases walked : indexer.walk project root with
  | error fault =>
    rw [walked] at scans
    cases scans
  | ok files =>
    rw [walked] at scans
    rw [← Except.ok.inj scans]
    exact ⟨rfl, rfl⟩

end SourceAtlas.Indexer
