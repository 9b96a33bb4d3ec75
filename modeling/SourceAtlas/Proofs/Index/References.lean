import SourceAtlas.Proofs.Index.Refresh

/-! The references of a text depend on the text alone, whatever symbols are
known when it is read. -/

namespace SourceAtlas

/-- A step adds the same references to every draft. -/
def Draft.Refers (step : Draft → Draft) : Prop :=
  ∃ added, ∀ draft, (step draft).references = draft.references ++ added

namespace Draft

/-- A step that leaves references alone adds the same ones to every draft: none. -/
theorem refers_of_same {step : Draft → Draft}
    (same : ∀ draft, (step draft).references = draft.references) : Refers step :=
  ⟨[], fun draft => by rw [same, List.append_nil]⟩

/-- Two steps in a row add what the one and the other add. -/
theorem Refers.comp {first second : Draft → Draft} (early : Refers first) (late : Refers second) :
    Refers fun draft => second (first draft) := by
  -- What the first adds stands in front.
  obtain ⟨some, isFirst⟩ := early
  obtain ⟨more, isSecond⟩ := late
  exact ⟨some ++ more, fun draft => by rw [isSecond, isFirst, List.append_assoc]⟩

/-- A run of steps, each of which adds the same to every draft, adds the same to every draft. -/
private theorem refers_foldl {α : Type} {step : Draft → α → Draft} {items : List α}
    (one : ∀ item ∈ items, Refers fun draft => step draft item) :
    Refers fun draft => items.foldl step draft := by
  -- The induction is on the items, step after step.
  induction items with
  | nil => exact refers_of_same fun _ => rfl
  | cons item items ih =>
    simp only [List.forall_mem_cons] at one
    exact one.1.comp (ih one.2)

/-- A run of steps that leave references alone leaves them alone. -/
theorem references_foldl {α : Type} {step : Draft → α → Draft}
    (same : ∀ draft item, (step draft item).references = draft.references) (items : List α)
    (draft : Draft) :
    (items.foldl step draft).references = draft.references := by
  -- The induction is on the items, over a draft that changes.
  induction items generalizing draft with
  | nil => rfl
  | cons item items ih => rw [List.foldl_cons, ih, same]

/-- A symbol brings no references. -/
theorem references_addSymbol (draft : Draft) (symbol : Symbol) :
    (draft.addSymbol symbol).references = draft.references := by
  -- The draft gets a symbol or stays as it is.
  unfold addSymbol
  split <;> rfl

/-- Lines add their imports. -/
theorem refers_addLines (file content : String) (language : Option Language) :
    Refers fun draft => draft.addLines file content language := by
  -- The declarations add symbols only, and the imports come behind.
  refine ⟨(importsIn content).map fun found => found.toReference file, fun draft => ?_⟩
  simp only [addLines, addReferences]
  rw [references_foldl fun draft found => references_addSymbol draft _]

end Draft

/-- A match of a symbol pattern brings no references. -/
theorem SymbolPattern.references_add? {pattern : SymbolPattern} {language : Language}
    {file content : String} {draft next : Draft} {found : StructuralMatch}
    (added : pattern.add? language file content draft found = some next) :
    next.references = draft.references := by
  -- Whatever becomes of the match, the draft gets a symbol at most.
  simp only [add?] at added
  split at added
  · cases added
    rfl
  · split at added
    · cases added
      rfl
    · split at added
      · cases added
        exact Draft.references_addSymbol draft _
      · simp at added

/-- The matches of a symbol pattern bring no references, wherever one of them ends the pattern. -/
theorem SymbolPattern.references_takeMatches (pattern : SymbolPattern) (language : Language)
    (file content : String) (found : List StructuralMatch) (draft : Draft) :
    (takeMatches (pattern.add? language file content) draft found).references
      = draft.references := by
  -- The induction is on the matches, up to the one that ends the pattern.
  induction found generalizing draft with
  | nil => rfl
  | cons item found ih =>
    unfold takeMatches
    split
    · rename_i next added
      rw [ih next, references_add? added]
    · rfl

/-- What a match of a reference pattern adds is up to the match, and so is
whether it ends the pattern. -/
theorem ReferencePattern.add?_eq (pattern : ReferencePattern) (file : String)
    (found : StructuralMatch) :
    (∀ draft, pattern.add? file draft found = none) ∨
      ∃ added, ∀ draft, pattern.add? file draft found = some (draft.addReferences added) := by
  -- The draft is only added to, never looked at.
  simp only [add?]
  split
  · refine .inr ⟨[], fun draft => ?_⟩
    simp [Draft.addReferences]
  · rename_i fields _
    cases (Reference.readDetails pattern.id file found.startLine
        (fields.filter fun entry => !coreReferenceFields.contains entry.1)).value? with
    | none => exact .inl fun _ => rfl
    | some reference => exact .inr ⟨[reference], fun _ => rfl⟩

/-- The matches of a reference pattern add the same to every draft. -/
theorem ReferencePattern.refers_takeMatches (pattern : ReferencePattern) (file : String)
    (found : List StructuralMatch) :
    Draft.Refers fun draft => takeMatches (pattern.add? file) draft found := by
  -- The induction is on the matches, up to the one that ends the pattern.
  induction found with
  | nil => exact Draft.refers_of_same fun _ => rfl
  | cons item found ih =>
    rcases pattern.add?_eq file item with ends | ⟨added, goesOn⟩
    · exact Draft.refers_of_same fun draft => by simp [takeMatches, ends]
    · obtain ⟨more, isRest⟩ := ih
      refine ⟨added ++ more, fun draft => ?_⟩
      simp [takeMatches, goesOn, isRest, Draft.addReferences]

/-- A tree adds the references that its patterns find, or those of the lines. -/
theorem Draft.refers_addTree (tree : SyntaxTree) (language : Language) (file content : String) :
    Refers fun draft => draft.addTree tree language file content := by
  -- The symbols come first and bring none.
  have symbols : Refers fun draft => draft.addTreeSymbols tree language file content :=
    refers_of_same (references_foldl (fun draft pattern =>
      pattern.references_takeMatches language file content _ draft) language.symbolPatterns)
  simp only [addTree]
  cases language.referencePatterns with
  | ok patterns =>
    exact symbols.comp (refers_foldl fun pattern _ => pattern.refers_takeMatches file _)
  | error _ => exact symbols.comp (refers_addLines file content _)

namespace Indexer

/-- The references that a file of some content gives rise to. -/
def referencesOf (indexer : Indexer) (file content : String) : List Reference :=
  (indexer.addText {} file content).1.references

/-- A text adds its references to every draft, whatever symbols that has. -/
private theorem references_addText (indexer : Indexer) (draft : Draft) (file content : String) :
    (indexer.addText draft file content).1.references
      = draft.references ++ indexer.referencesOf file content := by
  -- The text is read in the same way whatever the draft.
  have refers : Draft.Refers fun draft => (indexer.addText draft file content).1 := by
    have hashed : Draft.Refers fun draft => draft.addHash file (fingerprint content) :=
      Draft.refers_of_same fun _ => rfl
    unfold addText
    -- Which way the text is read is settled by the file and the text.
    split
    · exact hashed
    · split
      · split
        · exact hashed
        · exact hashed.comp (Draft.refers_addLines file content _)
        · exact hashed.comp (Draft.refers_addTree _ _ file content)
      · exact hashed.comp (Draft.refers_addLines file content _)
  obtain ⟨added, isAdded⟩ := refers
  have own : indexer.referencesOf file content = added := by simp [referencesOf, isAdded]
  rw [own, isAdded]

/-- The references of a text stand in its file. -/
private theorem file_of_mem_referencesOf {indexer : Indexer} {file content : String}
    {reference : Reference} (member : reference ∈ indexer.referencesOf file content) :
    reference.file = file := by
  -- All references are added, for the draft starts without any.
  obtain ⟨added, isAdded, own⟩ := (grows_addText indexer {} file content).references
  have isOwn : indexer.referencesOf file content = added := by
    simpa [referencesOf, Draft.addHash] using isAdded
  exact (own reference (isOwn ▸ member)).1

/-- The references that are found at a path; a file that cannot be read has none. -/
def referencesAt (indexer : Indexer) (project : Folder) (root path : List String) :
    List Reference :=
  match project.textAt? (root ++ path) with
  | some content => indexer.referencesOf (joinPath path) content
  | none => []

variable {indexer : Indexer} {project : Folder} {root : List String}

/-- The references at a path stand in its file. -/
theorem file_of_mem_referencesAt {path : List String} {reference : Reference}
    (member : reference ∈ indexer.referencesAt project root path) :
    reference.file = joinPath path := by
  -- A file that cannot be read has none.
  unfold referencesAt at member
  split at member
  · exact file_of_mem_referencesOf member
  · simp at member

/-- Reading a file adds the references that are found there. -/
theorem references_addFile (indexer : Indexer) (project : Folder) (root path : List String)
    (draft : Draft) :
    (indexer.addFile project (root ++ path) (joinPath path) draft).1.references
      = draft.references ++ indexer.referencesAt project root path := by
  -- A file that cannot be read adds none.
  cases read : project.textAt? (root ++ path) with
  | none => simp [addFile, referencesAt, read]
  | some content =>
    simpa [addFile, referencesAt, read] using references_addText indexer draft _ content

/-- Taking over the symbols of a file brings no references. -/
theorem references_carry (draft : Draft) (previous : Snapshot) (file hash : String) :
    (carry draft previous file hash).references = draft.references :=
  Draft.references_foldl Draft.references_addSymbol _ _

/-- A scan finds the references of the walked files, in the order of the walk. -/
theorem references_scanned (indexer : Indexer) (project : Folder) (root : List String) :
    (indexer.scanned project root).references
      = (indexer.sourceFiles project root).flatMap (indexer.referencesAt project root) := by
  -- File by file, behind what the files before have added.
  have run : ∀ (files : List (List String)) (draft : Draft),
      (files.foldl (fun draft file =>
          (indexer.addFile project (root ++ file) (joinPath file) draft).1) draft).references
        = draft.references ++ files.flatMap (indexer.referencesAt project root) := by
    intro files
    induction files with
    | nil => simp
    | cons path files ih =>
      intro draft
      rw [List.foldl_cons, ih, references_addFile, List.flatMap_cons, List.append_assoc]
  rw [scanned_eq]
  exact run _ {}

end Indexer

end SourceAtlas
