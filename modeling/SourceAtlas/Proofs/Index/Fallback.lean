import SourceAtlas.Proofs.Index.Changes
import SourceAtlas.Proofs.Index.Decomposition

/-! What a scan holds of a file without a syntax tree: what its lines show, unless the parser fails.
Then the file is known by its fingerprint alone, and no refresh reads it again. -/

namespace SourceAtlas

/-! ## The language of a walked file -/

/-- The suffix of a joined path is the suffix of its last name. -/
theorem Path.suffix_joinPath {front : List String} {name : String}
    (free : ∀ part ∈ front ++ [name], '/' ∉ part.toList) (has : Path.suffix name ≠ "") :
    Path.suffix (joinPath (front ++ [name])) = Path.suffix name := by
  -- The name is the last of the parts between the slashes.
  have alone : splitAtChar '/' name.toList = [name.toList] :=
    splitAtChar_of_free (free name (by simp))
  have all : splitAtChar '/' (joinPath (front ++ [name])).toList = _ :=
    splitAtChar_joinWith (by decide) (by simp) free
  unfold Path.suffix Path.parts at has ⊢
  rw [alone] at has ⊢
  rw [all, List.map_append, List.filter_append]
  -- A name that is empty or a single dot has no suffix, so this one is kept.
  by_cases kept : (name.toList != [] && name.toList != ['.']) = true
  · simp [kept]
  · simp [kept] at has

namespace Indexer

variable {indexer : Indexer} {project : Folder} {root path : List String}

/-- A file that is read has a language. -/
theorem exists_language_of_mem_sourceFiles (wellNamed : project.wellNamed = true)
    (walked : path ∈ indexer.sourceFiles project root) :
    ∃ language, indexer.registry.ofPath? (joinPath path) = some language := by
  -- The path has a last name, by which the file is wanted.
  obtain ⟨named, free⟩ := slashFree_of_mem_sourceFiles wellNamed walked
  obtain ⟨entry, _, wanted⟩ := (mem_sourceFiles_iff wellNamed).mp walked
  obtain ⟨front, name, rfl⟩ : ∃ front name, path = front ++ [name] :=
    ⟨path.dropLast, path.getLast named, (List.dropLast_concat_getLast named).symm⟩
  -- The walk goes by the last name, and the reading by the whole path.
  obtain ⟨_, language, _, _, known, _⟩ := wants_iff_bytesAt?.mp wanted
  rw [List.getLast?_concat, Option.getD_some] at known
  have has : Path.suffix name ≠ "" := by
    intro none
    simp [Registry.ofPath, none] at known
  refine ⟨language, ?_⟩
  rw [Registry.ofPath, ← Path.suffix_joinPath free has, ← Registry.ofPath] at known
  simp [Registry.ofPath?, known]

/-! ## Reading a file without a syntax tree -/

/-- What the parser makes of a file of some content: no tree where there is
no parser or no grammar. -/
def parsing (indexer : Indexer) (file content : String) : Except String (Option SyntaxTree) :=
  match indexer.parser,
    (indexer.registry.ofPath? file).bind fun language =>
      (language.grammarFor file).filter (· != "") with
  | some parser, some grammar => parser.parse grammar content
  | _, _ => .ok none

variable {file content : String} {language : Language}

/-- A parser that fails leaves the fingerprint. -/
private theorem addText_of_failure (known : indexer.registry.ofPath? file = some language)
    {reason : String} (fails : indexer.parsing file content = .error reason) (draft : Draft) :
    (indexer.addText draft file content).1 = draft.addHash file (fingerprint content) := by
  -- The failure is one of the parser at the grammar of the file.
  rw [parsing, known, Option.bind_some] at fails
  rw [addText, known]
  dsimp only
  -- Only where there are a parser and a grammar can parsing fail.
  cases isParser : indexer.parser with
  | none =>
    rw [isParser] at fails
    cases fails
  | some parser =>
    rw [isParser] at fails
    cases isGrammar : (language.grammarFor file).filter (· != "") with
    | none =>
      rw [isGrammar] at fails
      cases fails
    | some grammar =>
      rw [isGrammar] at fails
      simp [show parser.parse grammar content = _ from fails]

/-- Without a tree the lines are read. -/
theorem addText_of_no_tree (known : indexer.registry.ofPath? file = some language)
    (none : indexer.parsing file content = .ok none) (draft : Draft) :
    (indexer.addText draft file content).1
      = (draft.addHash file (fingerprint content)).addLines file content (some language) := by
  -- With or without a parser, no tree means the lines.
  rw [parsing, known, Option.bind_some] at none
  rw [addText, known]
  dsimp only
  cases isParser : indexer.parser with
  | none => rfl
  | some parser =>
    rw [isParser] at none
    cases isGrammar : (language.grammarFor file).filter (· != "") with
    | none => rfl
    | some grammar =>
      rw [isGrammar] at none
      simp [show parser.parse grammar content = _ from none]

end Indexer

namespace Draft

/-- Symbols are added to a draft as they are to an empty one, but for those whose
identifiers are taken. -/
private theorem symbols_foldl_addSymbol (draft : Draft) (symbols : List Symbol) :
    (symbols.foldl addSymbol draft).symbols
      = draft.symbols ++ (symbols.foldl addSymbol {}).symbols.filter
          fun symbol => !draft.has symbol.id := by
  -- The two runs go side by side, and the longer one has the draft in front.
  have run : ∀ (behind own : Draft),
      behind.symbols = draft.symbols ++ own.symbols.filter (fun symbol => !draft.has symbol.id) →
      (symbols.foldl addSymbol behind).symbols
        = draft.symbols ++ (symbols.foldl addSymbol own).symbols.filter
            fun symbol => !draft.has symbol.id := by
    induction symbols with
    | nil => exact fun _ _ same => same
    | cons symbol symbols ih =>
      intro behind own same
      apply ih
      have taken : behind.has symbol.id = (draft.has symbol.id || own.has symbol.id) := by
        have front : behind.has symbol.id = (draft.has symbol.id ||
            (own.symbols.filter fun symbol => !draft.has symbol.id).any
              fun other => other.id == symbol.id) := by
          simp only [has, same, List.any_append]
        rw [front]
        cases inDraft : draft.has symbol.id with
        | true => rfl
        | false =>
          have sameTest : (fun other : Symbol => !draft.has other.id && other.id == symbol.id)
              = fun other => other.id == symbol.id := by
            funext other
            by_cases isOwn : other.id = symbol.id
            · simp [isOwn, inDraft]
            · simp [isOwn]
          rw [List.any_filter, sameTest, has]
      unfold addSymbol
      rw [taken]
      cases inDraft : draft.has symbol.id with
      | true =>
        cases own.has symbol.id with
        | true => simpa using same
        | false => simp [same, inDraft]
      | false =>
        cases own.has symbol.id with
        | true => simpa using same
        | false => simp [same, inDraft]
  exact run draft {} (by simp)

/-- The lines of a file add what they add to an empty draft, but for identifiers that are taken. -/
private theorem symbols_addLines (draft : Draft) (file content : String)
    (language : Option Language) :
    (draft.addLines file content language).symbols
      = draft.symbols ++ (addLines {} file content language).symbols.filter
          fun symbol => !draft.has symbol.id := by
  -- The lines are added as the symbols that they declare.
  have listed (start : Draft) : (start.addLines file content language).symbols
      = (((declarationsIn content).map fun found => found.toSymbol file language).foldl addSymbol
        start).symbols := by
    rw [List.foldl_map]
    rfl
  rw [listed, listed]
  exact symbols_foldl_addSymbol draft _

/-- A draft goes on from another with symbols of a file. -/
def Continues (file : String) (draft after : Draft) : Prop :=
  ∃ added, after.symbols = draft.symbols ++ added ∧ ∀ symbol ∈ added, symbol.file = file

section Runs

variable {α : Type} {view : α → Draft} {step : α → List String → α}

/-- A run over files goes on with symbols of the files. -/
private theorem continues_foldl
    (one : ∀ state path, (view state).Continues (joinPath path) (view (step state path)))
    (files : List (List String)) (state : α) :
    ∃ added, (view (files.foldl step state)).symbols = (view state).symbols ++ added ∧
      ∀ symbol ∈ added, symbol.file ∈ files.map joinPath := by
  -- Each step adds symbols of its file behind those that are there.
  induction files generalizing state with
  | nil => exact ⟨[], by simp⟩
  | cons path files ih =>
    obtain ⟨first, isFirst, own⟩ := one state path
    obtain ⟨more, isMore, others⟩ := ih (step state path)
    refine ⟨first ++ more, by rw [List.foldl_cons, isMore, isFirst, List.append_assoc], ?_⟩
    intro symbol member
    rw [List.map_cons, List.mem_cons]
    rcases List.mem_append.mp member with early | late
    · exact .inl (own symbol early)
    · exact .inr (others symbol late)

/-- In a run over files of different names, the symbols of a file are those that the
step at the file adds. -/
private theorem symbols_of_run
    (one : ∀ state path, (view state).Continues (joinPath path) (view (step state path)))
    {done rest : List (List String)} {path : List String}
    (distinct : ((done ++ path :: rest).map joinPath).Nodup) {start : α}
    (empty : (view start).symbols = []) :
    let before := done.foldl step start
    let whole := (done ++ path :: rest).foldl step start
    ∃ added, (view (step before path)).symbols = (view before).symbols ++ added ∧
      (view whole).symbols.filter (·.file == joinPath path) = added ∧
      ∀ symbol ∈ (view before).symbols,
        symbol ∈ (view whole).symbols ∧ symbol.file ≠ joinPath path := by
  intro before whole
  -- The run has a part before the file, the step at it, and a part behind it.
  obtain ⟨early, isBefore, earlyFiles⟩ := continues_foldl one done start
  obtain ⟨added, isStep, own⟩ := one before path
  obtain ⟨late, isWhole, lateFiles⟩ := continues_foldl one rest (step before path)
  have isAll : (view whole).symbols = early ++ (added ++ late) := by
    have run : whole = rest.foldl step (step before path) := by simp [whole, before]
    rw [run, isWhole, isStep, isBefore, empty, List.nil_append, List.append_assoc]
  rw [empty, List.nil_append] at isBefore
  -- The names before and after the file are not its own.
  rw [List.map_append, List.map_cons, List.nodup_append, List.nodup_cons] at distinct
  have notEarly : ∀ symbol ∈ early, symbol.file ≠ joinPath path := by
    intro symbol member same
    exact distinct.2.2 _ (earlyFiles symbol member) _ (List.mem_cons_self ..) same
  have notLate : ∀ symbol ∈ late, symbol.file ≠ joinPath path := by
    intro symbol member same
    exact distinct.2.1.1 (same ▸ lateFiles symbol member)
  refine ⟨added, isStep, ?_, ?_⟩
  · have none (symbols : List Symbol) (others : ∀ symbol ∈ symbols, symbol.file ≠ joinPath path) :
        symbols.filter (·.file == joinPath path) = [] := by
      simpa [List.filter_eq_nil_iff] using others
    have all : added.filter (·.file == joinPath path) = added := by
      simpa [List.filter_eq_self] using own
    rw [isAll, List.filter_append, List.filter_append, none early notEarly, none late notLate, all]
    simp
  · intro symbol member
    have inEarly : symbol ∈ early := isBefore ▸ member
    exact ⟨by simp [isAll, inEarly], notEarly symbol inEarly⟩

end Runs

end Draft

namespace Indexer

variable {indexer : Indexer} {project : Folder} {root path : List String} {file content : String}
  {language : Language}

/-- A file that is read adds its own symbols. -/
private theorem continues_addFile (indexer : Indexer) (project : Folder) (root path : List String)
    (draft : Draft) :
    draft.Continues (joinPath path)
      (indexer.addFile project (root ++ path) (joinPath path) draft).1 := by
  -- A file that cannot be read adds nothing.
  unfold addFile
  cases project.textAt? (root ++ path) with
  | none => exact ⟨[], by simp⟩
  | some content =>
    obtain ⟨added, isAfter, candidates⟩ :=
      (grows_addText indexer draft (joinPath path) content).symbols
    exact ⟨added, isAfter, fun symbol member => (candidates symbol member).place.1⟩

/-- What is taken over of a file are its own symbols. -/
private theorem continues_carry (draft : Draft) (previous : Snapshot) (file hash : String) :
    draft.Continues file (carry draft previous file hash) := by
  -- Of the previous symbols those of the file are added one by one.
  have grows :=
    @Draft.grows_foldl (fun symbol => symbol.file = file) (fun _ => True) _ Draft.addSymbol
      (previous.symbols.filter (·.file == file))
      (fun symbol member draft =>
        draft.grows_addSymbol (by simpa using (List.mem_filter.mp member).2))
      (draft.addHash file hash)
  exact grows.symbols

/-- A refreshed file adds its own symbols, whether it is read or taken over. -/
private theorem continues_refreshFile (indexer : Indexer) (project : Folder) (root : List String)
    (previous : Snapshot) (state : Draft × Changes) (path : List String) :
    state.1.Continues (joinPath path) (indexer.refreshFile project root previous state path).1 := by
  -- It is read, or taken over.
  rcases indexer.refreshFile_cases project root previous state path with
    read | ⟨content, _, _, carried⟩
  · rw [read]
    exact continues_addFile indexer project root path state.1
  · rw [carried]
    exact continues_carry state.1 previous (joinPath path) (fingerprint content)

/-! ## What a scan holds of a file -/

/-- The indexer with another parser, or with none. -/
def withParser (indexer : Indexer) (parser : Option StructuralParser) : Indexer :=
  { indexer with parser }

/-- Which fingerprints are recorded does not depend on the parser. -/
private theorem fileHashes_scan_withParser (indexer : Indexer) (parser : Option StructuralParser)
    (project : Folder) (root : List String) :
    ((indexer.withParser parser).scanned project root).fileHashes
      = (indexer.scanned project root).fileHashes := by
  -- The fingerprint of a file is recorded before it is parsed.
  have run : ∀ (files : List (List String)) (draft other : Draft),
      draft.fileHashes = other.fileHashes →
      (files.foldl (fun draft file =>
        ((indexer.withParser parser).addFile project (root ++ file) (joinPath file) draft).1)
          draft).fileHashes
        = (files.foldl (fun draft file =>
          (indexer.addFile project (root ++ file) (joinPath file) draft).1) other).fileHashes := by
    intro files
    induction files with
    | nil => exact fun _ _ same => same
    | cons path files ih =>
      intro draft other same
      apply ih
      rw [fileHashes_addFile, fileHashes_addFile, same]
  rw [scanned_eq, scanned_eq]
  exact run _ {} {} rfl

/-- Without a parser there are no syntax trees. -/
theorem unparsed_withoutParser (indexer : Indexer) (file content : String) (language : Language)
    (tree : SyntaxTree) :
    ¬ (indexer.withParser none).Parses file content language tree := by
  -- A syntax tree comes from a parser.
  intro parses
  obtain ⟨parser, _, isParser, _⟩ := parses.parsed
  cases isParser

/-- Without a parser a scan shows the texts that it reads. -/
private theorem scanned_shows_withoutParser (indexer : Indexer)
    (wellNamed : project.wellNamed = true) (root : List String) :
    ((indexer.withParser none).scanned project root).Shows (indexer.withParser none)
      (indexer.texts project root) :=
  scanned_shows_of_plainNames wellNamed fun text _ =>
    plainNames_of_unparsed (indexer.unparsed_withoutParser text.1 text.2)

/-- A scan records one fingerprint of a file that it reads. -/
theorem filter_fileHashes_scan (wellNamed : project.wellNamed = true)
    (walked : path ∈ indexer.sourceFiles project root)
    (read : project.textAt? (root ++ path) = some content) :
    (indexer.scanned project root).fileHashes.filter (·.1 == joinPath path)
      = [(joinPath path, fingerprint content)] := by
  -- The fingerprints are those without a parser, for which each text is known to be read once.
  have listed : (joinPath path, content) ∈ indexer.texts project root :=
    mem_texts_iff.mpr ⟨path, walked, read, rfl⟩
  rw [← indexer.fileHashes_scan_withParser none,
    (indexer.scanned_shows_withoutParser wellNamed root).fileHashes, List.map_eq_flatMap]
  exact @Draft.filter_flatMap_of_named _ _ _ Prod.fst _ Prod.fst
    (indexer.nodup_keys_texts wellNamed root)
    (fun text _ entry inside => by rw [List.mem_singleton.mp inside]) _ listed

/-- A scan holds the references that the text of a file gives rise to. -/
theorem filter_references_scan (wellNamed : project.wellNamed = true)
    (walked : path ∈ indexer.sourceFiles project root)
    (read : project.textAt? (root ++ path) = some content) :
    (indexer.scanned project root).references.filter (·.file == joinPath path)
      = indexer.referencesOf (joinPath path) content := by
  -- References are found file by file, and files are told apart by their names.
  have own : indexer.referencesAt project root path
      = indexer.referencesOf (joinPath path) content := by
    rw [referencesAt, read]
  rw [references_scanned, ← own]
  exact Draft.filter_flatMap_of_named (indexer.nodup_sourceNames wellNamed root)
    (fun other _ reference inside => file_of_mem_referencesAt inside) walked

/-- The identifiers of a scan are distinct. -/
theorem nodup_ids_scan (indexer : Indexer) (project : Folder) (root : List String) :
    ((indexer.scanned project root).symbols.map Symbol.id).Nodup := by
  -- Every file that is added keeps the identifiers distinct.
  rw [scanned_eq]
  refine @List.foldlRecOn _ _ (fun draft : Draft => (draft.symbols.map Symbol.id).Nodup) _ _ _
    (by simp) ?_
  intro draft distinct path _
  unfold addFile
  cases project.textAt? (root ++ path) with
  | none => exact distinct
  | some content => exact (grows_addText indexer draft (joinPath path) content).distinct distinct

/-- A scan has the symbols of a file that the reading of its text adds to what stands before it. -/
private theorem filter_symbols_scan (wellNamed : project.wellNamed = true)
    (walked : path ∈ indexer.sourceFiles project root)
    (read : project.textAt? (root ++ path) = some content) :
    ∃ (before : Draft) (added : List Symbol),
      (indexer.addText before (joinPath path) content).1.symbols = before.symbols ++ added ∧
      (indexer.scanned project root).symbols.filter (·.file == joinPath path) = added ∧
      ∀ symbol ∈ before.symbols,
        symbol ∈ (indexer.scanned project root).symbols ∧ symbol.file ≠ joinPath path := by
  -- The walk is cut at the file, whose name occurs once.
  obtain ⟨done, rest, split⟩ := List.append_of_mem walked
  have distinct := indexer.nodup_sourceNames wellNamed root
  rw [sourceNames, split] at distinct
  obtain ⟨added, isStep, isFilter, others⟩ := @Draft.symbols_of_run _ id
    (fun draft file => (indexer.addFile project (root ++ file) (joinPath file) draft).1)
    (fun draft path => continues_addFile indexer project root path draft)
    done rest path distinct {} rfl
  have whole : (indexer.scanned project root).symbols = ((done ++ path :: rest).foldl
      (fun draft file => (indexer.addFile project (root ++ file) (joinPath file) draft).1)
      {}).symbols := by
    rw [← split, scanned_eq]
    rfl
  rw [whole]
  refine ⟨_, added, ?_, isFilter, others⟩
  simpa only [id_eq, addFile, read] using isStep

/-- A scan holds nothing but the fingerprint of a file at which the parser fails. -/
private theorem about_scan_of_failure (wellNamed : project.wellNamed = true)
    (walked : path ∈ indexer.sourceFiles project root)
    (read : project.textAt? (root ++ path) = some content) {reason : String}
    (fails : indexer.parsing (joinPath path) content = .error reason) :
    (indexer.scanned project root).about (joinPath path)
      = ([], [], [(joinPath path, fingerprint content)]) := by
  -- The reading adds the fingerprint and nothing else.
  obtain ⟨language, known⟩ := exists_language_of_mem_sourceFiles wellNamed walked
  obtain ⟨before, added, isStep, isFilter, _⟩ := filter_symbols_scan wellNamed walked read
  rw [addText_of_failure known fails] at isStep
  have none : added = [] :=
    List.append_cancel_left (isStep.symm.trans (List.append_nil before.symbols).symm)
  have noReferences : indexer.referencesOf (joinPath path) content = [] := by
    rw [referencesOf, addText_of_failure known fails]
    rfl
  rw [Snapshot.about, isFilter, none, filter_references_scan wellNamed walked read, noReferences,
    filter_fileHashes_scan wellNamed walked read]

/-- The references of the lines of a file do not depend on what is known before. -/
private theorem referencesOf_of_no_tree (known : indexer.registry.ofPath? file = some language)
    (none : indexer.parsing file content = .ok none) :
    indexer.referencesOf file content
      = (Draft.addLines {} file content (some language)).references := by
  -- References go behind those that are known, whatever these are.
  obtain ⟨added, isAdded⟩ := Draft.refers_addLines file content (some language)
  rw [referencesOf, addText_of_no_tree known none, isAdded, isAdded]
  rfl

/-- Where the parser gives no tree, a scan holds what the lines of a file show, but for
identifiers that are taken. -/
private theorem about_scan_of_no_tree (wellNamed : project.wellNamed = true)
    (walked : path ∈ indexer.sourceFiles project root)
    (read : project.textAt? (root ++ path) = some content)
    (known : indexer.registry.ofPath? (joinPath path) = some language)
    (none : indexer.parsing (joinPath path) content = .ok none) :
    let lines := Draft.addLines {} (joinPath path) content (some language)
    ∃ before : Draft, (indexer.scanned project root).about (joinPath path)
        = (lines.symbols.filter (fun symbol => !before.has symbol.id), lines.references,
          [(joinPath path, fingerprint content)]) ∧
      ∀ symbol ∈ before.symbols,
        symbol ∈ (indexer.scanned project root).symbols ∧ symbol.file ≠ joinPath path := by
  intro lines
  -- What the reading adds is what the lines show, less what is taken.
  obtain ⟨before, added, isStep, isFilter, others⟩ := filter_symbols_scan wellNamed walked read
  rw [addText_of_no_tree known none, Draft.symbols_addLines] at isStep
  have isAdded := List.append_cancel_left isStep
  refine ⟨before, ?_, others⟩
  rw [Snapshot.about, isFilter, ← isAdded, filter_references_scan wellNamed walked read,
    referencesOf_of_no_tree known none, filter_fileHashes_scan wellNamed walked read]
  rfl

/-! ## What refreshes make of a file that is known by its fingerprint alone -/

/-- A refresh takes over a file whose fingerprint is the one that it had. -/
private theorem refreshFile_of_known {previous : Snapshot}
    (read : project.textAt? (root ++ path) = some content)
    (known : previous.fileHashes.get? (joinPath path) = some (fingerprint content))
    (state : Draft × Changes) :
    (indexer.refreshFile project root previous state path).1
      = carry state.1 previous (joinPath path) (fingerprint content) := by
  -- The fingerprint has not changed.
  simp [refreshFile, known, hasChanged, read]

/-- The only fingerprint of a file is the one that is found for it. -/
theorem get?_of_filter_eq {hashes : Assoc String} {hash : String}
    (only : hashes.filter (·.1 == file) = [(file, hash)]) : hashes.get? file = some hash := by
  -- What is found is one of the entries with the name.
  have member : (file, hash) ∈ hashes.filter (·.1 == file) := by simp [only]
  cases found : hashes.get? file with
  | none =>
    have absent := Assoc.get?_eq_none_iff.mp found
    exact absurd (Assoc.mem_keys_of_mem (List.mem_filter.mp member).1) absent
  | some other =>
    have inside : (file, other) ∈ hashes.filter (·.1 == file) :=
      List.mem_filter.mpr ⟨Assoc.mem_of_get?_eq_some found, by simp⟩
    rw [only, List.mem_singleton, Prod.mk.injEq] at inside
    rw [inside.2]

/-- A file that is known by its fingerprint alone stays so in a refresh, whatever
the parser makes of it. -/
private theorem about_refresh_of_known (wellNamed : project.wellNamed = true)
    (walked : path ∈ indexer.sourceFiles project root)
    (read : project.textAt? (root ++ path) = some content) {previous : Snapshot}
    (known : previous.about (joinPath path) = ([], [], [(joinPath path, fingerprint content)])) :
    (indexer.refreshed project root previous).1.about (joinPath path)
      = ([], [], [(joinPath path, fingerprint content)]) := by
  -- The file is known by the fingerprint of its text, and by nothing else.
  obtain ⟨noSymbols, -, onlyHash⟩ : previous.symbols.filter (·.file == joinPath path) = [] ∧ _ ∧
      previous.fileHashes.filter (·.1 == joinPath path)
        = [(joinPath path, fingerprint content)] := by
    simpa [Snapshot.about] using known
  have isKnown := get?_of_filter_eq onlyHash
  obtain ⟨done, rest, split⟩ := List.append_of_mem walked
  have distinct := indexer.nodup_sourceNames wellNamed root
  -- Taking over no symbols adds none.
  have symbols : (indexer.refreshed project root previous).1.symbols.filter
      (·.file == joinPath path) = [] := by
    rw [sourceNames, split] at distinct
    obtain ⟨added, isStep, isFilter, _⟩ := @Draft.symbols_of_run _ Prod.fst
      (indexer.refreshFile project root previous)
      (fun state path => continues_refreshFile indexer project root previous state path)
      done rest path distinct ({}, {}) rfl
    rw [refreshFile_of_known read isKnown, carry, noSymbols] at isStep
    have whole : (indexer.refreshed project root previous).1.symbols = ((done ++ path :: rest).foldl
        (indexer.refreshFile project root previous) ({}, {})).1.symbols := by
      rw [← split]
      rfl
    rw [whole, isFilter]
    exact List.append_cancel_left (isStep.symm.trans (List.append_nil _).symm)
  -- A file that is unchanged is not searched for references.
  have references :
      (indexer.refreshed project root previous).1.references.filter
        (·.file == joinPath path) = [] := by
    have unchanged : standing project root previous path = .unchanged := by
      simp [standing, isKnown, currentHash?, read]
    have all :=
      indexer.references_foldl_refreshFile project root previous
        (indexer.sourceFiles project root) ({}, {})
    rw [show (indexer.refreshed project root previous).1.references = _ from all, List.nil_append,
      Draft.filter_flatMap_of_named distinct ?_ walked, if_pos unchanged]
    intro other _ reference inside
    split at inside
    · cases inside
    · exact file_of_mem_referencesAt inside
  rw [Snapshot.about, symbols, references, fileHashes_refreshed,
    filter_fileHashes_scan wellNamed walked read]

/-- A later look at a tree, with some parser. -/
structure Look where
  project : Folder
  parser : Option StructuralParser

/-- A look ends and finds a text where it was. -/
structure Look.Finds (indexer : Indexer) (root path : List String) (content : String)
    (look : Look) : Prop where
  wellNamed : look.project.wellNamed = true
  walked : ∃ files, indexer.walk look.project root = .ok files ∧ path ∈ files
  read : look.project.textAt? (root ++ path) = some content

/-- The snapshot after refreshes, if each of them ends. -/
def refreshAll (indexer : Indexer) (root : List String) (looks : List Look) (snapshot : Snapshot) :
    Except WalkFault Snapshot :=
  looks.foldlM (fun snapshot look =>
    ((indexer.withParser look.parser).refresh look.project root snapshot).map Prod.fst) snapshot

/-- The walk does not ask the parser. -/
private theorem walk_withParser (indexer : Indexer) (parser : Option StructuralParser)
    (project : Folder) (root : List String) :
    (indexer.withParser parser).walk project root = indexer.walk project root := by
  -- The walk goes by names, sizes and languages.
  have one : (indexer.withParser parser).inspect project root = indexer.inspect project root := rfl
  have run : ∀ leaves, (indexer.withParser parser).select project root leaves
      = indexer.select project root leaves := by
    intro leaves
    induction leaves with
    | nil => rfl
    | cons leaf leaves ih => rw [select, select, one, ih]
  rw [walk_eq_select, walk_eq_select]
  exact run _

/-- A file that is known by its fingerprint alone stays so in all later looks. -/
private theorem about_refreshAll {looks : List Look}
    (finds : ∀ look ∈ looks, look.Finds indexer root path content) {snapshot : Snapshot}
    (known : snapshot.about (joinPath path) = ([], [], [(joinPath path, fingerprint content)])) :
    ∃ last, indexer.refreshAll root looks snapshot = .ok last ∧
      last.about (joinPath path) = ([], [], [(joinPath path, fingerprint content)]) := by
  -- Each look finds the text that the fingerprint is of, and takes the file over.
  induction looks generalizing snapshot with
  | nil => exact ⟨snapshot, rfl, known⟩
  | cons look looks ih =>
    obtain ⟨first, others⟩ := List.forall_mem_cons.mp finds
    obtain ⟨files, ends, member⟩ := first.walked
    rw [walk_eq_ok first.wellNamed ends] at member
    have walked : path ∈ (indexer.withParser look.parser).sourceFiles look.project root := member
    have step : (indexer.withParser look.parser).refresh look.project root snapshot
        = .ok ((indexer.withParser look.parser).refreshed look.project root snapshot) :=
      (refresh_eq_ok_iff first.wellNamed).mpr ⟨⟨files, (walk_withParser ..).trans ends⟩, rfl⟩
    obtain ⟨last, isLast, about⟩ :=
      ih others (about_refresh_of_known first.wellNamed walked first.read known)
    refine ⟨last, ?_, about⟩
    rw [refreshAll, List.foldlM_cons, step]
    exact isLast

/-- Without a parser a scan holds what the lines of a file show. -/
private theorem about_scan_withoutParser (wellNamed : project.wellNamed = true)
    (walked : path ∈ indexer.sourceFiles project root)
    (read : project.textAt? (root ++ path) = some content)
    (known : indexer.registry.ofPath? (joinPath path) = some language) :
    let lines := Draft.addLines {} (joinPath path) content (some language)
    ((indexer.withParser none).scanned project root).about (joinPath path)
      = (lines.symbols, lines.references, [(joinPath path, fingerprint content)]) := by
  intro lines
  -- The indexer without a parser walks the same files and knows the same languages.
  have walkedToo : path ∈ (indexer.withParser none).sourceFiles project root := walked
  have listed : (joinPath path, content) ∈ indexer.texts project root :=
    mem_texts_iff.mpr ⟨path, walked, read, rfl⟩
  have knownToo : (indexer.withParser none).registry.ofPath? (joinPath path) = some language :=
    known
  have unparsed : (indexer.withParser none).parsing (joinPath path) content = .ok none := rfl
  have piece : (indexer.withParser none).pieceOf (joinPath path) content = lines.symbols := by
    rw [pieceOf, addText_of_no_tree knownToo unparsed, Draft.symbols_addLines]
    simp [Draft.addHash, Draft.has, lines]
  rw [Snapshot.about, filter_references_scan wellNamed walkedToo read,
    referencesOf_of_no_tree knownToo unparsed, filter_fileHashes_scan wellNamed walkedToo read,
    (indexer.scanned_shows_withoutParser wellNamed root).symbols,
    Draft.filter_pieces _ (indexer.nodup_keys_texts wellNamed root) listed, piece]

/-- Where the parser gives no tree, a scan holds all that the lines of a file show exactly when no
symbol of another file has an identifier of the lines. -/
theorem about_scan_eq_lines_iff (wellNamed : project.wellNamed = true)
    (walked : path ∈ indexer.sourceFiles project root)
    (read : project.textAt? (root ++ path) = some content)
    (known : indexer.registry.ofPath? (joinPath path) = some language)
    (none : indexer.parsing (joinPath path) content = .ok none) :
    let whole := indexer.scanned project root
    let lines := Draft.addLines {} (joinPath path) content (some language)
    whole.about (joinPath path)
        = (lines.symbols, lines.references, [(joinPath path, fingerprint content)]) ↔
      ∀ symbol ∈ whole.symbols, symbol.file ≠ joinPath path →
        symbol.id ∉ lines.symbols.map Symbol.id := by
  intro whole lines
  -- The lines are there but for identifiers that symbols of earlier files have.
  obtain ⟨before, isAbout, others⟩ := about_scan_of_no_tree wellNamed walked read known none
  constructor
  · intro same symbol member elsewhere taken
    obtain ⟨own, isLine, sameId⟩ := List.mem_map.mp taken
    -- A symbol of the lines is one of the file, and so another one with the same identifier.
    have isOwn : own ∈ whole.symbols.filter (·.file == joinPath path) := by
      rw [show whole.symbols.filter _ = lines.symbols from congrArg Prod.fst same]
      exact isLine
    obtain ⟨inWhole, isHere⟩ := List.mem_filter.mp isOwn
    have equal := eq_of_nodup_map (indexer.nodup_ids_scan project root) inWhole member sameId
    exact elsewhere (equal ▸ beq_iff_eq.mp isHere)
  · intro apart
    have free : ∀ symbol ∈ lines.symbols, (!before.has symbol.id) = true := by
      intro symbol isLine
      rw [Bool.not_eq_true', ← Bool.not_eq_true, Draft.has_iff]
      intro taken
      obtain ⟨other, earlier, sameId⟩ := List.mem_map.mp taken
      obtain ⟨inWhole, elsewhere⟩ := others other earlier
      exact apart other inWhole elsewhere (List.mem_map.mpr ⟨symbol, isLine, sameId.symm⟩)
    rw [isAbout, List.filter_eq_self.mpr free]

/-- A scan holds of a file without a syntax tree what its lines show, as it does without a parser,
exactly when the parser does not fail, unless the lines show nothing, and no symbol of another file
has an identifier of the lines. A file at which the parser fails is known by its fingerprint alone,
and stays so however often the tree is refreshed while the text is the same. -/
theorem scan_reads_lines_iff (indexer : Indexer) (project : Folder) (root path : List String)
    (content : String) (files : List (List String)) (wellNamed : project.wellNamed = true)
    (ends : indexer.walk project root = .ok files) (walked : path ∈ files)
    (read : project.textAt? (root ++ path) = some content)
    (treeless : ∀ tree, indexer.parsing (joinPath path) content ≠ .ok (some tree)) :
    let file := joinPath path
    let fails := ∃ reason, indexer.parsing file content = .error reason
    ∃ whole bare language, indexer.scan project root = .ok whole ∧
      (indexer.withParser none).scan project root = .ok bare ∧
      indexer.registry.ofPath? file = some language ∧
      let lines := Draft.addLines {} file content (some language)
      let shown := (lines.symbols, lines.references, [(file, fingerprint content)])
      bare.about file = shown ∧
      (whole.about file = shown ↔ (fails → lines.symbols = [] ∧ lines.references = []) ∧
        ∀ symbol ∈ whole.symbols, symbol.file ≠ file → symbol.id ∉ lines.symbols.map Symbol.id) ∧
      (fails → ∀ looks : List Look, (∀ look ∈ looks, look.Finds indexer root path content) →
        ∃ last, indexer.refreshAll root looks whole = .ok last ∧
          last.about file = ([], [], [(file, fingerprint content)])) := by
  intro file fails
  -- A walked file has a language, by which its lines are read.
  rw [walk_eq_ok wellNamed ends] at walked
  obtain ⟨language, known⟩ := exists_language_of_mem_sourceFiles wellNamed walked
  refine ⟨_, _, language, (scan_eq_ok_iff wellNamed).mpr ⟨⟨files, ends⟩, rfl⟩,
    (scan_eq_ok_iff wellNamed).mpr ⟨⟨files, (walk_withParser ..).trans ends⟩, rfl⟩, known, ?_⟩
  intro lines shown
  refine ⟨about_scan_withoutParser wellNamed walked read known, ?_, ?_⟩
  · -- Of the three results of parsing a tree is excluded.
    cases parsed : indexer.parsing file content with
    | error reason =>
      have failed : fails := ⟨reason, parsed⟩
      rw [about_scan_of_failure wellNamed walked read parsed]
      constructor
      · intro same
        simp only [shown, Prod.mk.injEq] at same
        refine ⟨fun _ => ⟨same.1.symm, same.2.1.symm⟩, ?_⟩
        intro symbol _ _ taken
        rw [← same.1] at taken
        cases taken
      · intro met
        obtain ⟨noSymbols, noReferences⟩ := met.1 failed
        simp only [shown, noSymbols, noReferences, file]
    | ok tree? =>
      cases tree? with
      | some tree => exact absurd parsed (treeless tree)
      | none =>
        have passes : ¬ fails := by
          rintro ⟨reason, failed⟩
          rw [parsed] at failed
          cases failed
        refine (about_scan_eq_lines_iff wellNamed walked read known parsed).trans ?_
        constructor
        · exact fun apart => ⟨fun failed => absurd failed passes, apart⟩
        · exact fun met => met.2
  · rintro ⟨reason, failed⟩ looks finds
    exact about_refreshAll finds (about_scan_of_failure wellNamed walked read failed)

/-- A parser that fails at a file with a class: the class is missing, also after a refresh with a
parser that does not fail, and without a parser it is there. -/
theorem scan_reads_lines_iff_failing :
    let language : Language := {
      identity :=
        { name := "t", displayName := "T", extensions := [".t"], defaultGrammar := some "t" }
      symbolPatterns := []
      referencePatterns := .ok []
      parameterNames := fun _ => []
      inferKind := fun _ kind => kind }
    let indexer : Indexer :=
      ⟨{}, Registry.empty.registerAll [language], some ⟨fun _ _ => .error "boom"⟩⟩
    let project : Folder := [("a.t", .file "class F".toUTF8)]
    ∃ whole bare last, indexer.scan project [] = .ok whole ∧
      (indexer.withParser none).scan project [] = .ok bare ∧
      indexer.refreshAll [] [⟨project, some .bare⟩] whole = .ok last ∧
      (bare.about "a.t").1.map Symbol.id = ["a.t:F"] ∧ whole.about "a.t" ≠ bare.about "a.t" ∧
      last.about "a.t" = ([], [], [("a.t", fingerprint "class F")]) := by
  -- The tree holds a single file, and the parser fails at it.
  intro language indexer project
  have wellNamed : project.wellNamed = true := by decide
  have found : (indexer.walk project []).toOption = some [["a.t"]] := by decide +kernel
  have ends := eq_ok_of_toOption found
  have walked : ["a.t"] ∈ [["a.t"]] := by simp
  have read : project.textAt? ([] ++ ["a.t"]) = some "class F" := by decide +kernel
  have grammar : ((indexer.registry.ofPath? "a.t").bind fun language =>
      (language.grammarFor "a.t").filter (· != "")) = some "t" := by
    decide +kernel
  have fails : indexer.parsing "a.t" "class F" = .error "boom" := by
    rw [parsing, grammar]
  have treeless : ∀ tree, indexer.parsing "a.t" "class F" ≠ .ok (some tree) := by
    intro tree parsed
    cases fails.symm.trans parsed
  obtain ⟨whole, bare, _, isWhole, isBare, _, shown, same, stays⟩ :=
    scan_reads_lines_iff indexer project [] ["a.t"] "class F" _ wellNamed ends walked read treeless
  have finds : ∀ look ∈ [Look.mk project (some .bare)],
      look.Finds indexer [] ["a.t"] "class F" := by
    intro look listed
    cases List.mem_singleton.mp listed
    exact ⟨wellNamed, ⟨_, ends, walked⟩, read⟩
  obtain ⟨last, isLast, about⟩ := stays ⟨"boom", fails⟩ _ finds
  have declared : (bare.about "a.t").1.map Symbol.id = ["a.t:F"] := by
    rw [((scan_eq_ok_iff wellNamed).mp isBare).2]
    decide +kernel
  refine ⟨whole, bare, last, isWhole, isBare, isLast, declared, ?_, about⟩
  -- With a failing parser the scan can only be the same where the lines show nothing.
  intro equal
  have nothing := ((same.mp (equal.trans shown)).1 ⟨"boom", fails⟩).1
  rw [show bare.about "a.t" = _ from shown, nothing] at declared
  cases declared

/-- A file at which the parser fails has a fingerprint and no symbols, and its line declares one. -/
theorem scan_loses_failing_file :
    let language : Language := {
      identity :=
        { name := "t", displayName := "T", extensions := [".t"], defaultGrammar := some "t" }
      symbolPatterns := []
      referencePatterns := .ok []
      parameterNames := fun _ => []
      inferKind := fun _ kind => kind }
    let indexer : Indexer :=
      ⟨{}, Registry.empty.registerAll [language], some ⟨fun _ _ => .error "boom"⟩⟩
    let project : Folder := [("a.t", .file "class F".toUTF8)]
    (indexer.scan project []).toOption.map (·.fileHashes.keys) = some ["a.t"] ∧
      (indexer.scan project []).toOption.map (·.symbols.isEmpty) = some true ∧
      (Draft.addLines {} "a.t" "class F" (some language)).symbols.map Symbol.id = ["a.t:F"] := by
  decide +kernel

end Indexer

end SourceAtlas
