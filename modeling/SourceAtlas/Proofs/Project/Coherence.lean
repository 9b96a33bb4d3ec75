import SourceAtlas.Proofs.Index.Texts
import SourceAtlas.Proofs.Project.Cache

/-! Projects through any operations and any changes of their trees: when there is a snapshot to ask
about, what a query needs and leaves alone, and what is stored after a build. -/

namespace SourceAtlas

/-! ## Queries -/

/-- A question about a project that needs a snapshot. -/
inductive Query where
  | relevant (topic : String) (bound : Int) (kinds : List String)
  | context (id : String)
  | fileSummary (file : String)
  | overview
  | search (filter : Filter)
  | graph
  | dependencies (file : String)
  | semantic (topic : String) (bound : Int) (kinds : List String)
  | task (task : String) (bound : Int) (includeCode : Bool)
  | explanation (id : String)
  | ranking (symbols : List Symbol) (task : String)

/-- What a query is answered with. -/
inductive Answer where
  | symbols (symbols : List Symbol)
  | context (context : Option SymbolContext)
  | fileSummary (summary : FileSummary)
  | overview (summary : CatalogSummary)
  | found (found : Except Pattern.Fault (List Symbol))
  | graph (graph : DependencyGraph)
  | references (references : List Reference)
  | task (context : TaskContext)
  | explanation (explanation : Option Explanation)

namespace Project

variable {σ : Type}

/-- The answer to a query, and the project after it. -/
def answer (project : Project σ) (tree : Folder) : Query → Except ProjectFault Answer × Project σ
  | .relevant topic bound kinds =>
    (project.ask fun catalog => Answer.symbols (catalog.relevant topic bound kinds), project)
  | .context id => ((project.symbolContext tree id).map .context, project)
  | .fileSummary file =>
    (project.ask fun catalog => Answer.fileSummary (catalog.fileSummary file), project)
  | .overview => (project.ask fun catalog => Answer.overview catalog.summary, project)
  | .search filter => (project.ask fun catalog => Answer.found (catalog.search filter), project)
  | .graph => (project.ask fun catalog => Answer.graph catalog.dependencyGraph, project)
  | .dependencies file =>
    (project.ask fun catalog => Answer.references (catalog.dependenciesOf file), project)
  | .semantic topic bound kinds =>
    (project.consult fun catalog advisor => catalog.semanticSearch advisor topic bound kinds).map
      (Except.map .symbols) id
  | .task task bound includeCode =>
    (project.taskContext tree task bound includeCode).map (Except.map .task) id
  | .explanation symbol => (project.explain tree symbol).map (Except.map .explanation) id
  | .ranking symbols task =>
    (project.consult fun _ advisor => rankSymbols advisor symbols task).map (Except.map .symbols) id

variable {project : Project σ} {α : Type}

/-- Without a catalog no question is answered. -/
private theorem ask_of_none (empty : project.catalog = none) (question : Catalog → α) :
    project.ask question = .error .notBuilt := by
  rw [ask, empty]

/-- With a catalog a question is answered by it. -/
theorem ask_of_some {catalog : Catalog} (present : project.catalog = some catalog)
    (question : Catalog → α) : project.ask question = .ok (question catalog) := by
  rw [ask, present]

/-- Without a catalog the assistant is not asked. -/
private theorem consult_of_none (empty : project.catalog = none)
    (question : Catalog → Advisor σ → α × Advisor σ) :
    project.consult question = (.error .notBuilt, project) := by
  rw [consult, empty]

/-- With a catalog the assistant may be asked, and no more than its state changes. -/
private theorem consult_of_some {catalog : Catalog} (present : project.catalog = some catalog)
    (question : Catalog → Advisor σ → α × Advisor σ) :
    project.consult question = (.ok (question catalog project.advisor).1,
      { project with advisor := (question catalog project.advisor).2 }) := by
  rw [consult, present]

/-- Without a catalog no query is answered. -/
private theorem answer_of_none (empty : project.catalog = none) (tree : Folder) (query : Query) :
    project.answer tree query = (.error .notBuilt, project) := by
  -- Every query asks the catalog, with or without the assistant.
  cases query <;>
    simp only [answer, symbolContext, taskContext, explain, ask_of_none empty,
      consult_of_none empty] <;>
    rfl

/-- With a catalog every query is answered, and changes no more than the state of the assistant. -/
theorem answer_of_some {catalog : Catalog} (present : project.catalog = some catalog)
    (tree : Folder) (query : Query) :
    ∃ answer advisor, project.answer tree query = (.ok answer, { project with advisor }) := by
  -- Every query asks the catalog, with or without the assistant.
  cases query <;>
    simp only [answer, symbolContext, taskContext, explain, ask_of_some present,
      consult_of_some present] <;>
    exact ⟨_, _, rfl⟩

/-- A query leaves all but the assistant as it is. -/
private theorem exists_advisor_answer (project : Project σ) (tree : Folder) (query : Query) :
    ∃ advisor, (project.answer tree query).2 = { project with advisor } := by
  -- A query without a catalog changes nothing at all.
  rcases Option.eq_none_or_eq_some project.catalog with empty | ⟨catalog, present⟩
  · exact ⟨project.advisor, by rw [answer_of_none empty]⟩
  · obtain ⟨answer, advisor, answered⟩ := answer_of_some present tree query
    exact ⟨advisor, by rw [answered]⟩

/-- So does the question whether there is an assistant. -/
private theorem exists_advisor_isAdvised (project : Project σ) :
    ∃ advisor, project.isAdvised.2 = { project with advisor } := by
  -- Without a catalog the assistant is not asked.
  rcases Option.eq_none_or_eq_some project.catalog with empty | ⟨catalog, present⟩
  · exact ⟨project.advisor, by rw [isAdvised, consult_of_none empty]⟩
  · exact ⟨project.advisor.isAvailable.2, by rw [isAdvised, consult_of_some present]⟩

/-- So does its release. -/
private theorem exists_advisor_close (project : Project σ) :
    ∃ advisor, project.close = { project with advisor } := by
  -- There may be nothing to release.
  unfold close
  split
  · exact ⟨_, rfl⟩
  · exact ⟨project.advisor, rfl⟩

/-- A load takes the stored snapshot and returns true, or leaves the project as it is. -/
theorem load_cases (project : Project σ) (tree : Folder) (root : List String) :
    ((project.load tree root).1 ≠ .ok true ∧ (project.load tree root).2 = project) ∨
      ∃ value snapshot, project.stored? tree root = some value ∧
        Snapshot.read value = .good snapshot ∧
        project.load tree root
          = (.ok true, { project.withSnapshot snapshot with root := some root }) := by
  -- A file that can not be asked for, or gives no snapshot, changes nothing.
  rw [load]
  split
  · exact .inl ⟨by simp, rfl⟩
  · cases found : (project.stored? tree root).bind fun value => (Snapshot.read value).value? with
    | none => exact .inl ⟨by simp, rfl⟩
    | some snapshot =>
      obtain ⟨value, held, isRead⟩ := Option.bind_eq_some_iff.mp found
      exact .inr ⟨value, snapshot, held, Checked.value?_eq_some_iff.mp isRead, rfl⟩

end Project

/-! ## Tidy snapshots -/

/-- No symbol in a value gives the exported field both of its names. -/
def Json.SingleNamed (value : Json) : Prop :=
  ∀ fields, .obj fields ∈ value.itemsAt "symbols" →
    ¬ (Assoc.has fields "exports" = true ∧ Assoc.has fields "exported" = true)

namespace Indexer

variable {indexer : Indexer} {project : Folder} {root : List String}

/-- Reading a file keeps the symbols tidy. -/
private theorem tidySymbols_addFile {path : List String} {file : String} {draft : Draft}
    (tidy : ∀ symbol ∈ draft.symbols, symbol.IsTidy) :
    ∀ symbol ∈ (indexer.addFile project path file draft).1.symbols, symbol.IsTidy := by
  -- What a file adds are candidates, which are tidy.
  cases read : project.textAt? path with
  | none => simpa [addFile, read] using tidy
  | some content =>
    obtain ⟨added, isAfter, candidates⟩ := (grows_addText indexer draft file content).symbols
    simp only [addFile, read, isAfter]
    exact List.forall_mem_append.mpr ⟨tidy, fun symbol member => (candidates symbol member).isTidy⟩

/-- Taking over what is known of a file keeps the symbols tidy. -/
private theorem tidySymbols_carry {previous : Snapshot}
    (earlier : ∀ symbol ∈ previous.symbols, symbol.IsTidy) {file hash : String} {draft : Draft}
    (tidy : ∀ symbol ∈ draft.symbols, symbol.IsTidy) :
    ∀ symbol ∈ (carry draft previous file hash).symbols, symbol.IsTidy := by
  -- The symbols taken over are among the earlier ones.
  have grows := @Draft.grows_foldl Symbol.IsTidy (fun _ => True) _ Draft.addSymbol
    (previous.symbols.filter (·.file == file))
    (fun symbol member draft =>
      draft.grows_addSymbol (earlier symbol (List.mem_filter.mp member).1))
    (draft.addHash file hash)
  obtain ⟨added, isAfter, own⟩ := grows.symbols
  rw [carry, isAfter]
  exact List.forall_mem_append.mpr ⟨tidy, own⟩

/-- No file has two fingerprints. -/
theorem nodup_fileHashes_index (indexer : Indexer) (project : Folder) (root : List String)
    (files : List (List String)) : (indexer.index project root files).fileHashes.keys.Nodup := by
  -- A fingerprint that is recorded twice is replaced.
  refine @List.foldlRecOn _ _ (fun draft : Draft => draft.fileHashes.keys.Nodup) _ _ _ (by simp) ?_
  intro draft distinct path _
  rw [indexFile, fileHashes_addFile, recordHash]
  split
  · exact Assoc.nodup_keys_put distinct _ _
  · exact distinct

/-- A scan gives a tidy snapshot. -/
private theorem isTidy_of_scan {fresh : Snapshot} (scans : indexer.scan project root = .ok fresh) :
    fresh.IsTidy := by
  -- The symbols come from the files one after the other.
  rw [scan] at scans
  cases walked : indexer.walk project root with
  | error fault =>
    rw [walked] at scans
    cases scans
  | ok files =>
    rw [walked] at scans
    rw [← Except.ok.inj scans]
    refine ⟨?_, (indexer.tidy_references project root {} files).1,
      indexer.nodup_fileHashes_index project root files⟩
    exact @List.foldlRecOn _ _ (fun draft : Draft => ∀ symbol ∈ draft.symbols, symbol.IsTidy) _ _ _
      (by simp) fun _ tidy _ _ => tidySymbols_addFile tidy

/-- A refresh of a tidy snapshot gives a tidy snapshot. -/
private theorem isTidy_of_refresh {previous refreshed : Snapshot} {changes : Changes}
    (earlier : previous.IsTidy)
    (returns : indexer.refresh project root previous = .ok (refreshed, changes)) :
    refreshed.IsTidy := by
  -- References and fingerprints are those of the files, and symbols are followed file by file.
  rw [refresh] at returns
  cases walked : indexer.walk project root with
  | error fault =>
    rw [walked] at returns
    cases returns
  | ok files =>
    rw [walked] at returns
    rw [show refreshed = (indexer.renew project root previous files).1 from
      (congrArg Prod.fst (Except.ok.inj returns)).symm]
    refine ⟨?_, (indexer.tidy_references project root previous files).2, ?_⟩
    · refine @List.foldlRecOn _ _
        (fun state : Draft × Changes => ∀ symbol ∈ state.1.symbols, symbol.IsTidy) _ _ _
        (by simp) ?_
      -- Every file is either read anew or has its symbols taken over.
      intro state tidy path _
      rcases indexer.refreshFile_cases project root previous state path with
        read | ⟨content, _, _, carried⟩
      · rw [read]
        exact tidySymbols_addFile tidy
      · rw [carried]
        exact tidySymbols_carry earlier.symbols tidy
    · rw [fileHashes_renew]
      exact indexer.nodup_fileHashes_index project root files

end Indexer

/-! ## Operations -/

/-- What can happen to a project and its tree. -/
inductive Operation where
  /-- Someone changes the tree. -/
  | edit (tree : Folder)
  | build (root : List String) (force incremental : Bool)
  | load (root : List String)
  | save (root : List String)
  | clear (root : List String)
  | ask (query : Query)
  /-- Someone wants to know whether there is an assistant. -/
  | advised
  | close

/-- The source tree whose stored snapshot an operation reads. -/
def Operation.reads? : Operation → Option (List String)
  | .build root false true => some root
  | .load root => some root
  | _ => none

/-- Whether an operation can change no more than the state of the assistant. -/
def Operation.isAside : Operation → Bool
  | .ask _ | .advised | .close => true
  | _ => false

/-- A project, the file tree that it works on, and the texts that it has stored there. -/
structure Workplace (σ : Type) where
  tree : Folder
  project : Project σ
  stored : List String := []

namespace Workplace

variable {σ : Type}

/-- What is left when a project has stored its snapshot in a tree, or failed to. -/
def keep (workplace : Workplace σ) (project : Project σ) (tree : Folder) :
    Except ProjectFault Unit → Workplace σ
  | .ok () =>
    let texts := project.snapshot.toList.map Snapshot.render
    { tree, project, stored := workplace.stored ++ texts }
  | .error _ => { workplace with tree, project }

/-- What is left after an operation, whether it succeeds or fails. -/
def next (workplace : Workplace σ) : Operation → Workplace σ
  | .edit tree => { workplace with tree }
  | .build root force incremental =>
    let built := workplace.project.build workplace.tree root force incremental
    workplace.keep built.2.2 built.2.1 built.1
  | .load root => { workplace with project := (workplace.project.load workplace.tree root).2 }
  | .save root =>
    let saved := workplace.project.save workplace.tree root
    workplace.keep workplace.project saved.2 saved.1
  | .clear root =>
    let cleared := workplace.project.clear workplace.tree root
    { workplace with tree := cleared.2.1, project := cleared.2.2 }
  | .ask query => { workplace with project := (workplace.project.answer workplace.tree query).2 }
  | .advised => { workplace with project := workplace.project.isAdvised.2 }
  | .close => { workplace with project := workplace.project.close }

/-- What is left after some operations. -/
def run (workplace : Workplace σ) (operations : List Operation) : Workplace σ :=
  operations.foldl next workplace

/-- An operation that can be expected: what it reads as a stored snapshot was stored by the project,
or gives the exported field of every symbol one name. -/
def Allows (workplace : Workplace σ) (operation : Operation) : Prop :=
  ∀ root, operation.reads? = some root → ∀ text value,
    workplace.tree.textAt? (Project.cachePath workplace.project.indexer.settings root) = some text →
    Json.parseExact text = .ok value → text ∈ workplace.stored ∨ value.SingleNamed

/-- Operations each of which can be expected. -/
def AllowsAll : Workplace σ → List Operation → Prop
  | _, [] => True
  | workplace, operation :: operations =>
    workplace.Allows operation ∧ AllowsAll (workplace.next operation) operations

/-- Queries, the question whether there is an assistant and its release leave tree,
snapshot and all else alone. -/
theorem next_aside (workplace : Workplace σ) (operation : Operation)
    (aside : operation.isAside = true) :
    ∃ advisor, workplace.next operation
      = { workplace with project := { workplace.project with advisor } } := by
  -- Each of the three is told by its own lemma.
  cases operation with
  | ask query =>
    obtain ⟨advisor, same⟩ := workplace.project.exists_advisor_answer workplace.tree query
    exact ⟨advisor, by rw [next, same]⟩
  | advised =>
    obtain ⟨advisor, same⟩ := workplace.project.exists_advisor_isAdvised
    exact ⟨advisor, by rw [next, same]⟩
  | close =>
    obtain ⟨advisor, same⟩ := workplace.project.exists_advisor_close
    exact ⟨advisor, by rw [next, same]⟩
  | edit | build | load | save | clear => cases aside

variable {workplace : Workplace σ}

/-- What holds all along: snapshots are tidy, the one at hand and those that were stored. -/
structure IsTidy (workplace : Workplace σ) : Prop where
  snapshot : ∀ snapshot, workplace.project.snapshot = some snapshot → snapshot.IsTidy
  stored : ∀ text ∈ workplace.stored,
    ∃ snapshot : Snapshot, text = snapshot.render ∧ snapshot.IsTidy

/-- What an expected operation reads is tidy. -/
theorem IsTidy.read (tidy : workplace.IsTidy) {operation : Operation}
    (allowed : workplace.Allows operation) {root : List String}
    (reads : operation.reads? = some root) {value : Json} {snapshot : Snapshot}
    (held : workplace.project.stored? workplace.tree root = some value)
    (accepted : Snapshot.coerce value = .good snapshot) : snapshot.IsTidy := by
  -- What was read is a text of the project itself, or of others.
  obtain ⟨text, isText, parsed⟩ := Project.stored?_eq_some_iff.mp held
  rcases allowed root reads text value isText parsed with own | single
  · -- A tidy snapshot of the project, as it is read again.
    obtain ⟨old, rfl, tidyOld⟩ := tidy.stored text own
    rw [Snapshot.eq_reread_of_parse tidyOld parsed accepted]
    exact tidyOld.reread
  · exact Snapshot.isTidy_of_coerce (Json.keysDistinct_of_parseExact parsed) accepted single

/-- An expected build takes a tidy snapshot, if it takes one. -/
theorem IsTidy.built (tidy : workplace.IsTidy) {root : List String} {force incremental : Bool}
    (allowed : workplace.Allows (.build root force incremental)) {snapshot : Snapshot}
    (has : (workplace.project.build workplace.tree root force incremental).2.2.snapshot
      = some snapshot) : snapshot.IsTidy := by
  -- Without a new snapshot the one at hand stays.
  have outcome := workplace.project.buildOutcome workplace.tree root force incremental
  generalize workplace.project.build workplace.tree root force incremental = built at outcome has
  cases outcome with
  | unreached => exact tidy.snapshot snapshot has
  | stopped => exact tidy.snapshot snapshot has
  | indexed reached scans origin =>
    cases has
    cases origin with
    | scan => exact Indexer.isTidy_of_scan scans
    | refresh isPrevious returns =>
      -- Only a build that reads what is stored starts from a snapshot.
      rw [isPrevious] at reached
      have reads : (Operation.build root force incremental).reads? = some root := by
        cases force <;> cases incremental <;> first | rfl | cases reached
      obtain ⟨value, held, accepted⟩ := Project.previous?_eq_some reached
      exact Indexer.isTidy_of_refresh (tidy.read allowed reads held accepted) returns

/-- Storing a tidy snapshot keeps all that is stored tidy. -/
theorem IsTidy.keep (tidy : workplace.IsTidy) {project : Project σ}
    (snapshot : ∀ snapshot, project.snapshot = some snapshot → snapshot.IsTidy) (tree : Folder)
    (outcome : Except ProjectFault Unit) : (workplace.keep project tree outcome).IsTidy := by
  -- A failed save stores nothing.
  cases outcome with
  | error fault => exact ⟨snapshot, tidy.stored⟩
  | ok =>
    refine ⟨snapshot, fun text member => ?_⟩
    rcases List.mem_append.mp member with old | new
    · exact tidy.stored text old
    · obtain ⟨present, inside, rfl⟩ := List.mem_map.mp new
      exact ⟨present, rfl, snapshot present (Option.mem_toList.mp inside)⟩

/-- An expected operation keeps snapshots tidy. -/
theorem IsTidy.next (tidy : workplace.IsTidy) {operation : Operation}
    (allowed : workplace.Allows operation) : (workplace.next operation).IsTidy := by
  -- Snapshots come from builds and loads, and are stored by builds and saves.
  have aside := workplace.next_aside operation
  cases operation with
  | edit tree => exact ⟨tidy.snapshot, tidy.stored⟩
  | build root force incremental =>
    -- What is stored is what was just taken.
    exact tidy.keep (fun snapshot has => tidy.built allowed has) _ _
  | load root =>
    refine ⟨fun snapshot has => ?_, tidy.stored⟩
    rcases workplace.project.load_cases workplace.tree root with
      ⟨_, same⟩ | ⟨value, other, held, isRead, found⟩
    · rw [Workplace.next, same] at has
      exact tidy.snapshot snapshot has
    · rw [Workplace.next, found] at has
      cases has
      exact tidy.read allowed rfl held (Snapshot.coerce_of_read isRead)
  | save root => exact tidy.keep tidy.snapshot _ _
  | clear root =>
    -- There is no snapshot any more, or nothing has happened.
    rw [Workplace.next]
    rcases workplace.project.clear_cases workplace.tree root with
      ⟨fault, cleared⟩ | ⟨after, cleared, _⟩
    · rw [cleared]
      exact ⟨tidy.snapshot, tidy.stored⟩
    · rw [cleared]
      exact ⟨fun snapshot has => (by cases has), tidy.stored⟩
  | ask | advised | close =>
    obtain ⟨advisor, same⟩ := aside rfl
    rw [same]
    exact ⟨tidy.snapshot, tidy.stored⟩

/-- So do expected operations one after the other. -/
theorem IsTidy.run {workplace : Workplace σ} (tidy : workplace.IsTidy) {operations : List Operation}
    (allowed : workplace.AllowsAll operations) : (workplace.run operations).IsTidy := by
  -- The induction is on the operations, with the step above.
  induction operations generalizing workplace with
  | nil => exact tidy
  | cons operation operations ih => exact ih (tidy.next allowed.1) allowed.2

end Workplace

end SourceAtlas
