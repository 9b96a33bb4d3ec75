import SourceAtlas.Catalog.Relevance
import SourceAtlas.Index.Scan
import SourceAtlas.Json.Reader

/-! Projects: a source tree with its stored snapshot, and the questions about it. -/

namespace SourceAtlas

/-- Why a project cannot do what it is asked. -/
inductive ProjectFault where
  /-- There is no snapshot. -/
  | notBuilt
  /-- The walk over the source tree breaks off. -/
  | walk (fault : WalkFault)
  /-- The stored snapshot cannot be reached, written or removed. -/
  | file (fault : FileFault)
  /-- The snapshot holds a value that cannot be written. -/
  | unwritable

/-- The wording of a fault of the file system. -/
def FileFault.message : FileFault → String
  -- These are the words of the system.
  | missing => "No such file or directory"
  | throughFile => "Not a directory"
  | tooManyLinks => "Too many levels of symbolic links"
  | tooLong => "File name too long"
  | taken => "File exists"
  | isFolder => "Is a directory"

/-- The wording of a fault. -/
def ProjectFault.message : ProjectFault → String
  -- A fault of a language is worded where the language is looked up.
  | notBuilt => "Index not built. Call build() first."
  | walk (.link fault) => fault.message
  | walk (.language fault) => fault.message
  | file fault => fault.message
  | unwritable => "Error serializing to JSON"

/-- A symbol with its code, the calls of it, and what its file imports. -/
structure SymbolContext where
  symbol : Symbol
  /-- The lines of the symbol and one on either side, if its file can be read. -/
  code : Option String
  calls : List CallSite
  dependencies : List Reference

/-- A source tree that is scanned, stored and asked about. -/
structure Project (σ : Type) where
  indexer : Indexer
  advisor : Advisor σ
  /-- The folder of the source tree, once it is known. -/
  root : Option (List String) := none
  snapshot : Option Snapshot := none
  /-- What the questions are put to; it is made anew with every snapshot. -/
  catalog : Option Catalog := none
  /-- What the last build found to have changed, if it was a refresh. -/
  changes : Option Changes := none

namespace Project

variable {σ : Type}

/-- Where the snapshot of a source tree is stored. -/
def cachePath (settings : Settings) (root : List String) : List String :=
  -- Both settings may be paths of their own, and may start at the root.
  pathFrom (pathFrom root settings.cacheDir) settings.cacheFile

/-- The project with a snapshot. -/
def withSnapshot (project : Project σ) (snapshot : Snapshot) : Project σ :=
  -- The catalog is made at once, so that the two never differ.
  { project with snapshot := some snapshot, catalog := some (Catalog.ofSnapshot snapshot) }

/-- The value that is stored for a source tree. -/
def stored? (project : Project σ) (tree : Folder) (root : List String) : Option Json := do
  -- A file that is no text, or no value, counts as no stored value.
  let text ← tree.textAt? (cachePath project.indexer.settings root)
  (Json.parseExact text).toOption

/-- Stores the snapshot. Its folder is made first, so it stays when the
snapshot cannot be written. -/
def save (project : Project σ) (tree : Folder) (root : List String) :
    Except ProjectFault Unit × Folder :=
  -- Without a snapshot not even the folder is made.
  let path := cachePath project.indexer.settings root
  match project.snapshot with
  | none => (.error .notBuilt, tree)
  | some snapshot =>
    -- The folder stays when what follows fails.
    match tree.provide path.dropLast with
    | (.error fault, tree) => (.error (.file fault), tree)
    | (.ok (), tree) =>
      if snapshot.isWritable then
        match tree.write path snapshot.render.toUTF8 with
        | .error fault => (.error (.file fault), tree)
        | .ok tree => (.ok (), tree)
      else (.error .unwritable, tree)

/-- Scans the whole source tree and stores the snapshot. When the walk breaks off, the
snapshot stays as it was. -/
def rebuild (project : Project σ) (tree : Folder) (root : List String) :
    Except ProjectFault Unit × Folder × Project σ :=
  -- What an earlier refresh found is forgotten before anything can fail.
  let project := { project with changes := none }
  match project.indexer.scan tree root with
  | .error fault => (.error (.walk fault), tree, project)
  | .ok snapshot =>
    -- The snapshot is kept even where storing it fails.
    let project := project.withSnapshot snapshot
    let (outcome, tree) := project.save tree root
    (outcome, tree, project)

/-- Refreshes a snapshot where files have changed and stores it; when that fails, all is scanned. -/
def update (project : Project σ) (tree : Folder) (root : List String) (previous : Snapshot) :
    Except ProjectFault Unit × Folder × Project σ :=
  -- A refresh that cannot be stored counts as one that failed.
  match project.indexer.refresh tree root previous with
  -- A walk that breaks off here breaks off there too.
  | .error _ => project.rebuild tree root
  | .ok (snapshot, changes) =>
    let project := { project.withSnapshot snapshot with changes := some changes }
    match project.save tree root with
    | (.ok (), tree) => (.ok (), tree, project)
    | (.error _, tree) => project.rebuild tree root

/-- The stored snapshot that a build may start from. -/
def previous? (project : Project σ) (tree : Folder) (root : List String)
    (force incremental : Bool) : Except FileFault (Option Snapshot) :=
  -- A stored value that is no snapshot is passed over, and all is scanned.
  if !force && incremental then
    -- Whether there is a file is asked before it is read, and only that question can fail.
    (tree.isThere (cachePath project.indexer.settings root)).map fun _ =>
      (project.stored? tree root).bind fun value => (Snapshot.coerce value).value?
  else .ok none

/-- Builds the snapshot, from the stored one where that is wanted and can be read. -/
def build (project : Project σ) (tree : Folder) (root : List String) (force incremental : Bool) :
    Except ProjectFault Unit × Folder × Project σ :=
  -- The folder is known from here on, whatever comes of the build.
  let project := { project with root := some root }
  match project.previous? tree root force incremental with
  | .error fault => (.error (.file fault), tree, project)
  | .ok none => project.rebuild tree root
  | .ok (some previous) => project.update tree root previous

/-- Takes the stored snapshot as it is, if it is one. -/
def load (project : Project σ) (tree : Folder) (root : List String) :
    Except ProjectFault Bool × Project σ :=
  -- Null is no snapshot here, unlike where a build starts from it.
  match tree.isThere (cachePath project.indexer.settings root) with
  | .error fault => (.error (.file fault), project)
  | .ok _ =>
    match (project.stored? tree root).bind fun value => (Snapshot.read value).value? with
    | some snapshot => (.ok true, { project.withSnapshot snapshot with root := some root })
    | none => (.ok false, project)

/-- Removes the stored snapshot and forgets the one that is loaded. -/
def clear (project : Project σ) (tree : Folder) (root : List String) :
    Except ProjectFault Unit × Folder × Project σ :=
  -- What cannot be removed leaves the project as it was.
  let path := cachePath project.indexer.settings root
  let removed := (tree.isThere path).bind fun found => if found then tree.unlink path else .ok tree
  match removed with
  | .error fault => (.error (.file fault), tree, project)
  | .ok tree => (.ok (), tree, { project with snapshot := none, catalog := none })

/-- Asks the catalog, if there is one. -/
def ask {α : Type} (project : Project σ) (question : Catalog → α) : Except ProjectFault α :=
  -- The catalog stands for the snapshot, with which it is made.
  match project.catalog with
  | none => .error .notBuilt
  | some catalog => .ok (question catalog)

/-- Asks the catalog with the help of the assistant. -/
def consult {α : Type} (project : Project σ) (question : Catalog → Advisor σ → α × Advisor σ) :
    Except ProjectFault α × Project σ :=
  -- The question may have started the assistant, so its new state is kept.
  match project.catalog with
  | none => (.error .notBuilt, project)
  | some catalog =>
    let (answer, advisor) := question catalog project.advisor
    (.ok answer, { project with advisor })

/-- Symbols as lines of a prompt; none without a snapshot. -/
def promptText (project : Project σ) (symbols : List Symbol) : String :=
  -- A text of at most a hundred symbols.
  if project.catalog.isSome then Symbol.promptText symbols true 100 else ""

/-- Short records of symbols; none without a snapshot. -/
def handles (project : Project σ) (symbols : List Symbol) : List Json :=
  -- The symbols come from the caller, but without a snapshot they mean nothing.
  if project.catalog.isSome then symbols.map Symbol.handle else []

/-- The lines of a symbol and one on either side. -/
def excerpt (text : String) (symbol : Symbol) : String :=
  -- The lines are counted from one, and the slice takes signed bounds.
  let lines := textLines text.toList
  let start := max 0 (symbol.startLine - 2)
  let stop := min (lines.length : Int) (symbol.endLine + 1)
  joinWith "\n" ((sliceSigned start stop lines).map String.ofList)

/-- The code of a symbol, if its file can be read. -/
def codeOf? (project : Project σ) (tree : Folder) (symbol : Symbol) : Option String := do
  -- Before the first build the folder is not known.
  let root ← project.root
  let text ← tree.textAt? (pathFrom root symbol.file)
  return excerpt text symbol

/-- A symbol with its code and surroundings. -/
def symbolContext (project : Project σ) (tree : Folder) (id : String) :
    Except ProjectFault (Option SymbolContext) :=
  -- The surroundings are looked up by identifier and by file.
  project.ask fun catalog => (catalog.find? id).map fun symbol =>
    { symbol
      code := project.codeOf? tree symbol
      calls := catalog.callsOf id
      dependencies := catalog.dependenciesOf symbol.file }

/-- The code of a symbol by its identifier; empty when there is none. -/
def codeFor (project : Project σ) (tree : Folder) (id : String) : String :=
  -- A fault and a missing symbol look the same.
  match project.symbolContext tree id with
  | .ok (some context) => context.code.getD ""
  | _ => ""

/-- The symbol with its code, if there is any. -/
def withCode (project : Project σ) (tree : Folder) (symbol : Symbol) : Symbol :=
  -- A symbol without code keeps its fields.
  let code := project.codeFor tree symbol.id
  if code.isEmpty then symbol else symbol.withExtra "code" (.str code)

/-- The context of a task, with the code of its symbols if that is wanted. -/
def taskContext (project : Project σ) (tree : Folder) (task : String) (bound : Int)
    (includeCode : Bool) : Except ProjectFault TaskContext × Project σ :=
  -- The code is attached afterwards, with the project as it is then.
  let (context, project) :=
    project.consult fun catalog advisor => catalog.taskContext advisor task bound
  let attach := fun (context : TaskContext) =>
    if includeCode then { context with symbols := context.symbols.map (project.withCode tree) }
      else context
  (context.map attach, project)

/-- The explanation of a symbol with its code. -/
def explain (project : Project σ) (tree : Folder) (id : String) :
    Except ProjectFault (Option Explanation) × Project σ :=
  -- The code goes into the question to the assistant.
  project.consult fun catalog advisor => catalog.explain advisor id (project.codeFor tree id)

/-- Whether an assistant can be asked; without a snapshot there is none. -/
def isAdvised (project : Project σ) : Bool × Project σ :=
  -- The question is the same for all catalogs.
  match project.consult fun _ advisor => advisor.isAvailable with
  | (.ok answer, project) => (answer, project)
  | (.error _, project) => (false, project)

/-- Releases what the assistant holds. -/
def close (project : Project σ) : Project σ :=
  -- Without a snapshot no assistant was asked.
  if project.catalog.isSome then { project with advisor := project.advisor.close } else project

end Project

/-- The fields of a symbol with its surroundings. -/
def SymbolContext.fields (context : SymbolContext) : Assoc Json :=
  -- A field of the same name is put anew, in the place where it is.
  ((context.symbol.fields.put "code" (.ofText? context.code)).put "references"
    (.arr (context.calls.map CallSite.toJson))).put "dependencies"
    (.arr (context.dependencies.map Reference.toJson))

end SourceAtlas
