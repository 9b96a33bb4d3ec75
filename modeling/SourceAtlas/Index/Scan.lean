import SourceAtlas.Index.Draft
import SourceAtlas.Index.Walk

/-! Scanning a source tree, in full or only where files have changed. -/

namespace SourceAtlas

/-- What a refresh found to have changed, as paths seen from the root of the scan. -/
structure Changes where
  updated : List String := []
  added : List String := []
  removed : List String := []
  unchanged : Nat := 0

/-- The changes as a record. -/
def Changes.toJson (changes : Changes) : Json :=
  .obj [("updated", .strings changes.updated), ("added", .strings changes.added),
    ("removed", .strings changes.removed), ("unchanged", .int changes.unchanged)]

/-- The name of a file seen from a folder; a file that lies elsewhere is named from the top. -/
def nameFrom (folder path : List String) : String :=
  -- The folder itself has an empty name.
  if folder.isPrefixOf path then joinPath (path.drop folder.length) else "/" ++ joinPath path

namespace Indexer

/-- Reads one text into a draft; a parser that fails leaves only the fingerprint, and the reason. -/
def addText (indexer : Indexer) (draft : Draft) (file content : String) : Draft × Option String :=
  -- The fingerprint is noted first, so a file whose language is not known has one too.
  let hashed := draft.addHash file (fingerprint content)
  match indexer.registry.ofPath? file with
  | none => (hashed, none)
  | some language =>
    -- A grammar without a name is none.
    match indexer.parser, (language.grammarFor file).filter (· != "") with
    | some parser, some grammar =>
      match parser.parse grammar content with
      | .error reason => (hashed, some reason)
      -- A parser without that grammar gives no tree.
      | .ok none => (hashed.addLines file content (some language), none)
      | .ok (some tree) => (hashed.addTree tree language file content, none)
    | _, _ => (hashed.addLines file content (some language), none)

/-- Reads one file of the project into a draft under a name; a file that
cannot be read adds nothing. -/
def addFile (indexer : Indexer) (project : Folder) (path : List String) (file : String)
    (draft : Draft) : Draft × Option String :=
  -- The file was found by the walk, but its text may be no valid one.
  match project.textAt? path with
  | some content => indexer.addText draft file content
  | none => (draft, none)

/-- Reads one file of the project into a draft, under its name seen from the root of the scan. -/
def indexFile (indexer : Indexer) (project : Folder) (root path : List String) (draft : Draft) :
    Draft × Option String :=
  indexer.addFile project path (nameFrom root path) draft

/-- The snapshot of a draft. -/
def snapshot (indexer : Indexer) (draft : Draft) (totalFiles : Nat) : Snapshot :=
  { symbols := draft.symbols
    references := draft.references
    fileHashes := draft.fileHashes
    stats :=
      { totalFiles
        totalSymbols := draft.symbols.length
        totalReferences := draft.references.length
        -- What counts is whether there is a parser, not whether any file was parsed.
        usingStructural := some indexer.parser.isSome } }

/-- Reads some files below a folder of the project. -/
def index (indexer : Indexer) (project : Folder) (root : List String) (files : List (List String)) :
    Snapshot :=
  -- A file whose parser fails keeps its fingerprint, and the reading goes on with the next one.
  let draft := files.foldl
    (fun draft file => (indexer.indexFile project root (root ++ file) draft).1) {}
  indexer.snapshot draft files.length

/-- Reads all files that the walk over a folder of the project finds. -/
def scan (indexer : Indexer) (project : Folder) (root : List String) : Except WalkFault Snapshot :=
  -- A walk that breaks off gives no snapshot at all.
  (indexer.walk project root).map (indexer.index project root)

/-- Whether a file differs from a fingerprint; one that cannot be read does. -/
def hasChanged (project : Folder) (path : List String) (hash : String) : Bool :=
  -- The text is compared by its fingerprint, not by time or size.
  match project.textAt? path with
  | some content => fingerprint content != hash
  | none => true

/-- Takes over the symbols of an unchanged file. -/
def carry (draft : Draft) (previous : Snapshot) (file hash : String) : Draft :=
  -- A symbol is taken over by the name of its file, and unless its identifier is taken by now.
  (previous.symbols.filter (·.file == file)).foldl Draft.addSymbol (draft.addHash file hash)

/-- Reads or takes over one file, and notes which. -/
def refreshFile (indexer : Indexer) (project : Folder) (root : List String) (previous : Snapshot)
    (state : Draft × Changes) (path : List String) : Draft × Changes :=
  let (draft, changes) := state
  -- The name is the one under which a scan would file it.
  let file := nameFrom root (root ++ path)
  let reread := fun (_ : Unit) => (indexer.indexFile project root (root ++ path) draft).1
  match previous.fileHashes.get? file with
  -- A file without a fingerprint is new, also if the snapshot has symbols of it.
  | none => (reread (), { changes with added := changes.added ++ [file] })
  | some hash =>
    -- A file that was known and cannot be read now counts as updated.
    if hasChanged project (root ++ path) hash then
      (reread (), { changes with updated := changes.updated ++ [file] })
    else (carry draft previous file hash, { changes with unchanged := changes.unchanged + 1 })

/-- The files of a snapshot that are no longer among some, in order. -/
def removedFiles (previous : Snapshot) (files : List String) : List String :=
  -- They are put in order, as the others are by the walk.
  sortTexts (previous.fileHashes.keys.filter fun file => !files.contains file)

/-- Reads those of some files whose fingerprint changed and takes over the symbols of the others;
references of files that are taken over are not kept. -/
def renew (indexer : Indexer) (project : Folder) (root : List String) (previous : Snapshot)
    (files : List (List String)) : Snapshot × Changes :=
  let (draft, changes) := files.foldl (indexer.refreshFile project root previous) ({}, {})
  (indexer.snapshot draft files.length,
    -- A file counts as removed when the walk no longer finds its name.
    { changes with
      removed := removedFiles previous (files.map fun file => nameFrom root (root ++ file)) })

/-- Renews a snapshot for the files that the walk over a folder of the project finds. -/
def refresh (indexer : Indexer) (project : Folder) (root : List String) (previous : Snapshot) :
    Except WalkFault (Snapshot × Changes) :=
  (indexer.walk project root).map (indexer.renew project root previous)

end Indexer

end SourceAtlas
