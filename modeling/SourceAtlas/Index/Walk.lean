import SourceAtlas.FileTree
import SourceAtlas.Glob
import SourceAtlas.Language.Registry
import SourceAtlas.Settings
import SourceAtlas.Structure.Match

/-! The walk over a source tree: which files are to be read, and what makes it break off. -/

namespace SourceAtlas

/-- What a scan depends on besides the tree. -/
structure Indexer where
  settings : Settings
  registry : Registry
  /-- The structural parser, if there is one. -/
  parser : Option StructuralParser

/-- Why a walk breaks off. -/
inductive WalkFault where
  /-- A link cannot be followed, though it does not just lead nowhere. -/
  | link (fault : FileFault)
  /-- The language of a file cannot be made. -/
  | language (fault : RegistryFault)

namespace Indexer

/-- Whether a leaf is a file to be read: its name is not ignored, its language known,
its size not too great. -/
def inspect (indexer : Indexer) (project : Folder) (root : List String) (leaf : Leaf) :
    Except WalkFault Bool := do
  -- The name of a link counts, not that of what it leads to.
  let name := leaf.1.getLast?.getD ""
  -- A link that leads nowhere is no file, but one that goes round in a circle is a fault.
  let found ← (project.fileAt (root ++ leaf.1)).mapError .link
  match found with
  -- Folders behind links are not walked.
  | none => return false
  | some bytes =>
    -- The language of an ignored file is not asked for, so it cannot break off the walk.
    if matchesAny (indexer.settings.ignoreFiles.map Glob.parse) name then return false
    let language ← (indexer.registry.ofPath name).mapError .language
    return language.isSome && (bytes.size : Int) ≤ indexer.settings.maxFileSize

/-- The paths of the files to be read among some leaves. -/
def select (indexer : Indexer) (project : Folder) (root : List String) :
    List Leaf → Except WalkFault (List (List String))
  | [] => .ok []
  | leaf :: leaves => do
    -- The first fault ends the walk, in the order of the names.
    let wanted ← indexer.inspect project root leaf
    let others ← indexer.select project root leaves
    return if wanted then leaf.1 :: others else others

/-- The files to be read below a folder of the project, in the order of
their names at every level. -/
def walk (indexer : Indexer) (project : Folder) (root : List String) :
    Except WalkFault (List (List String)) :=
  match project.at? root with
  | some (.folder entries) =>
    indexer.select project root (Folder.leaves indexer.settings.ignoreDirs.contains entries)
  -- What is not a folder has nothing below it.
  | _ => .ok []

end Indexer

end SourceAtlas
