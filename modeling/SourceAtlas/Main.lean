import SourceAtlas.Command.Run

/-! The program: it reads the tree around the current folder, runs a command there, and writes back
what the command changed. -/

namespace SourceAtlas

/-- A name that no file has; a file of this name is put at the top, so that
links can lead through it. -/
def reservedName : String := "\x00"

/-- The code of the fault that a name is too long. -/
def tooLongCode : UInt32 := 36

/-- The target of a link that cannot be followed: one that fails in the same way. -/
def brokenTarget (name : String) : IO.Error → String
  -- The way goes on behind a file, as it does here.
  | .inappropriateType _ _ _ => "/" ++ reservedName ++ "/" ++ name
  | .invalidArgument _ code _ =>
    -- Apart from names that are too long there are only links that go round in a circle.
    if code == tooLongCode then String.ofList (List.replicate (Folder.nameLimit + 1) 'x') else name
  -- Nothing stands under that name.
  | _ => "/" ++ reservedName ++ name

/-- Reads what a link leads to: its target without links on the way, if it can be followed. -/
def readLink (name path : String) : IO (Entry × List String) := do
  try
    -- The target is taken without links on the way, so no other link has to be known for it.
    let target := (← IO.FS.realPath path).toString
    return (.link target, [target])
  catch fault => return (.link (brokenTarget name fault), [])

/-- Reads a folder, and collects the targets of the links in it. -/
partial def readFolder (path : String) : IO (Folder × List String) := do
  let mut entries := []
  let mut targets := []
  -- The folder is opened by its real path, and the entries keep the path that was asked for.
  for found in ← (← IO.FS.realPath path).readDir do
    let name := found.fileName
    let inner := path ++ "/" ++ name
    -- A link is not followed to tell what it is.
    match (← found.path.symlinkMetadata).type with
    | .dir =>
      -- A folder is read as a whole before the next entry.
      let (inside, more) ← readFolder inner
      entries := (name, Entry.folder inside) :: entries
      targets := more ++ targets
    | .symlink =>
      let (entry, more) ← readLink name inner
      entries := (name, entry) :: entries
      targets := more ++ targets
    | _ =>
      -- A file that may not be read is left out, as if it were not there.
      try entries := (name, Entry.file (← IO.FS.readBinFile inner)) :: entries
      catch _ => pure ()
  return (entries, targets)

/-- Adds what stands at the target of a link, unless it is there already. -/
def addTarget (tree : Folder) (target : String) : IO Folder := do
  let place := pathParts target
  -- Many links may lead to the same target.
  if (tree.at? place).isSome then return tree
  let kind := (← (← IO.FS.realPath target).metadata).type
  match kind with
  -- Of a folder elsewhere only that it is there is read.
  | .dir => return tree.put place (.folder [])
  | _ =>
    try return tree.put place (.file (← IO.FS.readBinFile target))
    catch _ => return tree

/-- Reads the tree around a folder: all below the folder, and what the links in it lead to. -/
def readTree (here : List String) : IO Folder := do
  let (below, targets) ← readFolder ("/" ++ joinPath here)
  -- Where the current folder is the top, there is nothing around it.
  let tree := if here.isEmpty then below else Folder.put here (.folder below) []
  let tree := tree.put [reservedName] (.file ByteArray.empty)
  targets.foldlM addTarget tree

/-- The files of a tree with their bytes, by path. -/
def fileBytes (tree : Folder) : Assoc ByteArray :=
  -- Links are left out, as no command makes one.
  (Folder.leaves (fun _ => false) tree).filterMap fun (names, entry) => match entry with
    | .file bytes => some ("/" ++ joinPath names, bytes)
    | _ => none

/-- Writes the files that are new or different after a command, and removes those that are gone. -/
def writeChanges (before after : Folder) : IO Unit := do
  let old := fileBytes before
  let new := fileBytes after
  -- All that was changed or made is written before anything is removed.
  for (path, bytes) in new do
    if (old.get? path).map ByteArray.toList != some bytes.toList then
      IO.FS.createDirAll ("/" ++ joinPath (pathParts path).dropLast)
      IO.FS.writeBinFile path bytes
  -- A link that is gone is removed as well.
  for (names, _) in Folder.leaves (fun _ => false) before do
    if (after.at? names).isNone then IO.FS.removeFile ("/" ++ joinPath names)

end SourceAtlas

/-- Runs the command that the arguments name in the current folder. -/
def main (arguments : List String) : IO UInt32 := do
  let here := SourceAtlas.pathParts (← IO.FS.realPath ".").toString
  let before ← SourceAtlas.readTree here
  let outcome := SourceAtlas.Command.run before here arguments
  if outcome.code == 2 then
    outcome.lines.forM fun line => IO.eprintln ("Error: " ++ line)
  else outcome.lines.forM fun line => IO.println line
  SourceAtlas.writeChanges before outcome.tree
  return outcome.code.toUInt32
