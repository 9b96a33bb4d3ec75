import SourceAtlas.Assoc
import SourceAtlas.Path
import SourceAtlas.Text.Utf8

/-! Trees of files, folders and links, and how paths lead through them. -/

namespace SourceAtlas

/-- Why a path leads nowhere, or why nothing can be made under it. -/
inductive FileFault where
  /-- Nothing stands under a name on the way. -/
  | missing
  /-- The way goes on behind a file. -/
  | throughFile
  /-- There are too many links on the way. -/
  | tooManyLinks
  /-- A name is too long. -/
  | tooLong
  /-- Something else stands there. -/
  | taken
  /-- A folder stands there. -/
  | isFolder
  deriving DecidableEq

/-- What stands under a name in a folder. -/
inductive Entry where
  | file (bytes : ByteArray)
  /-- A link to a path that is seen from the folder it stands in, or from the top. -/
  | link (target : String)
  | folder (entries : List (String × Entry))
  deriving Inhabited

/-- The entries of a folder by name. -/
abbrev Folder := List (String × Entry)

/-- The named parts of a path. -/
def pathParts (path : String) : List String :=
  (Path.parts path.toList).map String.ofList

/-- A path seen from a folder; one that starts with a slash is seen from the top. -/
def pathFrom (folder : List String) (path : String) : List String :=
  -- Empty parts and single dots are left out in either case.
  if path.startsWith "/" then pathParts path else folder ++ pathParts path

/-- Parts with a slash between each two. -/
def joinPath (parts : List String) : String :=
  joinWith "/" parts

/-- The entry at the end of some names; links are not followed. -/
def Entry.at? : Entry → List String → Option Entry
  | entry, [] => some entry
  -- Each name has to stand in the folder that the ones before it lead to.
  | .folder entries, name :: rest => (Assoc.get? entries name).bind fun entry => entry.at? rest
  -- Nothing stands under a file or a link.
  | _, _ :: _ => none
termination_by _ names => names.length

namespace Folder

/-- The entry at the end of some names; links are not followed. -/
def at? (folder : Folder) (names : List String) : Option Entry :=
  (Entry.folder folder).at? names

/-- How many links may stand on the way to an entry. -/
def linkLimit : Nat := 40

/-- How many bytes a name may have. -/
def nameLimit : Nat := 255

/-- The parts of the path of a link; a slash or a single dot at its end stays as a part, for nothing
but a folder may be followed by it. -/
def linkParts (target : String) : List String :=
  let last := (splitAtChar '/' target.toList).getLast?.getD []
  -- Such an end says that a folder is meant, which the named parts alone would not tell.
  pathParts target ++ if last == [] || last == ['.'] then [String.ofList last] else []

/-- Whether a part of a path is a step on the spot. -/
def isStay (part : String) : Bool :=
  part == "" || part == "."

/-- Whether a part of a path is a name, and neither a step on the spot nor a step up. -/
def isName (part : String) : Bool :=
  -- A slash at the end leaves an empty part, and two dots are a step up.
  !isStay part && part != ".."

/-- The place at the end of a path seen from a folder, without links and steps up. A link on
the way is handed on, with the folder and the path to go on from. Where a file is to be
made, its name may be new. -/
def resolveWith (tree : Folder) (make : Bool)
    (follow : List String → List String → Except FileFault (List String)) :
    List String → List String → Except FileFault (List String)
  | names, [] => .ok names
  | names, part :: rest =>
    if isStay part then resolveWith tree make follow names rest
    -- Above the top there is nothing but the top.
    else if part == ".." then resolveWith tree make follow names.dropLast rest
    -- A slash at the end asks for a folder, and a folder is not made in the place of a file.
    else if make && rest == [""] then .error .isFolder
    else
      match tree.at? (names ++ [part]) with
      | some (.folder _) => resolveWith tree make follow (names ++ [part]) rest
      -- A file may end the way but not lead on.
      | some (.file _) => if rest.isEmpty then .ok (names ++ [part]) else .error .throughFile
      | some (.link target) =>
        -- A link is followed from where it stands, or from the top.
        follow (if target.startsWith "/" then [] else names) (linkParts target ++ rest)
      | none =>
        -- The length of a name is told only where nothing stands under it.
        if nameLimit < part.utf8ByteSize then .error .tooLong
        else if make && rest.isEmpty then .ok (names ++ [part])
        else .error .missing

/-- The place at the end of a path seen from a folder, with at most so many links on the way. -/
def resolve (tree : Folder) (make : Bool) :
    Nat → List String → List String → Except FileFault (List String)
  -- The links are used up, so the next one on the way is one too many.
  | 0 => tree.resolveWith make fun _ _ => .error .tooManyLinks
  | links + 1 => tree.resolveWith make (tree.resolve make links)

/-- The place that a path leads to. -/
def locate (tree : Folder) (path : List String) : Except FileFault (List String) :=
  tree.resolve false linkLimit [] path

/-- The file that a path leads to, if it leads to one; what is missing is no fault. -/
def fileAt (tree : Folder) (path : List String) : Except FileFault (Option ByteArray) :=
  match tree.locate path with
  | .ok place =>
    match tree.at? place with
    | some (.file bytes) => .ok (some bytes)
    | _ => .ok none
  -- A file that is missing is none, but a way that goes wrong is a fault.
  | .error .missing => .ok none
  | .error fault => .error fault

/-- The bytes of the file at the end of a path. -/
def bytesAt? (tree : Folder) (path : List String) : Option ByteArray :=
  (tree.fileAt path).toOption.join

/-- The text of the file at the end of a path, if it is well-formed. -/
def textAt? (tree : Folder) (path : List String) : Option String :=
  (tree.bytesAt? path).bind decodeText?

/-- Whether a path leads somewhere; only a name that is too long is a fault. -/
def isThere (tree : Folder) (path : List String) : Except FileFault Bool :=
  match tree.locate path with
  | .ok _ => .ok true
  -- All other faults say that nothing is there.
  | .error .tooLong => .error .tooLong
  | .error _ => .ok false

/-- Whether a path leads to a folder; only a name that is too long is a fault. -/
def hasFolder (tree : Folder) (path : List String) : Except FileFault Bool :=
  match tree.locate path with
  | .ok place =>
    match tree.at? place with
    | some (.folder _) => .ok true
    | _ => .ok false
  -- All other faults say that no folder is there.
  | .error .tooLong => .error .tooLong
  | .error _ => .ok false

/-- Puts an entry under a chain of names, with the folders that it needs. -/
def put : List String → Entry → Folder → Folder
  | [], _, folder => folder
  | [name], entry, folder => Assoc.put folder name entry
  | name :: rest, entry, folder =>
    -- A file or a link in the way makes room for a folder.
    let inner := match Assoc.get? folder name with
      | some (.folder entries) => entries
      | _ => []
    Assoc.put folder name (.folder (put rest entry inner))

/-- Removes what stands under a chain of names. -/
def remove : List String → Folder → Folder
  | [], folder => folder
  | [name], folder => Assoc.erase folder name
  | name :: rest, folder =>
    -- Only folders have something under them.
    match Assoc.get? folder name with
    | some (.folder entries) => Assoc.put folder name (.folder (remove rest entries))
    | _ => folder

/-- Makes one folder; the folder that it stands in has to be there, and its name has to be free. -/
def makeFolder (tree : Folder) (above : List String) (name : String) : Except FileFault Folder :=
  match tree.locate above with
  -- Whatever is wrong above is told first.
  | .error fault => .error fault
  | .ok place =>
    match tree.at? place with
    | some (.folder _) =>
      -- A step that is no name leads to a folder that is there already.
      if !isName name || (tree.at? (place ++ [name])).isSome then .error .taken
      else if nameLimit < name.utf8ByteSize then .error .tooLong
      else .ok (tree.put (place ++ [name]) (.folder []))
    | _ => .error .throughFile

/-- Makes one folder unless there is one. -/
def ensureFolder (tree : Folder) (above : List String) (name : String) : Except FileFault Folder :=
  match tree.makeFolder above name with
  -- Only where something above is missing is there a chance to make it.
  | .ok made => .ok made
  | .error .missing => .error .missing
  | .error fault =>
    -- Whatever the reason was, a folder that is there will do.
    (tree.hasFolder (above ++ [name])).bind fun found => if found then .ok tree else .error fault

/-- Makes a folder and those above it that are missing; the path is given from its end. Folders that
have been made stay when a later one cannot be made. -/
def provideFrom : List String → Folder → Except FileFault Unit × Folder
  | [], tree => (.ok (), tree)
  | name :: above, tree =>
    match tree.ensureFolder above.reverse name with
    -- In most cases the folder above is there.
    | .ok made => (.ok (), made)
    | .error .missing =>
      -- Something above is missing: it is made first, and then this folder is tried once more.
      match provideFrom above tree with
      | (.error fault, tree) => (.error fault, tree)
      | (.ok (), tree) =>
        match tree.ensureFolder above.reverse name with
        | .ok made => (.ok (), made)
        | .error fault => (.error fault, tree)
    | .error fault => (.error fault, tree)

/-- Makes a folder and those above it that are missing. -/
def provide (tree : Folder) (path : List String) : Except FileFault Unit × Folder :=
  provideFrom path.reverse tree

/-- The place of the file that is written under a path. -/
def placeFor (tree : Folder) (path : List String) : Except FileFault (List String) :=
  (tree.resolve true linkLimit [] path).bind fun place =>
    match tree.at? place with
    -- A file replaces a file, but never a folder.
    | some (.folder _) => .error .isFolder
    | _ => .ok place

/-- Writes a file into a folder that is there. -/
def write (tree : Folder) (path : List String) (bytes : ByteArray) : Except FileFault Folder :=
  (tree.placeFor path).map fun place => tree.put place (.file bytes)

/-- Removes a file or a link; links on the way to it are followed. -/
def unlink (tree : Folder) (path : List String) : Except FileFault Folder :=
  match path.getLast? with
  -- The empty path is the top, which is a folder.
  | none => .error .isFolder
  | some name =>
    -- So is whatever a step up leads to.
    if name == ".." then .error .isFolder
    else (tree.locate path.dropLast).bind fun above =>
      match tree.at? (above ++ [name]) with
      | some (.folder _) => .error .isFolder
      -- A link is removed itself and not what it leads to.
      | some _ => .ok (tree.remove (above ++ [name]))
      | none => .error .missing

end Folder

/-- A file or a link and the names that lead to it. -/
abbrev Leaf := List String × Entry

mutual

/-- The files and links under a name, in the order of their names; folders with
skipped names are left out. -/
def Entry.leaves (skip : String → Bool) (name : String) : Entry → List Leaf
  | .folder entries =>
    -- Skipping is by name and at any depth.
    if skip name then []
    else
      -- The names of one folder are put in order before what is under them is listed.
      let groups := (Folder.leafGroups skip entries).mergeSort fun a b => decide (a.1 ≤ b.1)
      (groups.flatMap Prod.snd).map fun leaf => (name :: leaf.1, leaf.2)
  -- A link is listed like a file, whatever it leads to.
  | entry => [([name], entry)]

/-- The files and links of a folder, grouped by the first name. -/
def Folder.leafGroups (skip : String → Bool) : List (String × Entry) → List (String × List Leaf)
  | [] => []
  | (name, entry) :: entries => (name, entry.leaves skip name) :: Folder.leafGroups skip entries

end

/-- The files and links of a folder, in the order of their names at every level. -/
def Folder.leaves (skip : String → Bool) (folder : Folder) : List Leaf :=
  ((Folder.leafGroups skip folder).mergeSort fun a b => decide (a.1 ≤ b.1)).flatMap Prod.snd

end SourceAtlas
