import SourceAtlas.Text.Blank
import SourceAtlas.Text.Cut

/-! Slash-separated paths as texts: their parts, their normal form, joining, and the paths that
relative module names denote, seen from the file that imports them. -/

namespace SourceAtlas.Path

/-- The part after the last slash. -/
def baseName (path : List Char) : List Char :=
  -- A path that ends in a slash has an empty last part.
  (path.reverse.takeWhile (· != '/')).reverse

/-- The part up to and including the last slash. -/
def head (path : List Char) : List Char :=
  -- The two parts make up the path.
  (path.reverse.dropWhile (· != '/')).reverse

/-- The directory of a path: the part before the last slash, without the slashes
unless it is all slashes. -/
def dirName (path : List Char) : List Char :=
  -- A path of slashes alone is the root, however many there are.
  let head := head path
  if head.all (· == '/') then head else trimEndBy (· == '/') head

/-- The name without its extension; dots at the front of a name start no extension. -/
def stemOfName (name : List Char) : List Char :=
  -- Only the last dot behind those in front starts an extension.
  let dots := name.takeWhile (· == '.')
  let body := name.dropWhile (· == '.')
  if body.contains '.' then
    dots ++ (body.reverse.dropWhile (· != '.')).reverse.dropLast
  else name

/-- A path without the extension of its last part. -/
def withoutExtension (path : List Char) : List Char :=
  -- Dots in the directories are left alone.
  head path ++ stemOfName (baseName path)

/-- A path joined to a base; a path that starts at the root stands alone. -/
def join (base path : List Char) : List Char :=
  -- A slash is put between the two unless there is one.
  if path.head? == some '/' then path
  else if base.isEmpty || base.getLast? == some '/' then base ++ path
  else base ++ '/' :: path

/-- The number of slashes that a normal form keeps in front: exactly two are kept as two. -/
def rootSlashes (path : List Char) : Nat :=
  -- Three slashes or more count as one.
  match (path.takeWhile (· == '/')).length with
  | 0 => 0
  | 2 => 2
  | _ => 1

/-- Adds one part to the parts so far in reverse, cancelling a step up
against the part before it. -/
def pushPart (rooted : Bool) (done : List (List Char)) (part : List Char) : List (List Char) :=
  -- Empty parts stand between two slashes.
  if part == [] || part == ['.'] then done
  else if part == ['.', '.'] then
    match done with
    -- The root is its own parent, and a step up in front of a relative path is kept.
    | [] => if rooted then [] else [part]
    | last :: rest => if last == ['.', '.'] then part :: done else rest
  else part :: done

/-- Parts with a slash between each two. -/
def joinParts (parts : List (List Char)) : List Char :=
  -- No slash stands at either end.
  List.intercalate ['/'] parts

/-- The normal form of a path: no empty or single-dot parts, and steps up only in front. -/
def normalize (path : List Char) : List Char :=
  -- The parts are built in reverse, so that the last one is at hand.
  let slashes := rootSlashes path
  let parts := ((splitAtChar '/' path).foldl (pushPart (slashes != 0)) []).reverse
  let whole := List.replicate slashes '/' ++ joinParts parts
  if whole.isEmpty then ['.'] else whole

/-- The named parts of a path, without empty and single-dot ones. -/
def parts (path : List Char) : List (List Char) :=
  -- Steps up are names here.
  (splitAtChar '/' path).filter fun part => part != [] && part != ['.']

/-- The suffix of a file name: its last dot and what follows, unless the dot
starts or ends the name. -/
def suffixOfName (name : List Char) : List Char :=
  -- A name without a dot is its own tail.
  let tail := (name.reverse.takeWhile (· != '.')).reverse
  if tail.isEmpty || name.length ≤ tail.length + 1 then [] else '.' :: tail

/-- The suffix of the last named part of a path. -/
def suffix (path : String) : String :=
  -- The root has no name, and so no suffix.
  match (parts path.toList).getLast? with
  | none => ""
  | some name => String.ofList (suffixOfName name)

end SourceAtlas.Path

namespace SourceAtlas

/-- Whether a module name is written as a path: a lone dot or two, or steps with slashes. -/
def isPathModule (name : List Char) : Bool :=
  -- Other names that start with a dot count levels by their dots.
  name == ['.'] || name == ['.', '.'] || startsWith ['.', '/'] name ||
    startsWith ['.', '.', '/'] name

/-- The directory some levels up. -/
def levelsUp : Nat → List Char → List Char
  | 0, directory => directory
  | levels + 1, directory => levelsUp levels (Path.dirName directory)

/-- The path without extension that a relative module denotes; other modules denote none. -/
def relativeTarget? (source moduleName : List Char) : Option (List Char) :=
  -- The module is looked for from the directory of the file that imports it.
  let directory := Path.dirName source
  if moduleName.head? != some '.' then none
  else if isPathModule moduleName then some (Path.normalize (Path.join directory moduleName))
  else
    -- One dot is the directory itself, and each further one is a level up.
    let dots := moduleName.takeWhile (· == '.')
    let base := levelsUp (dots.length - 1) directory
    let rest := (moduleName.dropWhile (· == '.')).map fun c => if c == '.' then '/' else c
    if rest.isEmpty then some (Path.normalize base) else some (Path.normalize (Path.join base rest))

end SourceAtlas
