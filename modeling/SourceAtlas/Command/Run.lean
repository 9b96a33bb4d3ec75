import SourceAtlas.Command.Basic
import SourceAtlas.Language.Known
import SourceAtlas.Project
import SourceAtlas.Terminal.Markup
import SourceAtlas.Terminal.Table

/-! Carrying out commands on a source tree. -/

namespace SourceAtlas

/-- Something that a command prints. -/
inductive Printout where
  /-- Marked text, in lines that fit the terminal. -/
  | marked (text : String)
  /-- Lines as they are. -/
  | lines (texts : List String)
  /-- A table of marked texts. -/
  | table (title : String) (columns : List Column) (rows : List (List String))

/-- The width of the terminal. -/
def terminalWidth : Nat := 200

namespace Printout

/-- The lines of a printout; none when its marks are wrong. -/
def render? : Printout → Option (List String)
  | marked text =>
    -- Long lines are folded at the width of the terminal.
    (Markup.shown? text).map fun shown =>
      (Wrap.lines terminalWidth .fold .plain shown).map String.ofList
  | lines texts => some texts
  | table title columns rows => do
    -- The marks of all texts have to be right before anything is laid out.
    let title ← Markup.shown? title
    let rows ← rows.mapM fun row => row.mapM Markup.shown?
    return Table.render ⟨title, columns, rows⟩ terminalWidth

/-- The lines of printouts up to the first with wrong marks, and whether there was none. -/
def renderAll : List Printout → List String × Bool
  | [] => ([], true)
  | first :: rest =>
    -- What was rendered before wrong marks is printed all the same.
    match first.render? with
    | none => ([], false)
    | some shown =>
      let (others, whole) := renderAll rest
      (shown ++ others, whole)

end Printout

namespace Command

/-- How a command ends: its code, what it printed, and the tree after it. -/
structure Outcome where
  code : Nat
  lines : List String
  tree : Folder

/-- A project that no assistant helps with. -/
abbrev PlainProject := Project Unit

/-- The project of a folder, with the settings that are stored there. -/
def openProject (tree : Folder) (root : List String) : Option PlainProject :=
  -- Settings that cannot be read leave no project.
  match Settings.load (tree.bytesAt? (root ++ [Settings.fileName])) [] with
  | .error _ => none
  | .ok (settings, _) => some
    { indexer := ⟨settings, Registry.known, some StructuralParser.bare⟩
      -- There is no assistant, so its time limit plays no part.
      advisor := ⟨Capability.ofValue none, (), some settings.llmInitTimeout⟩
      root := some root }

/-- The project of a folder with its stored snapshot, built if there is none,
and the tree after that. -/
def openBuilt (tree : Folder) (root : List String) : Folder × Option PlainProject :=
  match openProject tree root with
  | none => (tree, none)
  | some project =>
    -- Where loading fails nothing is built.
    match project.load tree root with
    | (.error _, _) => (tree, none)
    | (.ok true, project) => (tree, some project)
    | (.ok false, project) =>
      -- A build that fails may have made folders all the same.
      match project.build tree root false true with
      | (.ok (), tree, project) => (tree, some project)
      | (.error _, tree, _) => (tree, none)

/-- Where a folder was said to be, and the folder itself. -/
structure Root where
  said : String
  place : List String

/-- The folder that a path leads to, seen from another folder. -/
def Root.find (tree : Folder) (here : List String) (path : String) : Root :=
  -- A folder that cannot be located is taken as it was said.
  let said := pathFrom here path
  ⟨path, (tree.locate said).toOption.getD said⟩

/-- Whether a path leads to a folder, seen from another folder. -/
def isFolder (tree : Folder) (here : List String) (path : String) : Bool :=
  -- An empty path leads nowhere.
  !path.isEmpty && match tree.hasFolder (pathFrom here path) with
    | .ok found => found
    | .error _ => false

/-- The path of the stored snapshot as it is shown: seen from where the folder was said to be. -/
def shownCache (settings : Settings) (root : Root) : String :=
  -- An absolute part hides those in front of it.
  let start :=
    if [root.said, settings.cacheDir, settings.cacheFile].any (·.startsWith "/") then "/" else ""
  start ++ joinPath (Project.cachePath settings (pathParts root.said))

/-- What a build prints. -/
def buildReport (project : PlainProject) (root : Root) : List Printout :=
  let stats := (project.snapshot.getD {}).stats
  let number := fun (value : Int) => toString value
  -- Without a structural parser the text says how symbols were found.
  let suffix := if stats.usingStructural == some true then "" else " [dim](regex extraction)[/dim]"
  let counts := "[green]Indexed[/green] " ++ number stats.totalFiles ++ " files: " ++
    number stats.totalSymbols ++ " symbols, " ++ number stats.totalReferences ++ " references" ++
    suffix
  -- What has changed is known after a refresh only.
  let changed := project.changes.toList.map fun changes =>
    .marked ("  " ++ number changes.updated.length ++ " updated, " ++
      number changes.added.length ++ " added, " ++
      number changes.removed.length ++ " removed, " ++ number changes.unchanged ++ " unchanged")
  [.marked counts] ++ changed ++ [.marked ("  cache: " ++ shownCache project.indexer.settings root)]

/-- What a search prints. -/
def searchReport (topic : String) (symbols : List Symbol) : List Printout :=
  -- The topic is shown in quotes, with escapes for what cannot be printed.
  if symbols.isEmpty then [.marked ("[yellow]No symbols match[/yellow] " ++ quoted topic)]
  else
    let columns : List Column := [{ header := "Name".toList }, { header := "Kind".toList },
      { header := "Location".toList }, { header := "Exported".toList, side := .center }]
    [.table ("Symbols for " ++ quoted topic) columns (symbols.map fun symbol =>
      [symbol.name, symbol.kind, symbol.location, if symbol.exported then "✓" else ""])]

/-- What an overview prints, the kinds with most symbols first. -/
def overviewReport (summary : CatalogSummary) : List Printout :=
  let number := fun (value : Nat) => toString value
  let counts :=
    "[bold]" ++ number summary.totalFiles ++ "[/bold] files, [bold]" ++
      number summary.totalSymbols ++ "[/bold] symbols (" ++
      number summary.exportedSymbols ++ " exported), [bold]" ++
      number summary.totalReferences ++ "[/bold] references"
  -- The sort is stable.
  let kinds := summary.byKind.mergeSort fun a b => a.2 ≥ b.2
  [.marked counts,
    .table "Symbols by kind"
      [{ header := "Kind".toList }, { header := "Count".toList, side := .right }]
      (kinds.map fun (kind, count) => [kind, number count])]

/-- What a graph prints. -/
def graphReport (graph : DependencyGraph) (asJson : Bool) : List Printout :=
  if asJson then
    -- The record is printed as it is, in lines that are not folded.
    [.lines ((splitAtChar '\n' (graph.toJson.render JsonStyle.report).toList).map String.ofList)]
  else
    let edges :=
      graph.edges.map fun edge => .marked (edge.source ++ " [dim]->[/dim] " ++ edge.target ++
        " [dim](" ++ edge.type ++ ")[/dim]")
    edges ++ [.marked ("[dim]" ++ toString graph.nodes.length ++ " files, " ++
      toString graph.edges.length ++ " edges[/dim]")]

/-- What a question to a project prints, and the tree after it; nothing when it fails. -/
def inquire (tree : Folder) (root : Root)
    (question : PlainProject → Except ProjectFault (List Printout)) :
    Folder × Option (List Printout) :=
  -- The tree may have changed by the build, also where the question then fails.
  let (tree, project) := openBuilt tree root.place
  (tree, project.bind fun project => (question project).toOption)

/-- What the removal of a stored snapshot prints, and the tree after it; nothing when it fails. -/
def carryOutClear (tree : Folder) (root : Root) : Folder × Option (List Printout) :=
  match openProject tree root.place with
  | none => (tree, none)
  | some project =>
    -- What is removed is looked for first, only to say whether there is anything.
    let settings := project.indexer.settings
    match tree.isThere (Project.cachePath settings root.place) with
    | .error _ => (tree, none)
    | .ok false => (tree, some [.marked "[yellow]Nothing to clear[/yellow]"])
    | .ok true =>
      match project.clear tree root.place with
      | (.error _, tree, _) => (tree, none)
      | (.ok (), tree, _) =>
        (tree, some [.marked ("[green]✓[/green] Removed " ++ shownCache settings root)])

/-- What a build prints, and the tree after it; nothing when it fails. -/
def carryOutBuild (tree : Folder) (root : Root) (force incremental : Bool) :
    Folder × Option (List Printout) :=
  match openProject tree root.place with
  | none => (tree, none)
  | some project =>
    -- A build that fails may have changed the tree all the same.
    match project.build tree root.place force incremental with
    | (.error _, tree, _) => (tree, none)
    | (.ok (), tree, project) => (tree, some (buildReport project root))

/-- What a command that is given in a folder prints, and the tree after it;
nothing when it fails. -/
def carryOut (tree : Folder) (here : List String) (command : Command) :
    Folder × Option (List Printout) :=
  match command with
  | .help lines => (tree, some [.lines lines])
  | .build path force incremental => carryOutBuild tree (Root.find tree here path) force incremental
  | .search topic path kinds limit assisted =>
    inquire tree (Root.find tree here path) fun project =>
      -- The assistant is missing, so the search with it ends like the one without.
      let found := if assisted
        then (project.consult fun catalog advisor =>
          catalog.semanticSearch advisor topic limit kinds).1
        else project.ask fun catalog => catalog.relevant topic limit kinds
      found.map (searchReport topic)
  | .overview path =>
    inquire tree (Root.find tree here path) fun project =>
      (project.ask Catalog.summary).map overviewReport
  | .graph path asJson =>
    inquire tree (Root.find tree here path) fun project =>
      (project.ask Catalog.dependencyGraph).map (graphReport · asJson)
  | .clear path => carryOutClear tree (Root.find tree here path)

/-- Runs the program in a folder of a tree: code 0 when all is done, 1 when it fails, 2 for wrong
arguments. -/
def run (tree : Folder) (here : List String) (arguments : List String) : Outcome :=
  match parse (isFolder tree here) arguments with
  | .error fault => ⟨2, [fault.message], tree⟩
  | .ok command =>
    match carryOut tree here command with
    | (after, none) => ⟨1, [], after⟩
    | (after, some printouts) =>
      -- Wrong marks in a text are only noticed when it is printed.
      let (lines, whole) := Printout.renderAll printouts
      ⟨if whole then 0 else 1, lines, after⟩

end Command

end SourceAtlas
