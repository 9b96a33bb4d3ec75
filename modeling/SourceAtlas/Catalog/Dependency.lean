import SourceAtlas.Catalog.Basic
import SourceAtlas.Path

/-! Which files import which, and where symbols are called. -/

namespace SourceAtlas

namespace Reference

/-- The types of references that import something. -/
def importTypes : List String :=
  ["require", "importDeclaration", "dynamicImport", "importStatement", "fromImport", "singleImport",
    "useStatement", "externCrate", "requireStatement", "includeDirective", "usingDirective",
    "aliasDirective", "sourceCommand", "cssImport", "scriptSource", "linkHref"]

/-- The types of references that call something. -/
def callTypes : List String :=
  ["functionCall", "methodCall", "constructorCall", "macroInvocation"]

/-- Whether a reference is an import. -/
def isImport (reference : Reference) : Bool :=
  importTypes.contains reference.type

/-- The name of the module that a reference asks for; empty when it has none. -/
def moduleName (reference : Reference) : List Char :=
  (reference.module.getD "").toList

/-- The path that a relative import stands for. -/
def relativePath? (reference : Reference) : Option (List Char) :=
  relativeTarget? reference.file.toList reference.moduleName

/-- Whether an import seems to mean the file with a path: a relative one leads to it, any
other ends in its name. -/
def means (reference : Reference) (target : List Char) : Bool :=
  match reference.relativePath? with
  -- Both are normal paths without an extension.
  | some path => path == target
  | none =>
    -- A module from elsewhere may bear the same name by chance.
    let name := Path.baseName target
    reference.moduleName == name || endsWith ('/' :: name) reference.moduleName

end Reference

/-- An import that leads from one file of a project to another. -/
structure DependencyEdge where
  source : String
  target : String
  type : String

/-- The files of a project and the relative imports between them. -/
structure DependencyGraph where
  nodes : List String
  edges : List DependencyEdge

/-- A call of a symbol, with the line where it stands. -/
structure CallSite where
  call : Reference
  symbolId : String

/-- The fields of a call site. -/
def CallSite.fields (site : CallSite) : Assoc Json :=
  -- A field that the call has already keeps its place.
  let place := "Called in " ++ site.call.file ++ ":" ++ String.ofList (Json.intChars site.call.line)
  (site.call.fields.put "symbol_id" (.str site.symbolId)).put "context" (.str place)

/-- A call site as a record. -/
def CallSite.toJson (site : CallSite) : Json :=
  .obj site.fields

namespace Catalog

/-- The imports in a file. -/
def dependenciesOf (catalog : Catalog) (file : String) : List Reference :=
  catalog.references.filter fun reference => reference.file == slashed file && reference.isImport

/-- The imports in other files that seem to mean a file. -/
def dependentsOf (catalog : Catalog) (file : String) : List Reference :=
  -- An import names a file without its extension, so the extension is left out here as well.
  let target := Path.withoutExtension (slashed file).toList
  -- A file that imports itself is not among them.
  catalog.references.filter fun reference =>
    reference.isImport && reference.file != slashed file && reference.means target

/-- The calls of something with the name of a symbol. -/
def callsOf (catalog : Catalog) (id : String) : List CallSite :=
  -- Only the name of the symbol counts, wherever it is declared.
  match catalog.find? id with
  | none => []
  | some symbol =>
    (catalog.references.filter fun reference =>
      Reference.callTypes.contains reference.type &&
        reference.func == some symbol.name).map (⟨·, id⟩)

/-- The names that the file of a folder may have. -/
def folderFiles : List (List Char) :=
  ["/index".toList, "/__init__".toList]

/-- Whether a file is what a path stands for: itself, without its extension, or
as the file of a folder. -/
def isTarget (path : List Char) (file : String) : Bool :=
  -- The path may be written with its extension or without one.
  file.toList == path ||
    (path :: folderFiles.map (path ++ ·)).contains (Path.withoutExtension file.toList)

/-- The first of some files that an import leads to. -/
def targetOf? (files : List String) (reference : Reference) : Option String := do
  -- Only relative imports lead to files of the project, and the first that fits is taken.
  let path ← reference.relativePath?
  files.find? (isTarget path)

/-- The relative imports between the files that have symbols. -/
def dependencyGraph (catalog : Catalog) : DependencyGraph where
  nodes := catalog.files
  -- A file without symbols is neither a node nor a target, but may be a source.
  edges := (catalog.references.filter Reference.isImport).filterMap fun reference =>
    (targetOf? catalog.files reference).map (⟨reference.file, ·, reference.type⟩)

end Catalog

end SourceAtlas
