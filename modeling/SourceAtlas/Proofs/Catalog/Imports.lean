import SourceAtlas.Proofs.Catalog.Dependents
import SourceAtlas.Proofs.Dependency.Places

/-! Imports of files and of folders: the module that names a file from another file leads there,
and a module that denotes a folder leads to the file that stands for it, unless the folder is
the top of the project. -/

namespace SourceAtlas

/-! ## The module that names a file -/

/-- What two lists hold after their longest common beginning. -/
def afterCommon : List (List Char) → List (List Char) → List (List Char) × List (List Char)
  | name :: names, other :: others =>
    if name = other then afterCommon names others else (name :: names, other :: others)
  | names, others => (names, others)

/-- The module that names one file in another: steps up to the folder where the ways to the two
files part, or a step on the spot where the file asked for lies in the folder of the other one or
below, and then the names down to the file, without its extension. -/
def relativeModule (source target : List Char) : List Char :=
  let (up, down) := afterCommon (Path.foldersOf source) (Path.foldersOf target)
  steppedModule (up.length + 1) (down ++ [Path.stemOfName (Path.baseName target)])

example : relativeModule "src/a.js".toList "src/lib/b.min.js".toList = "./lib/b.min".toList ∧
    relativeModule "src/app/a.js".toList "src/b.js".toList = "../b".toList ∧
    relativeModule "src/app/a.js".toList "lib/x/.env".toList = "../../lib/x/.env".toList := by
  decide

/-- Two lists share a beginning, and go on with what is left after it. -/
private theorem exists_common (names others : List (List Char)) :
    ∃ common, names = common ++ (afterCommon names others).1 ∧
    others = common ++ (afterCommon names others).2 := by
  -- Equal names go to the common beginning, and the first difference ends it.
  fun_induction afterCommon names others with
  | case1 names name others ih =>
    obtain ⟨common, isNames, isOthers⟩ := ih
    exact ⟨name :: common, congrArg (name :: ·) isNames, congrArg (name :: ·) isOthers⟩
  | case2 => exact ⟨[], rfl, rfl⟩
  | case3 => exact ⟨[], rfl, rfl⟩

/-- The module that names a file denotes the path of the file without its extension. -/
private theorem relativeTarget?_relativeModule {source target : List Char}
    (plain : Path.IsPlain source) (targetPlain : Path.IsPlain target) :
    relativeTarget? source (relativeModule source target)
      = some (Path.withoutExtension target) := by
  -- The file has a last name, and the folders above it are names too.
  obtain ⟨name, named, whole⟩ := targetPlain.exists_name
  obtain ⟨namedFolders, namedLast⟩ := List.forall_mem_append.mp named
  have isName := namedLast name (by simp)
  have last : Path.baseName target = name := by
    rw [whole, Path.baseName_joinParts isName.free]
  -- The ways to the two files part behind some common folders.
  obtain ⟨common, isFolders, isTargetFolders⟩ :=
    exists_common (Path.foldersOf source) (Path.foldersOf target)
  simp only [relativeModule, last]
  generalize (afterCommon (Path.foldersOf source) (Path.foldersOf target)).1 = up at *
  generalize (afterCommon (Path.foldersOf source) (Path.foldersOf target)).2 = down at *
  -- What lies behind the common folders is a way down by names.
  have namedDown : ∀ part ∈ down ++ [Path.stemOfName name], Path.IsName part := by
    rw [isTargetFolders] at namedFolders
    refine List.forall_mem_append.mpr ⟨(List.forall_mem_append.mp namedFolders).2, ?_⟩
    simpa using isName.stemOfName
  have leads : Path.follow (Path.foldersOf source)
      (stepsOfDots (up.length + 1) ++ (down ++ [Path.stemOfName name]))
      = some (common ++ (down ++ [Path.stemOfName name])) := by
    rw [isFolders, follow_stepsOfDots rfl, Path.follow_names namedDown]
  obtain ⟨first, rest, isSteps, isStep, free⟩ := exists_stepsOfDots (up.length + 1) (by omega)
  rw [steppedModule, isSteps, List.cons_append]
  rw [isSteps, List.cons_append] at leads
  have freeAll : ∀ step ∈ rest ++ (down ++ [Path.stemOfName name]), '/' ∉ step :=
    List.forall_mem_append.mpr ⟨free, fun part inside => (namedDown part inside).free⟩
  obtain ⟨denoted, isPlace⟩ := relativeTarget?_of_follow plain isStep freeAll leads
  -- The way down from the common folders is the path of the file without its extension.
  rw [denoted, Path.written_zero fun part inside => (isPlace part inside).isPart, if_neg (by simp),
    whole, Path.withoutExtension_joinParts isName.free, isTargetFolders, List.append_assoc]

namespace Catalog

/-- From every file of a project, the module that names another file denotes the path of
that file without its extension, and all imports of this module in the one file are
dependents of the other. -/
theorem relativeModule_reaches (source target : String) (plain : Path.IsPlain source.toList)
    (targetPlain : Path.IsPlain target.toList) (different : source ≠ target)
    (slashed : '\\' ∉ target.toList) :
    let moduleName := relativeModule source.toList target.toList
    relativeTarget? source.toList moduleName = some (Path.withoutExtension target.toList) ∧
      ∀ catalog : Catalog, ∀ reference ∈ catalog.references, reference.isImport = true →
        reference.file = source →
        reference.module = some (String.ofList moduleName) →
          reference ∈ catalog.dependentsOf target := by
  intro moduleName
  -- What the module denotes does not depend on the catalog.
  have denoted := relativeTarget?_relativeModule plain targetPlain
  refine ⟨denoted, fun catalog reference listed isImport inSource asks => ?_⟩
  have names : reference.relativePath? = some (Path.withoutExtension target.toList) := by
    rw [Reference.relativePath?, inSource, Reference.moduleName, asks, Option.getD_some,
      String.toList_ofList]
    exact denoted
  exact (mem_dependentsOf_iff slashed names).mpr ⟨listed, isImport, inSource ▸ different, rfl⟩

/-- A file beside the way up, with two dots in its name. -/
theorem relativeModule_reaches_aside :
    let reference : Reference := {
      type := "require"
      file := "src/app/main.js"
      line := 1
      module := some "../../lib/util.test" }
    let catalog := ofSnapshot { references := [reference] }
    relativeTarget? "src/app/main.js".toList "../../lib/util.test".toList
      = some "lib/util.test".toList ∧
      reference ∈ catalog.dependentsOf "lib/util.test.ts" := by
  intro reference catalog
  -- The module goes up over two folders and then down, and keeps the first of the two dots.
  have isModule : relativeModule "src/app/main.js".toList "lib/util.test.ts".toList
      = "../../lib/util.test".toList := by
    decide
  have isTarget : Path.withoutExtension "lib/util.test.ts".toList = "lib/util.test".toList := by
    decide
  obtain ⟨denoted, dependent⟩ :=
    relativeModule_reaches "src/app/main.js" "lib/util.test.ts" (by decide) (by decide)
      (by decide) (by decide)
  rw [isModule, isTarget] at denoted
  rw [isModule] at dependent
  exact ⟨denoted, dependent catalog reference (by simp [catalog, ofSnapshot]) (by decide)
    rfl (by decide)⟩

/-! ## The file that stands for a folder -/

/-- The names, without extension, of the files that stand for the folder they lie in. -/
def folderStems : List (List Char) :=
  ["index".toList, "__init__".toList]

/-- A file that stands for a folder: it lies there, under one of the names for
this and an extension. -/
def IsFolderFile (folder : List (List Char)) (file : String) : Prop :=
  ∃ stem ∈ folderStems, ∃ extension : List Char, '.' ∉ extension ∧ '/' ∉ extension ∧
    file.toList = Path.joinParts (folder ++ [stem ++ '.' :: extension])

/-- A file that has a claim to a folder: it has the path of the folder, or has it without its
extension, or has without its extension the path of a file that stands for the folder. -/
def Competes (folder : List (List Char)) (file : String) : Prop :=
  file.toList = Path.joinParts folder ∨ Path.withoutExtension file.toList = Path.joinParts folder ∨
    ∃ stem ∈ folderStems, Path.withoutExtension file.toList = Path.joinParts (folder ++ [stem])

instance (folder : List (List Char)) (file : String) : Decidable (Competes folder file) :=
  inferInstanceAs (Decidable (_ ∨ _ ∨ ∃ stem ∈ folderStems, _))

variable {folder : List (List Char)} {file : String}

/-- Below the top, the files that a folder's path stands for are those with
a claim to the folder. -/
private theorem isTarget_iff_competes (below : folder ≠ []) :
    isTarget (Path.joinParts folder) file = true ↔ Competes folder file := by
  -- The names of the files of a folder are those that are looked for behind its path.
  have stems : folderFiles.map (Path.joinParts folder ++ ·)
      = folderStems.map fun stem => Path.joinParts (folder ++ [stem]) := by
    simp only [folderStems, folderFiles, List.map_cons, List.map_nil]
    rw [Path.joinParts_append below (by simp), Path.joinParts_append below (by simp)]
    rfl
  rw [isTarget, stems, Competes]
  simp only [Bool.or_eq_true, beq_iff_eq, List.contains_eq_mem, decide_eq_true_eq, List.mem_cons,
    List.mem_map, @eq_comm _ (Path.withoutExtension file.toList)]

/-- A file that stands for a folder has a name of such files once its extension is taken off. -/
theorem IsFolderFile.exists_stem (standsFor : IsFolderFile folder file) :
    ∃ stem ∈ folderStems, Path.withoutExtension file.toList
      = Path.joinParts (folder ++ [stem]) := by
  obtain ⟨stem, member, extension, undotted, free, isFile⟩ := standsFor
  -- Both names hold a letter before the dot, and no slash.
  have lettered : ∃ c ∈ stem, c ≠ '.' ∧ '/' ∉ stem := by
    simp only [folderStems, List.mem_cons, List.not_mem_nil, or_false] at member
    rcases member with rfl | rfl
    · exact ⟨'i', by decide⟩
    · exact ⟨'i', by decide⟩
  obtain ⟨c, inside, other, freeStem⟩ := lettered
  have freeName : '/' ∉ stem ++ '.' :: extension := by
    simp [freeStem, free]
  refine ⟨stem, member, ?_⟩
  rw [isFile, Path.withoutExtension_joinParts freeName,
    Path.stemOfName_append inside other undotted]

/-- The path of the top, a dot, does not stand for the file that stands for the top. -/
private theorem isTarget_top (standsFor : IsFolderFile [] file) : isTarget ['.'] file = false := by
  obtain ⟨stem, member, without⟩ := standsFor.exists_stem
  rw [List.nil_append, Path.joinParts_singleton] at without
  -- What is left of the file without its extension is a bare name, with no dot
  -- and no slash in front.
  have apart : ∀ stem ∈ folderStems, stem ∉ ['.'] :: folderFiles.map (['.'] ++ ·) := by decide
  have notDot : file.toList ≠ ['.'] := by
    intro isDot
    rw [isDot] at without
    exact apart stem member (without ▸ by decide)
  rw [isTarget, without]
  simpa [notDot] using apart stem member

/-- A node that alone has a claim to a path is the first one that the path stands for. -/
private theorem find?_of_alone {files : List String} {claims : String → Bool} (node : file ∈ files)
    (own : claims file = true) (alone : ∀ other ∈ files, claims other = true → other = file) :
    files.find? claims = some file := by
  -- The first file with a claim is the only one with a claim.
  cases found : files.find? claims with
  | none => exact absurd own (List.find?_eq_none.mp found file node)
  | some target => rw [alone target (List.mem_of_find?_eq_some found) (List.find?_some found)]

/-- An import that denotes a folder leads to the file that stands for the folder and alone has a
claim to it, exactly when the folder is not the top of the project; the graph then has the edge. -/
theorem folderImport_leads_iff (catalog : Catalog) (folder : List (List Char)) (index : String)
    (standsFor : IsFolderFile folder index) (node : index ∈ catalog.dependencyGraph.nodes)
    (alone : ∀ other ∈ catalog.dependencyGraph.nodes, Competes folder other → other = index)
    (reference : Reference) (listed : reference ∈ catalog.references)
    (isImport : reference.isImport = true) (plain : Path.IsPlain reference.file.toList)
    (denotes : Denotes (Path.foldersOf reference.file.toList) folder reference.moduleName) :
    (targetOf? catalog.dependencyGraph.nodes reference = some index ↔ folder ≠ []) ∧
      (folder ≠ [] → ⟨reference.file, index, reference.type⟩ ∈ catalog.dependencyGraph.edges) := by
  -- The module denotes the folder, and the top is written as a dot.
  obtain ⟨denoted, isPlace⟩ := denotes.relativeTarget?_eq plain
  rw [Path.written_zero fun name inside => (isPlace name inside).isPart] at denoted
  have first : targetOf? catalog.dependencyGraph.nodes reference
      = catalog.dependencyGraph.nodes.find?
        (isTarget (if folder = [] then ['.'] else Path.joinParts folder)) := by
    simp [targetOf?, Reference.relativePath?, denoted]
  have leads : targetOf? catalog.dependencyGraph.nodes reference = some index ↔ folder ≠ [] := by
    rw [first]
    constructor
    · -- The top is written as a dot, which stands for no file in it.
      rintro found rfl
      have stands := List.find?_some found
      rw [if_pos rfl, isTarget_top standsFor] at stands
      cases stands
    · -- Below the top the index file has a claim to the path, and alone has it.
      intro below
      rw [if_neg below]
      refine find?_of_alone node ((isTarget_iff_competes below).mpr
        (.inr (.inr standsFor.exists_stem))) ?_
      exact fun other member claims => alone other member ((isTarget_iff_competes below).mp claims)
  exact ⟨leads, fun below => mem_edges_iff.mpr
    ⟨reference, listed, isImport, index, leads.mpr below, rfl⟩⟩

/-- A folder is imported from a file in it and from one two levels below, by steps and by dots. -/
theorem folderImport_leads_iff_nested :
    let symbol := fun (id name file : String) => Symbol.mk id name "function" file 1 1 false none []
    let inside : Reference :=
      { type := "require", file := "pkg/x.js", line := 1, module := some "./" }
    let below : Reference :=
      { type := "fromImport", file := "pkg/a/b/c.py", line := 2, module := some "..." }
    let catalog := ofSnapshot {
      symbols := [symbol "pkg/x.js:f" "f" "pkg/x.js", symbol "pkg/index.js:g" "g" "pkg/index.js"]
      references := [inside, below] }
    ⟨"pkg/x.js", "pkg/index.js", "require"⟩ ∈ catalog.dependencyGraph.edges ∧
      ⟨"pkg/a/b/c.py", "pkg/index.js", "fromImport"⟩ ∈ catalog.dependencyGraph.edges := by
  intro symbol inside below catalog
  have nodes : catalog.dependencyGraph.nodes = ["pkg/x.js", "pkg/index.js"] := by decide +kernel
  have references : catalog.references = [inside, below] := rfl
  -- The file stands for the folder, and no other file has a claim to it.
  have standsFor : IsFolderFile ["pkg".toList] "pkg/index.js" :=
    ⟨"index".toList, by decide, "js".toList, by decide, by decide, by decide⟩
  have alone : ∀ other ∈ catalog.dependencyGraph.nodes, Competes ["pkg".toList] other →
      other = "pkg/index.js" := by
    rw [nodes]
    decide
  have node : "pkg/index.js" ∈ catalog.dependencyGraph.nodes := by simp [nodes]
  -- From inside, a step on the spot denotes the folder.
  have fromInside : Denotes (Path.foldersOf "pkg/x.js".toList) ["pkg".toList] "./".toList := by
    have folders : Path.foldersOf "pkg/x.js".toList = ["pkg".toList] ++ [] := by decide
    rw [folders]
    exact (denotes_above ["pkg".toList] []).2.1
  -- From two levels below, three dots denote it.
  have fromBelow : Denotes (Path.foldersOf "pkg/a/b/c.py".toList) ["pkg".toList] "...".toList := by
    have folders : Path.foldersOf "pkg/a/b/c.py".toList = ["pkg".toList] ++
        ["a".toList, "b".toList] := by decide
    rw [folders]
    exact (denotes_above ["pkg".toList] ["a".toList, "b".toList]).2.2
  refine ⟨?_, ?_⟩
  · exact (folderImport_leads_iff catalog ["pkg".toList] "pkg/index.js" standsFor node alone inside
      (by simp [references]) (by decide) (by decide) fromInside).2 (by simp)
  · exact (folderImport_leads_iff catalog ["pkg".toList] "pkg/index.js" standsFor node alone below
      (by simp [references]) (by decide) (by decide) fromBelow).2 (by simp)

/-- The top of a project is imported from a file in it and from one below, and the file that stands
for it and alone has a claim to it gets no edge. -/
theorem topImports_without_edge :
    let symbol := fun (id name file : String) => Symbol.mk id name "function" file 1 1 false none []
    let catalog := ofSnapshot {
      symbols := [symbol "app.js:f" "f" "app.js", symbol "index.js:g" "g" "index.js"]
      references := [{ type := "require", file := "app.js", line := 1, module := some "." },
        { type := "require", file := "lib/x.js", line := 1, module := some ".." }] }
    IsFolderFile [] "index.js" ∧ catalog.dependencyGraph.nodes = ["app.js", "index.js"] ∧
      (∀ other ∈ ["app.js", "index.js"], Competes [] other → other = "index.js") ∧
      Denotes (Path.foldersOf "app.js".toList) [] ".".toList ∧
      Denotes (Path.foldersOf "lib/x.js".toList) [] "..".toList ∧
      (catalog.references.all fun reference => reference.isImport) = true ∧
      catalog.dependencyGraph.edges.length = 0 := by
  intro symbol catalog
  -- Both files lie at or below the top, so their modules denote it.
  have fromTop : Path.foldersOf "app.js".toList = [] ++ [] := by decide
  have fromBelow : Path.foldersOf "lib/x.js".toList = [] ++ ["lib".toList] := by decide
  refine ⟨⟨"index".toList, by decide, "js".toList, by decide, by decide, by decide⟩,
    by decide +kernel, by decide, ?_, ?_, by decide +kernel, by decide +kernel⟩
  · rw [fromTop]
    exact (denotes_above [] []).1
  · rw [fromBelow]
    exact (denotes_above [] ["lib".toList]).1

end Catalog

end SourceAtlas
