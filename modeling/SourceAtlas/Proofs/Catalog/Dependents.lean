import SourceAtlas.Catalog.Dependency

/-! Imports looked up from both ends: the edges that lead to a file, and the
imports that seem to mean it. -/

namespace SourceAtlas

/-- An import is written relative to its file. -/
def Reference.isRelative (reference : Reference) : Bool :=
  reference.relativePath?.isSome

namespace Catalog

variable {catalog : Catalog} {file : String} {reference : Reference}

/-- A path without backslashes is read as it is. -/
theorem slashed_eq (plain : '\\' ∉ file.toList) : slashed file = file := by
  -- No character is replaced.
  have same : file.toList.map (fun c => if c == '\\' then '/' else c) = file.toList := by
    refine (List.map_congr_left fun c inside => ?_).trans (List.map_id _)
    have other : c ≠ '\\' := fun isSlash => plain (isSlash ▸ inside)
    simp [other]
  rw [slashed, replaceChar, same, String.ofList_toList]

/-- A relative import is among the dependents of a file iff it stands in another file and for the
path of this one without the extension. -/
theorem mem_dependentsOf_iff (plain : '\\' ∉ file.toList) {path : List Char}
    (relative : reference.relativePath? = some path) :
    reference ∈ catalog.dependentsOf file ↔
      reference ∈ catalog.references ∧ reference.isImport = true ∧
        reference.file ≠ file ∧ path = Path.withoutExtension file.toList := by
  -- For a relative import, meaning a file is standing for its path.
  simp [dependentsOf, slashed_eq plain, Reference.means, relative, and_assoc]

/-- The edges are the imports that lead to a node, each with the first node that it leads to. -/
theorem mem_edges_iff {edge : DependencyEdge} : edge ∈ catalog.dependencyGraph.edges ↔
    ∃ reference ∈ catalog.references, reference.isImport = true ∧
      ∃ target, targetOf? catalog.files reference = some target ∧
        ⟨reference.file, target, reference.type⟩ = edge := by
  -- An import without a target makes no edge.
  simp [dependencyGraph, and_assoc]

/-- The path of a file without its extension stands for the file. -/
private theorem isTarget_withoutExtension (file : String) :
    isTarget (Path.withoutExtension file.toList) file = true := by
  simp [isTarget]

/-- An import that stands for the path of a node without the extension leads to that node, or to an
earlier one that the path stands for too. -/
private theorem targetOf?_of_path {files : List String} (node : file ∈ files)
    (names : reference.relativePath? = some (Path.withoutExtension file.toList)) :
    ∃ target, targetOf? files reference = some target ∧
      (target = file ∨ isTarget (Path.withoutExtension file.toList) target = true ∧
        ∃ front rest, files = front ++ target :: rest ∧ file ∈ rest) := by
  -- The import leads to the first file that its path stands for.
  have isFirst : targetOf? files reference
      = files.find? (isTarget (Path.withoutExtension file.toList)) := by
    simp [targetOf?, names]
  cases found : files.find? (isTarget (Path.withoutExtension file.toList)) with
  | none =>
    rw [List.find?_eq_none] at found
    exact absurd (isTarget_withoutExtension file) (found file node)
  | some target =>
    obtain ⟨stands, front, rest, split, before⟩ := List.find?_eq_some_iff_append.mp found
    refine ⟨target, isFirst.trans found, ?_⟩
    -- The node is not before the first one that the path stands for, so it is
    -- that one or comes later.
    rw [split] at node
    rcases List.mem_append.mp node with early | late
    · have passedOver := before file early
      simp [isTarget_withoutExtension] at passedOver
    · rcases List.mem_cons.mp late with same | later
      · exact .inl same.symm
      · exact .inr ⟨stands, front, rest, split, later⟩

/-- The imports from other files whose edge leads to a file. -/
def importsOf (catalog : Catalog) (file : String) : List Reference :=
  catalog.references.filter fun reference =>
    reference.isImport && reference.file != file && targetOf? catalog.files reference == some file

/-- The dependents of a node and the edges agree up to nodes that share a path. Every import from
another file for the path of the node without the extension is a dependent. Every relative dependent
has an edge: to the node, or to an earlier node that the path stands for too. So where no other node
has a claim to the path and every edge to the node comes from an import for that path, the relative
dependents are the imports whose edge leads to the node. -/
theorem dependentsOf_agrees (catalog : Catalog) (file : String)
    (node : file ∈ catalog.dependencyGraph.nodes) (plain : '\\' ∉ file.toList) :
    let path := Path.withoutExtension file.toList
    let graph := catalog.dependencyGraph
    (∀ reference ∈ catalog.references, reference.isImport = true → reference.file ≠ file →
      reference.relativePath? = some path → reference ∈ catalog.dependentsOf file) ∧
    (∀ reference ∈ catalog.dependentsOf file, reference.isRelative = true →
      ∃ target, targetOf? graph.nodes reference = some target ∧
        ⟨reference.file, target, reference.type⟩ ∈ graph.edges ∧
        (target = file ∨ isTarget path target = true ∧
          ∃ front rest, graph.nodes = front ++ target :: rest ∧ file ∈ rest)) ∧
    ((∀ other ∈ graph.nodes, isTarget path other = true → other = file) →
      (∀ reference ∈ catalog.importsOf file, reference.relativePath? = some path) →
      (catalog.dependentsOf file).filter Reference.isRelative = catalog.importsOf file) := by
  intro path graph
  -- A relative dependent stands for the path.
  have dependent : ∀ reference ∈ catalog.dependentsOf file, reference.isRelative = true →
      reference ∈ catalog.references ∧ reference.isImport = true ∧ reference.file ≠ file ∧
        reference.relativePath? = some path := by
    intro reference member relative
    obtain ⟨own, isOwn⟩ := Option.isSome_iff_exists.mp relative
    obtain ⟨listed, isImport, other, rfl⟩ := (mem_dependentsOf_iff plain isOwn).mp member
    exact ⟨listed, isImport, other, isOwn⟩
  refine ⟨?_, ?_, ?_⟩
  · -- A dependent is found by the path that it stands for.
    intro reference listed isImport other names
    exact (mem_dependentsOf_iff plain names).mpr ⟨listed, isImport, other, rfl⟩
  · -- The edge goes to the first node that the path stands for.
    intro reference member relative
    obtain ⟨listed, isImport, _, names⟩ := dependent reference member relative
    obtain ⟨target, leads, first⟩ := targetOf?_of_path node names
    exact ⟨target, leads, mem_edges_iff.mpr ⟨reference, listed, isImport, target, leads, rfl⟩,
      first⟩
  · intro alone named
    -- Both are made of the same references by tests that agree on each of them.
    rw [dependentsOf, List.filter_filter, importsOf]
    refine List.filter_congr fun reference listed => Bool.eq_iff_iff.mpr
      ⟨fun kept => ?_, fun kept => ?_⟩
    · obtain ⟨relative, meant⟩ := Bool.and_eq_true_iff.mp kept
      obtain ⟨_, isImport, other, names⟩ :=
        dependent reference (List.mem_filter.mpr ⟨listed, meant⟩) relative
      obtain ⟨target, leads, first⟩ := targetOf?_of_path node names
      -- An earlier node that the path stands for would be another one.
      have isFile : target = file := by
        rcases first with same | ⟨stands, front, rest, split, _⟩
        · exact same
        · have isNode : target ∈ graph.nodes := by
            simp only [graph, split, List.mem_append, List.mem_cons, true_or, or_true]
          exact alone target isNode stands
      have leadsHere : targetOf? catalog.files reference = some file := isFile ▸ leads
      simp [isImport, other, leadsHere]
    · -- An edge to the file comes from an import for its path, which the other way finds.
      have names := named reference (List.mem_filter.mpr ⟨listed, kept⟩)
      simp only [Bool.and_eq_true, bne_iff_ne] at kept
      have member := (mem_dependentsOf_iff plain names).mpr ⟨listed, kept.1.1, kept.1.2, rfl⟩
      exact Bool.and_eq_true_iff.mpr
        ⟨by simp [Reference.isRelative, names], (List.mem_filter.mp member).2⟩

/-- Two files and the import of one by the other: both ways find the import. -/
theorem dependentsOf_agrees_pair :
    let symbol := fun (id name file : String) => Symbol.mk id name "function" file 1 1 false none []
    let snapshot : Snapshot := {
      symbols := [symbol "app.js:main" "main" "app.js", symbol "utils.js:f" "f" "utils.js"]
      references := [{ type := "require", file := "app.js", line := 1, module := some "./utils" }] }
    let catalog := ofSnapshot snapshot
    (catalog.dependentsOf "utils.js").filter Reference.isRelative = catalog.importsOf "utils.js" ∧
      (catalog.importsOf "utils.js").map Reference.module = [some "./utils"] := by
  intro symbol snapshot catalog
  have nodes : catalog.dependencyGraph.nodes = ["app.js", "utils.js"] := by decide +kernel
  have found : (catalog.importsOf "utils.js").map Reference.module = [some "./utils"] := by
    decide +kernel
  refine ⟨(dependentsOf_agrees catalog "utils.js" (by simp [nodes]) (by decide)).2.2 ?_ ?_, found⟩
  · rw [nodes]
    decide +kernel
  · decide +kernel

/-- Two files whose paths differ in the extension alone: an import for the path is a dependent
of both of them, and its edge leads to the first one, so the second one has a relative
dependent and no edge. -/
theorem dependentsOf_exceeds_edges :
    let symbol := fun (id name file : String) => Symbol.mk id name "function" file 1 1 false none []
    let snapshot : Snapshot := {
      symbols := [symbol "app.js:main" "main" "app.js", symbol "utils.js:f" "f" "utils.js",
        symbol "utils.ts:g" "g" "utils.ts"]
      references := [{ type := "require", file := "app.js", line := 1, module := some "./utils" }] }
    let catalog := ofSnapshot snapshot
    "utils.ts" ∈ catalog.dependencyGraph.nodes ∧
      (catalog.dependentsOf "utils.ts").map (fun reference =>
        (reference.file, reference.isRelative))
        = [("app.js", true)] ∧
      catalog.dependencyGraph.edges.map (fun edge => (edge.source, edge.target))
        = [("app.js", "utils.js")] ∧
      catalog.importsOf "utils.ts" = [] := by
  decide +kernel

/-- An import that leads to a node is missed among its dependents iff it stands for another
path than that of the node without the extension: for the whole path, or for the folder
whose file the node is. -/
theorem missed_iff_of_mem_importsOf (plain : '\\' ∉ file.toList)
    (leads : reference ∈ catalog.importsOf file) :
    reference ∉ catalog.dependentsOf file ↔
      ∃ path, reference.relativePath? = some path ∧ path ≠ Path.withoutExtension file.toList ∧
        (path = file.toList ∨ ∃ name ∈ folderFiles,
          path ++ name = Path.withoutExtension file.toList) := by
  -- The import is relative, and the node is the first one that its path stands for.
  simp only [importsOf, List.mem_filter, Bool.and_eq_true, bne_iff_ne, beq_iff_eq] at leads
  obtain ⟨listed, ⟨isImport, other⟩, found⟩ := leads
  obtain ⟨path, relative, first⟩ := Option.bind_eq_some_iff.mp found
  have stands : isTarget path file = true := List.find?_some first
  simp only [isTarget, List.contains_eq_mem, List.mem_cons, List.mem_map, Bool.or_eq_true,
    beq_iff_eq, decide_eq_true_eq] at stands
  rw [mem_dependentsOf_iff plain relative]
  constructor
  · intro missed
    have another : path ≠ Path.withoutExtension file.toList :=
      fun same => missed ⟨listed, isImport, other, same⟩
    refine ⟨path, relative, another, ?_⟩
    rcases stands with whole | same | ⟨name, isName, same⟩
    · exact .inl whole.symm
    · exact absurd same.symm another
    · exact .inr ⟨name, isName, same⟩
  · rintro ⟨otherPath, isOther, another, -⟩ ⟨-, -, -, same⟩
    exact another (Option.some.inj (isOther.symm.trans relative) ▸ same)

/-- An import that writes the extension and an import of a folder: both have an edge, and neither is
found among the dependents of the file that the edge leads to. -/
theorem dependentsOf_misses_edges :
    let symbol := fun (id name file : String) => Symbol.mk id name "function" file 1 1 false none []
    let snapshot : Snapshot := {
      symbols := [symbol "app.js:main" "main" "app.js", symbol "utils.js:f" "f" "utils.js",
        symbol "lib/index.js:g" "g" "lib/index.js"]
      references :=
        [{ type := "require", file := "app.js", line := 1, module := some "./utils.js" },
        { type := "require", file := "app.js", line := 2, module := some "./lib" }] }
    let catalog := ofSnapshot snapshot
    catalog.dependencyGraph.edges.map (fun edge => (edge.source, edge.target))
        = [("app.js", "utils.js"), ("app.js", "lib/index.js")] ∧
      (catalog.importsOf "utils.js").map Reference.module = [some "./utils.js"] ∧
      catalog.dependentsOf "utils.js" = [] ∧
      (catalog.importsOf "lib/index.js").map Reference.module = [some "./lib"] ∧
      catalog.dependentsOf "lib/index.js" = [] := by
  decide +kernel

end Catalog

end SourceAtlas
