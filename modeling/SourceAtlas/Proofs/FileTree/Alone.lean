import SourceAtlas.Proofs.FileTree.Naming

/-! Trees that hold a single file. -/

namespace SourceAtlas.Folder

/-- The tree that holds the file at the end of a path of another tree, at the same
path, and nothing else. -/
def alone (tree : Folder) (path : List String) : Folder :=
  match tree.bytesAt? path with
  | some bytes => put path (.file bytes) []
  | none => []

/-- The only leaf of a tree that holds a single file is the file. -/
theorem at?_put_nil_iff {names : List String} (named : names ≠ []) (bytes : ByteArray)
    {place : List String} {entry : Entry} (leaf : entry.isFolder = false) :
    (put names (.file bytes) []).at? place = some entry ↔ place = names ∧ entry = .file bytes := by
  -- The place is followed name by name along the way to the file.
  induction names generalizing place with
  | nil => exact absurd rfl named
  | cons name names ih =>
    cases place with
    | nil =>
      -- The top is a folder, and no file stands at it.
      simp only [at?_nil, Option.some.injEq, List.nil_eq, reduceCtorEq, false_and, iff_false]
      rintro rfl
      simp [Entry.isFolder] at leaf
    | cons first rest =>
      cases names with
      | nil =>
        by_cases same : first = name
        · cases rest with
          | nil => simp [put, Assoc.get?_put, same, eq_comm]
          | cons next rest => simp [put, Assoc.get?_put, same]
        · simp [put, Assoc.get?_put, same]
      | cons next names =>
        by_cases same : first = name
        · simp [put, Assoc.get?_put, same, ih (by simp)]
        · simp [put, Assoc.get?_put, same]

variable {tree : Folder} {path : List String}

/-- A tree with one file is the empty tree with the file put in. -/
theorem alone_eq {bytes : ByteArray} (found : tree.bytesAt? path = some bytes) :
    tree.alone path = put path (.file bytes) [] := by
  simp only [alone, found]

/-- A file that stands alone has the bytes that it had. -/
theorem bytesAt?_alone {bytes : ByteArray} (found : tree.bytesAt? path = some bytes)
    (nonempty : path ≠ []) (named : ∀ name ∈ path, isName name = true) :
    (tree.alone path).bytesAt? path = some bytes := by
  -- The way to the file is made of folders that hold nothing else.
  have standing : (put path (.file bytes) []).at? path = some (.file bytes) :=
    (at?_put_nil_iff nonempty bytes rfl).mpr ⟨rfl, rfl⟩
  rw [alone_eq found]
  exact bytesAt?_eq_some_iff.mpr ⟨path, locate_of_file named standing, standing⟩

/-- A tree with one file under slash-free names is well named. -/
theorem wellNamed_alone (tree : Folder) (free : SlashFree path) :
    (tree.alone path).wellNamed = true := by
  -- Where there is no such file the tree is empty.
  unfold alone
  split
  · exact wellNamed_put (by decide) free rfl
  · decide

end SourceAtlas.Folder
