import SourceAtlas.Proofs.FileTree.Store
import SourceAtlas.Proofs.FileTree.Walk

/-! Well-named trees stay well named when files are stored and removed. -/

namespace SourceAtlas

/-- None of some names has a slash. -/
def SlashFree (names : List String) : Prop :=
  ∀ name ∈ names, '/' ∉ name.toList

/-- Two lists of names without slashes make one. -/
theorem SlashFree.append {names others : List String} (free : SlashFree names)
    (otherFree : SlashFree others) : SlashFree (names ++ others) :=
  List.forall_mem_append.mpr ⟨free, otherFree⟩

/-- The folder of a name without slashes has none either. -/
theorem SlashFree.dropLast {names : List String} (free : SlashFree names) :
    SlashFree names.dropLast :=
  fun name member => free name ((List.dropLast_sublist names).subset member)

/-- Behind the first part no part has a slash. -/
theorem SlashFree.tail {part : String} {rest : List String} (free : SlashFree (part :: rest)) :
    SlashFree rest :=
  (List.forall_mem_cons.mp free).2

/-- One part further along a path the names still have no slashes. -/
theorem SlashFree.next {names rest : List String} {part : String} (free : SlashFree names)
    (partsFree : SlashFree (part :: rest)) : SlashFree (names ++ [part]) :=
  free.append (by simpa [SlashFree] using (List.forall_mem_cons.mp partsFree).1)

/-- The parts of a path have no slashes. -/
theorem slashFree_pathParts (path : String) : SlashFree (pathParts path) := by
  -- Every slash ends a part, so a part never takes one in.
  have cut : ∀ text : List Char, ∀ part ∈ splitAtChar '/' text, '/' ∉ part := by
    intro text
    induction text with
    | nil => simp [splitAtChar]
    | cons c text ih =>
      simp only [splitAtChar, List.foldr_cons] at ih ⊢
      split
      · simpa using ih
      · rename_i other
        have other : '/' ≠ c := Ne.symm (by simpa using other)
        split
        · simpa using other
        · rename_i part others isCut
          rw [isCut] at ih
          simp only [List.forall_mem_cons] at ih ⊢
          exact ⟨by simp [other, ih.1], ih.2⟩
  intro name member
  simp only [pathParts, Path.parts, List.mem_map, List.mem_filter] at member
  obtain ⟨part, ⟨inside, _⟩, rfl⟩ := member
  simpa using cut path.toList part inside

/-- A path seen from a folder has no slashes in its parts. -/
theorem SlashFree.pathFrom {folder : List String} (free : SlashFree folder) (path : String) :
    SlashFree (pathFrom folder path) := by
  -- An absolute path does not go through the folder.
  rw [SourceAtlas.pathFrom]
  split
  · exact slashFree_pathParts path
  · exact free.append (slashFree_pathParts path)

namespace Folder

/-- A well-named entry put into a well-named folder under a slash-free name leaves it well named. -/
theorem wellNamed_put_name {tree : Folder} (wellNamed : tree.wellNamed = true) {name : String}
    {entry : Entry} (free : '/' ∉ name.toList) (inner : entry.wellNamed = true) :
    Folder.wellNamed (Assoc.put tree name entry) = true := by
  -- The new entry has the place of the old one, or a place of its own.
  obtain ⟨distinct, items⟩ := wellNamed_iff.mp wellNamed
  refine wellNamed_iff.mpr ⟨Assoc.nodup_keys_put distinct name entry, fun item member => ?_⟩
  rcases Assoc.mem_put member with old | rfl
  · exact items item old
  · exact ⟨free, inner⟩

/-- A well-named entry put under slash-free names leaves a tree well named. -/
theorem wellNamed_put {tree : Folder} (wellNamed : tree.wellNamed = true) {names : List String}
    {entry : Entry} (free : SlashFree names) (inner : entry.wellNamed = true) :
    (put names entry tree).wellNamed = true := by
  -- A folder on the way is put back with the entry in it.
  induction names generalizing tree with
  | nil => simpa [put] using wellNamed
  | cons name names ih =>
    simp only [SlashFree, List.forall_mem_cons] at free
    cases names with
    | nil => exact wellNamed_put_name wellNamed free.1 inner
    | cons next rest =>
      rw [put]
      refine wellNamed_put_name wellNamed free.1 (ih ?_ free.2)
      -- The folder under the first name was well named, and a new one is empty.
      split
      · rename_i entries found
        exact (@wellNamed_at? tree wellNamed [name] _ (by simpa using found)).1
      · decide
      · simp

/-- Providing folders under slash-free names leaves a tree well named. -/
theorem wellNamed_provide {tree : Folder} (wellNamed : tree.wellNamed = true) {path : List String}
    (free : SlashFree path) : (tree.provide path).2.wellNamed = true := by
  -- Folders are made one by one, and each leaves the tree well named.
  refine provideFrom_induction
    (motive := fun tree after => tree.wellNamed = true → after.wellNamed = true)
    (fun _ => id) (fun _ _ _ first second => second ∘ first) path.reverse ?_ tree wellNamed
  -- A new folder stands in one of the tree, under a name of the path.
  intro tree above name made member makes wellNamed
  obtain ⟨place, ⟨entries, folder⟩, _, rfl⟩ := makeFolder_spec makes
  have last : SlashFree [name] := by simpa [SlashFree] using free name (by simpa using member)
  exact wellNamed_put wellNamed (SlashFree.append (wellNamed_at? wellNamed folder).2 last)
    (by decide)

/-- The parts of the path of a link have no slashes. -/
private theorem slashFree_linkParts (target : String) : SlashFree (linkParts target) := by
  refine (slashFree_pathParts target).append ?_
  -- What may stand at the end of them is empty or a single dot.
  split
  · rename_i last
    simp only [Bool.or_eq_true, beq_iff_eq] at last
    rcases last with isLast | isLast <;> simp [SlashFree, isLast]
  · simp [SlashFree]

/-- The place that slash-free names lead to has slash-free names. -/
private theorem slashFree_resolve {tree : Folder} {make : Bool} {links : Nat}
    {names parts place : List String} (free : SlashFree names) (partsFree : SlashFree parts)
    (found : tree.resolve make links names parts = .ok place) : SlashFree place := by
  -- Every step keeps both the names so far and the parts to come free of slashes.
  refine resolve_induction
    (motive := fun _ names parts place => SlashFree names → SlashFree parts → SlashFree place)
    ?_ ?_ ?_ ?_ ?_ ?_ ?_ found free partsFree
  · intro links names free _
    exact free
  · intro links names part rest place _ ih free partsFree
    exact ih free partsFree.tail
  · intro links names rest place ih free partsFree
    exact ih free.dropLast partsFree.tail
  · intro links names part rest place _ _ _ ih free partsFree
    exact ih (free.next partsFree) partsFree.tail
  · intro links names part _ _ _ free partsFree
    exact free.next partsFree
  · intro links names part rest place target _ _ _ ih free partsFree
    refine ih ?_ ((slashFree_linkParts target).append partsFree.tail)
    unfold linkStart
    split
    · simp [SlashFree]
    · exact free
  · intro links names part _ _ _ _ free partsFree
    exact free.next partsFree

/-- Writing a file under a slash-free path leaves a tree well named. -/
theorem wellNamed_write {tree after : Folder} (wellNamed : tree.wellNamed = true)
    {path : List String} (free : SlashFree path) {bytes : ByteArray}
    (written : tree.write path bytes = .ok after) :
    after.wellNamed = true := by
  unfold write placeFor at written
  cases target : tree.resolve true linkLimit [] path with
  | error fault => simp [target, Except.bind, Except.map] at written
  | ok place =>
    have placeFree := slashFree_resolve (by simp [SlashFree]) free target
    simp only [target, Except.bind] at written
    -- Whatever stood there, the file is put at the place.
    split at written
    · cases written
    · rw [Except.map, Except.ok.injEq] at written
      exact written ▸ wellNamed_put wellNamed placeFree rfl

/-- Removing an entry leaves a tree well named. -/
theorem wellNamed_remove {tree : Folder} (wellNamed : tree.wellNamed = true) (names : List String) :
    -- The folders on the way are put back with the entry gone.
    (remove names tree).wellNamed = true := by
  induction names generalizing tree with
  | nil => simpa [remove] using wellNamed
  | cons name names ih =>
    obtain ⟨distinct, items⟩ := wellNamed_iff.mp wellNamed
    cases names with
    | nil =>
      -- Fewer entries are distinct and well named all the more.
      refine wellNamed_iff.mpr ⟨distinct.sublist (List.filter_sublist.map Prod.fst),
        fun item member => ?_⟩
      exact items item (List.mem_filter.mp member).1
    | cons next rest =>
      rw [remove]
      split
      · rename_i entries found
        obtain ⟨free, inner⟩ := items _ (Assoc.mem_of_get?_eq_some found)
        exact wellNamed_put_name wellNamed free (ih inner)
      · exact wellNamed
      · simp

end Folder

end SourceAtlas
