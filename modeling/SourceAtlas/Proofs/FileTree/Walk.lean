import SourceAtlas.Proofs.FileTree.Places
import SourceAtlas.Proofs.Text.Joining

/-! The walk over a file tree: which leaves it meets, each of them once and in order. -/

namespace SourceAtlas

/-- Induction over entries in which every entry of a folder may be assumed. -/
theorem Entry.induction {motive : Entry → Prop} (file : ∀ bytes, motive (.file bytes))
    (link : ∀ target, motive (.link target))
    (folder : ∀ entries : Folder, (∀ item ∈ entries, motive item.2) → motive (.folder entries))
    (entry : Entry) : motive entry :=
  -- The generated recursor goes over entries, lists of them and named entries at once.
  @Entry.rec motive (fun entries => ∀ item ∈ entries, motive item.2) (fun item => motive item.2)
    file link folder (by simp) (by simp_all) (by simp) entry

mutual

/-- The names in every folder of an entry are distinct and without slashes. -/
def Entry.wellNamed : Entry → Bool
  | .folder entries => decide (Assoc.keys entries).Nodup && Folder.allWellNamed entries
  | .file _ => true
  | .link _ => true

/-- The names of some entries have no slashes, and the entries are well named. -/
def Folder.allWellNamed : List (String × Entry) → Bool
  | [] => true
  | (name, entry) :: entries =>
    !name.toList.contains '/' && entry.wellNamed && Folder.allWellNamed entries

end

/-- The names in every folder of a tree are distinct and without slashes. -/
def Folder.wellNamed (tree : Folder) : Bool :=
  (Entry.folder tree).wellNamed

namespace Folder

/-- A tree is well named when its names are distinct and free, and its entries are well named. -/
theorem wellNamed_iff {tree : Folder} : tree.wellNamed = true ↔
    (Assoc.keys tree).Nodup ∧ ∀ item ∈ tree, '/' ∉ item.1.toList ∧ item.2.wellNamed = true := by
  -- The two definitions go over a list of entries and an entry in turn, so the list comes first.
  have all : ∀ entries : List (String × Entry), allWellNamed entries = true ↔
      ∀ item ∈ entries, '/' ∉ item.1.toList ∧ item.2.wellNamed = true := by
    intro entries
    induction entries with
    | nil => simp [allWellNamed]
    | cons item entries ih => simp [allWellNamed, ih]
  simp [wellNamed, Entry.wellNamed, all]

/-- The leaves of a folder, grouped by name. -/
theorem leafGroups_eq_map (skip : String → Bool) (entries : List (String × Entry)) :
    leafGroups skip entries = entries.map fun item => (item.1, item.2.leaves skip item.1) := by
  -- One group for each entry.
  induction entries with
  | nil => simp [leafGroups]
  | cons item entries ih => simp [leafGroups, ih]

/-- The leaves of a folder are those of its entries. -/
theorem mem_leaves {skip : String → Bool} {tree : Folder} {leaf : Leaf} :
    leaf ∈ tree.leaves skip ↔ ∃ item ∈ tree, leaf ∈ item.2.leaves skip item.1 := by
  -- Sorting the groups keeps their members.
  simp only [leaves, leafGroups_eq_map, List.mem_flatMap, List.mem_mergeSort, List.mem_map]
  constructor
  · rintro ⟨_, ⟨item, member, rfl⟩, inside⟩
    exact ⟨item, member, inside⟩
  · rintro ⟨item, member, inside⟩
    exact ⟨_, ⟨item, member, rfl⟩, inside⟩

end Folder

/-- The leaves below a name are those of its folder, unless the name is skipped. -/
theorem Entry.leaves_folder (skip : String → Bool) (name : String) (entries : Folder) :
    (Entry.folder entries).leaves skip name
      = if skip name then []
        else (Folder.leaves skip entries).map fun leaf => (name :: leaf.1, leaf.2) := by
  -- The walk over a folder is the one over its groups.
  simp [Entry.leaves, Folder.leaves]

/-- A file or link at the end of some names, none of which but the last may be skipped. -/
def Folder.HasLeaf (skip : String → Bool) (tree : Folder) (leaf : Leaf) : Prop :=
  tree.at? leaf.1 = some leaf.2 ∧ leaf.2.isFolder = false ∧
    ∀ name ∈ leaf.1.dropLast, skip name = false

namespace Folder

/-- When the walk below each name finds the leaves of its entry, the walk finds
the leaves of the folder. -/
theorem mem_leaves_iff_of_items {skip : String → Bool} {tree : Folder}
    (distinct : (Assoc.keys tree).Nodup)
    (items : ∀ item ∈ tree, ∀ path leaf, (path, leaf) ∈ item.2.leaves skip item.1 ↔
      ∃ rest, path = item.1 :: rest ∧ item.2.at? rest = some leaf ∧ leaf.isFolder = false ∧
        ∀ name ∈ path.dropLast, skip name = false) (path : List String) (leaf : Entry) :
    (path, leaf) ∈ tree.leaves skip ↔ tree.HasLeaf skip (path, leaf) := by
  -- A leaf of the walk comes from the entry of its first name, and names are distinct.
  rw [mem_leaves]
  constructor
  · rintro ⟨⟨name, entry⟩, member, inside⟩
    obtain ⟨rest, rfl, found, isLeaf, passed⟩ := (items _ member path leaf).mp inside
    exact ⟨by simp [Assoc.get?_of_mem distinct member, found], isLeaf, passed⟩
  · rintro ⟨found, isLeaf, passed⟩
    -- The folder itself is no leaf, so there is a first name, and its entry leads on.
    cases path with
    | nil =>
      simp only [at?_nil, Option.some.injEq] at found
      simp [← found, Entry.isFolder] at isLeaf
    | cons name rest =>
      rw [at?_cons] at found
      obtain ⟨entry, isEntry, found⟩ := Option.bind_eq_some_iff.mp found
      have member := Assoc.mem_of_get?_eq_some isEntry
      exact ⟨_, member, (items _ member _ _).mpr ⟨rest, rfl, found, isLeaf, passed⟩⟩

end Folder

/-- The walk below the name of a leaf finds the leaf alone. -/
theorem Entry.mem_leaves_iff_of_leaf (skip : String → Bool) {entry : Entry}
    (isLeaf : entry.isFolder = false) (name : String) (path : List String) (leaf : Entry) :
    (path, leaf) ∈ entry.leaves skip name ↔
      ∃ rest, path = name :: rest ∧ entry.at? rest = some leaf ∧ leaf.isFolder = false ∧
        ∀ other ∈ path.dropLast, skip other = false := by
  -- A leaf is walked alone.
  have single : entry.leaves skip name = [([name], entry)] := by
    cases entry with
    | folder entries => simp [Entry.isFolder] at isLeaf
    | _ => simp [Entry.leaves]
  simp only [single, List.mem_singleton, Prod.mk.injEq]
  constructor
  · rintro ⟨rfl, rfl⟩
    exact ⟨[], rfl, Entry.at?_nil leaf, isLeaf, by simp⟩
  · rintro ⟨rest, rfl, found, _, _⟩
    cases rest with
    | nil =>
      obtain rfl : entry = leaf := by simpa using found
      exact ⟨rfl, rfl⟩
    | cons next rest => simp [Entry.at?_cons_of_leaf isLeaf] at found

/-- The walk below a name finds the leaves of its entry. -/
theorem Entry.mem_leaves_iff (skip : String → Bool) {entry : Entry}
    (wellNamed : entry.wellNamed = true) :
    ∀ name path leaf, (path, leaf) ∈ entry.leaves skip name ↔
      ∃ rest, path = name :: rest ∧ entry.at? rest = some leaf ∧ leaf.isFolder = false ∧
        ∀ other ∈ path.dropLast, skip other = false := by
  -- The induction is over the entry, and in a folder over all its entries.
  induction entry using Entry.induction with
  | file bytes => exact Entry.mem_leaves_iff_of_leaf skip rfl
  | link target => exact Entry.mem_leaves_iff_of_leaf skip rfl
  | folder entries ih =>
    intro name path leaf
    obtain ⟨distinct, items⟩ := Folder.wellNamed_iff.mp wellNamed
    have inner := Folder.mem_leaves_iff_of_items distinct
      fun item member => ih item member (items item member).2 item.1
    rw [Entry.leaves_folder]
    constructor
    · intro member
      split at member
      · simp at member
      · rename_i kept
        obtain ⟨⟨rest, _⟩, inside, same⟩ := List.mem_map.mp member
        cases same
        obtain ⟨found, isLeaf, passed⟩ := (inner _ _).mp inside
        refine ⟨rest, rfl, found, isLeaf, fun other listed => ?_⟩
        -- The names that are passed are that of the folder and those passed inside.
        cases rest with
        | nil => simp at listed
        | cons first rest =>
          rcases List.mem_cons.mp (by simpa using listed) with rfl | later
          · simpa using kept
          · exact passed other later
    · rintro ⟨rest, rfl, found, isLeaf, passed⟩
      -- A folder is no leaf, so the name of the folder is one of those that are passed.
      cases rest with
      | nil =>
        simp only [Entry.at?_nil, Option.some.injEq] at found
        simp [← found, Entry.isFolder] at isLeaf
      | cons first rest =>
        have kept : skip name = false := passed name (by simp)
        rw [if_neg (by simp [kept])]
        refine List.mem_map.mpr ⟨(first :: rest, leaf), (inner _ _).mpr ⟨found, isLeaf, ?_⟩, rfl⟩
        exact fun other listed => passed other (by simp [List.dropLast_cons_of_ne_nil, listed])

/-- The walk finds exactly the leaves of the tree. -/
theorem Folder.mem_leaves_iff (skip : String → Bool) {tree : Folder}
    (wellNamed : tree.wellNamed = true) (leaf : Leaf) :
    leaf ∈ tree.leaves skip ↔ tree.HasLeaf skip leaf := by
  -- The top is no entry, so its names are looked at here once more.
  obtain ⟨distinct, items⟩ := Folder.wellNamed_iff.mp wellNamed
  exact Folder.mem_leaves_iff_of_items distinct
    (fun item member => Entry.mem_leaves_iff skip (items item member).2 item.1) leaf.1 leaf.2

namespace Folder

/-- The groups of a folder stand in strict order of their names. -/
private theorem strict_leafGroups (skip : String → Bool) {tree : Folder}
    (distinct : (Assoc.keys tree).Nodup) :
    ((leafGroups skip tree).mergeSort fun a b => decide (a.1 ≤ b.1)).Pairwise
      fun a b => a.1 < b.1 := by
  -- Sorting puts the groups in order, and their names are still distinct.
  have sorted := @List.pairwise_mergeSort _ (fun a b : String × List Leaf => decide (a.1 ≤ b.1))
    (fun a b c first second => by
      simp only [decide_eq_true_eq] at *; exact String.le_trans first second)
    (fun a b => by simpa using String.le_total a.1 b.1) (leafGroups skip tree)
  have names : (((leafGroups skip tree).mergeSort fun a b => decide (a.1 ≤ b.1)).map
      Prod.fst).Nodup := by
    refine ((List.mergeSort_perm _ _).map Prod.fst).nodup_iff.mpr ?_
    simpa [leafGroups_eq_map, Assoc.keys, Function.comp_def] using distinct
  -- Sorted names that are distinct are strictly increasing.
  rw [List.Nodup, List.pairwise_map] at names
  refine sorted.imp₂ (fun a b le differs => ?_) names
  exact String.not_le.mp fun ge => differs (String.le_antisymm (by simpa using le) ge)

/-- When the walk below each name is in order, the walk over the folder is in order. -/
private theorem pairwise_leaves_of_items {skip : String → Bool} {tree : Folder}
    (distinct : (Assoc.keys tree).Nodup)
    (starts : ∀ item ∈ tree, ∀ leaf ∈ item.2.leaves skip item.1, ∃ rest, leaf.1 = item.1 :: rest)
    (items : ∀ item ∈ tree, ((item.2.leaves skip item.1).map Prod.fst).Pairwise (· < ·)) :
    ((tree.leaves skip).map Prod.fst).Pairwise (· < ·) := by
  -- A group comes from an entry of the folder.
  have groups : ∀ group ∈ (leafGroups skip tree).mergeSort fun a b => decide (a.1 ≤ b.1),
      ∃ item ∈ tree, group = (item.1, item.2.leaves skip item.1) := by
    intro group member
    rw [List.mem_mergeSort, leafGroups_eq_map] at member
    obtain ⟨item, inside, rfl⟩ := List.mem_map.mp member
    exact ⟨item, inside, rfl⟩
  rw [leaves, List.pairwise_map, List.pairwise_flatMap]
  refine ⟨fun group member => ?_, ?_⟩
  · obtain ⟨item, inside, rfl⟩ := groups group member
    exact List.pairwise_map.mp (items item inside)
  · -- Leaves of different groups differ in their first name already.
    refine (strict_leafGroups skip distinct).imp_of_mem
      fun {a b} memberA memberB less x inA y inB => ?_
    obtain ⟨itemA, insideA, rfl⟩ := groups a memberA
    obtain ⟨itemB, insideB, rfl⟩ := groups b memberB
    obtain ⟨restA, startA⟩ := starts itemA insideA x inA
    obtain ⟨restB, startB⟩ := starts itemB insideB y inB
    rw [startA, startB]
    exact List.cons_lt_cons_iff.mpr (.inl less)

end Folder

/-- Every leaf below a name starts with the name. -/
theorem Entry.leaves_start (skip : String → Bool) (entry : Entry) (name : String) :
    ∀ leaf ∈ entry.leaves skip name, ∃ rest, leaf.1 = name :: rest := by
  -- A folder puts its name before the leaves inside, and a leaf stands under its name.
  intro leaf member
  cases entry with
  | folder entries =>
    rw [Entry.leaves_folder] at member
    split at member
    · simp at member
    · obtain ⟨inner, _, rfl⟩ := List.mem_map.mp member
      exact ⟨inner.1, rfl⟩
  | _ =>
    simp only [Entry.leaves, List.mem_singleton] at member
    exact ⟨[], by rw [member]⟩

/-- The walk below a name is in order. -/
theorem Entry.pairwise_leaves (skip : String → Bool) {entry : Entry}
    (wellNamed : entry.wellNamed = true) :
    ∀ name, ((entry.leaves skip name).map Prod.fst).Pairwise (· < ·) := by
  -- The induction is over the entry, and in a folder over all its entries.
  induction entry using Entry.induction with
  | file bytes => simp [Entry.leaves]
  | link target => simp [Entry.leaves]
  | folder entries ih =>
    intro name
    obtain ⟨distinct, items⟩ := Folder.wellNamed_iff.mp wellNamed
    have inner :=
      Folder.pairwise_leaves_of_items distinct (fun item _ => item.2.leaves_start skip item.1)
        fun item member => ih item member (items item member).2 item.1
    rw [Entry.leaves_folder]
    split
    · simp
    · -- The same name in front of all keeps the order.
      simp only [List.map_map, List.pairwise_map, Function.comp_def] at inner ⊢
      exact inner.imp fun less => List.cons_lt_cons_iff.mpr (.inr ⟨rfl, less⟩)

/-- The walk meets the leaves in the order of their names. -/
theorem Folder.pairwise_leaves (skip : String → Bool) {tree : Folder}
    (wellNamed : tree.wellNamed = true) :
    ((tree.leaves skip).map Prod.fst).Pairwise (· < ·) := by
  -- The top is no entry, so its names are looked at here once more.
  obtain ⟨distinct, items⟩ := Folder.wellNamed_iff.mp wellNamed
  exact Folder.pairwise_leaves_of_items distinct (fun item _ => item.2.leaves_start skip item.1)
    fun item member => Entry.pairwise_leaves skip (items item member).2 item.1

/-- A joined path is its first part, and a slash with each further one. -/
theorem toList_joinPath (part : String) (parts : List String) :
    (joinPath (part :: parts)).toList
      = part.toList ++ parts.flatMap fun next => '/' :: next.toList :=
  toList_joinWith "/" part parts

/-- Slash-free texts before a slash or the end are told apart from what follows. -/
private theorem append_slash_inj {front other rest more : List Char} (free : '/' ∉ front)
    (otherFree : '/' ∉ other) (starts : ∀ c, rest.head? = some c → c = '/')
    (moreStarts : ∀ c, more.head? = some c → c = '/') (same : front ++ rest = other ++ more) :
    front = other ∧ rest = more := by
  -- The text up to the first slash is the part in front.
  have cut : ∀ {front rest : List Char}, '/' ∉ front → (∀ c, rest.head? = some c → c = '/') →
      (front ++ rest).takeWhile (· != '/') = front := by
    intro front rest free starts
    rw [List.takeWhile_append_of_pos]
    · cases rest with
      | nil => simp
      | cons c rest => simp [starts c rfl]
    · intro c member
      simp only [bne_iff_ne, ne_eq]
      rintro rfl
      exact free member
  have fronts : front = other := by rw [← cut free starts, same, cut otherFree moreStarts]
  subst fronts
  exact ⟨rfl, List.append_cancel_left same⟩

/-- What follows the first part of a joined path starts with a slash, if there is anything. -/
theorem slash_of_head? {parts : List String} {c : Char}
    (first : (parts.flatMap fun next => '/' :: next.toList).head? = some c) : c = '/' := by
  -- Every part stands behind its slash.
  cases parts with
  | nil => simp at first
  | cons part parts => simpa [eq_comm] using first

/-- Paths of slash-free names are told apart by their joined texts. -/
theorem joinPath_inj {names others : List String} (named : names ≠ []) (otherNamed : others ≠ [])
    (free : ∀ name ∈ names, '/' ∉ name.toList) (otherFree : ∀ name ∈ others, '/' ∉ name.toList)
    (same : joinPath names = joinPath others) : names = others :=
  joinWith_inj (by decide) named otherNamed free otherFree same

/-- A joined path that goes on from another one with a colon comes later in the order of names. -/
theorem lt_of_joinPath_colon {names others : List String} (named : names ≠ [])
    (otherNamed : others ≠ []) (free : ∀ name ∈ names, '/' ∉ name.toList)
    (otherFree : ∀ name ∈ others, '/' ∉ name.toList) {rest : List Char}
    (longer : (joinPath others).toList = (joinPath names).toList ++ ':' :: rest) :
    names < others := by
  -- Both paths have a first name.
  obtain ⟨name, names, rfl⟩ := List.exists_cons_of_ne_nil named
  obtain ⟨other, others, rfl⟩ := List.exists_cons_of_ne_nil otherNamed
  rw [toList_joinPath, toList_joinPath, List.append_assoc] at longer
  -- Equal names lead on to the next ones; the colon goes on from the last name of the shorter path.
  induction names generalizing name other others with
  | nil =>
    simp only [List.flatMap_nil, List.nil_append, List.forall_mem_cons] at longer free otherFree
    refine List.cons_lt_cons_iff.mpr (.inl (String.lt_iff.mpr ?_))
    rcases List.append_eq_append_iff.mp longer with ⟨more, isName, isRest⟩ | ⟨more, isOther, isRest⟩
    · -- What follows the other name starts with a slash, and neither the name nor the colon is one.
      cases more with
      | nil => exact absurd (slash_of_head? (by rw [isRest]; rfl)) (by decide)
      | cons c more =>
        have slash : c = '/' := slash_of_head? (by rw [isRest]; rfl)
        exact absurd (isName ▸ by simp [slash]) free.1
    · cases more with
      | nil =>
        exact absurd (slash_of_head? (by rw [← List.nil_append (List.flatMap _ _), ← isRest]; rfl))
          (by decide)
      | cons c more =>
        rw [isOther, ← List.append_nil name.toList, List.append_assoc]
        exact List.append_left_lt (List.nil_lt_cons c more)
  | cons next names ih =>
    simp only [List.flatMap_cons, List.cons_append, List.append_assoc, List.forall_mem_cons]
      at longer free otherFree
    obtain ⟨same, tails⟩ := append_slash_inj otherFree.1 free.1 (fun _ => slash_of_head?)
      (fun c first => by simpa [eq_comm] using first) longer
    refine List.cons_lt_cons_iff.mpr (.inr ⟨(String.toList_injective same).symm, ?_⟩)
    cases others with
    | nil => simp at tails
    | cons second others =>
      simp only [List.flatMap_cons, List.cons_append, List.cons.injEq, true_and] at tails
      exact ih next (by simp) (by simpa using free.2) second others (by simp)
        (by simpa using otherFree.2) tails

/-- Every entry of a well-named tree is well named and stands under slash-free names. -/
theorem Folder.wellNamed_at? {tree : Folder} (wellNamed : tree.wellNamed = true)
    {names : List String} {entry : Entry} (found : tree.at? names = some entry) :
    entry.wellNamed = true ∧ ∀ name ∈ names, '/' ∉ name.toList := by
  -- The induction is on the names, one entry further down for each.
  induction names generalizing tree with
  | nil =>
    simp only [Folder.at?_nil, Option.some.injEq] at found
    exact ⟨found ▸ wellNamed, by simp⟩
  | cons name names ih =>
    rw [Folder.at?_cons] at found
    obtain ⟨middle, isMiddle, found⟩ := Option.bind_eq_some_iff.mp found
    obtain ⟨free, inner⟩ :=
      (Folder.wellNamed_iff.mp wellNamed).2 _ (Assoc.mem_of_get?_eq_some isMiddle)
    -- Below a leaf the way ends, below a folder it goes on.
    cases middle with
    | folder entries =>
      obtain ⟨good, others⟩ := ih inner found
      exact ⟨good, List.forall_mem_cons.mpr ⟨free, others⟩⟩
    | _ =>
      cases names with
      | nil =>
        simp only [Entry.at?_nil, Option.some.injEq] at found
        exact ⟨found ▸ inner, by simpa using free⟩
      | cons next names => simp at found

end SourceAtlas
