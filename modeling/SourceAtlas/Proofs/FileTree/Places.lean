import SourceAtlas.FileTree
import SourceAtlas.Proofs.Assoc

/-! Places in a file tree: what stands where after an entry is put, and which
paths still lead there. -/

namespace SourceAtlas

/-- Whether an entry is a folder. -/
def Entry.isFolder : Entry → Bool
  | .folder _ => true
  | _ => false

/-- At the end of no names an entry stands itself. -/
@[simp] theorem Entry.at?_nil (entry : Entry) : entry.at? [] = some entry := by
  rw [Entry.at?]

/-- Names lead on inside a folder. -/
@[simp] theorem Entry.at?_folder (entries : Folder) (names : List String) :
    (Entry.folder entries).at? names = entries.at? names := rfl

/-- Nothing stands below a file. -/
@[simp] theorem Entry.at?_file_cons (bytes : ByteArray) (name : String) (rest : List String) :
    (Entry.file bytes).at? (name :: rest) = none := by
  rw [Entry.at?]; simp

/-- Nothing stands below a link. -/
@[simp] theorem Entry.at?_link_cons (target name : String) (rest : List String) :
    (Entry.link target).at? (name :: rest) = none := by
  rw [Entry.at?]; simp

/-- Nothing stands below a leaf. -/
theorem Entry.at?_cons_of_leaf {entry : Entry} (leaf : entry.isFolder = false) (name : String)
    (rest : List String) : entry.at? (name :: rest) = none := by
  cases entry with
  | folder entries => simp [Entry.isFolder] at leaf
  | file bytes => exact Entry.at?_file_cons bytes name rest
  | link target => exact Entry.at?_link_cons target name rest

namespace Folder

/-- At the end of no names stands the tree. -/
@[simp] theorem at?_nil (tree : Folder) : tree.at? [] = some (.folder tree) := by
  simp [at?]

/-- The first name leads to its entry, and the others lead on from there. -/
@[simp] theorem at?_cons (tree : Folder) (name : String) (rest : List String) :
    tree.at? (name :: rest) = (Assoc.get? tree name).bind fun entry => entry.at? rest := by
  rw [at?, Entry.at?]

/-- What stands at the end of two chains of names stands at the end of the
second below the first. -/
theorem at?_append (tree : Folder) (names rest : List String) :
    tree.at? (names ++ rest) = (tree.at? names).bind fun entry => entry.at? rest := by
  -- The induction is on the names in front, one entry further down for each.
  induction names generalizing tree with
  | nil => simp
  | cons name names ih =>
    rw [List.cons_append, at?_cons, at?_cons]
    cases Assoc.get? tree name with
    | none => rfl
    | some entry =>
      -- In a folder the other names lead on; below a leaf they lead nowhere on both sides.
      cases entry with
      | folder entries => simpa using ih entries
      | _ =>
        cases names with
        | nil => simp
        | cons next names => simp

/-- A folder stands at the end of some names. -/
def IsFolderAt (tree : Folder) (names : List String) : Prop :=
  ∃ entries, tree.at? names = some (.folder entries)

/-- The top is a folder. -/
@[simp] theorem isFolderAt_nil (tree : Folder) : tree.IsFolderAt [] := ⟨tree, at?_nil tree⟩

/-- Only folders stand on the way to an entry. -/
theorem isFolderAt_of_at?_append {tree : Folder} {names rest : List String} {entry : Entry}
    (found : tree.at? (names ++ rest) = some entry) (below : rest ≠ []) :
    tree.IsFolderAt names := by
  rw [at?_append] at found
  obtain ⟨middle, atNames, atRest⟩ := Option.bind_eq_some_iff.mp found
  obtain ⟨name, rest, rfl⟩ := List.exists_cons_of_ne_nil below
  -- Something stands below the entry in the middle, so it is no leaf.
  cases middle with
  | folder entries => exact ⟨entries, atNames⟩
  | file bytes => simp at atRest
  | link target => simp at atRest

/-- On the way to a folder there are folders. -/
theorem IsFolderAt.of_prefix {tree : Folder} {names place : List String}
    (folder : tree.IsFolderAt names) (above : place <+: names) : tree.IsFolderAt place := by
  obtain ⟨entries, found⟩ := folder
  obtain ⟨rest, rfl⟩ := above
  -- The folder itself, or something below which it stands.
  by_cases last : rest = []
  · exact ⟨entries, by simpa [last] using found⟩
  · exact isFolderAt_of_at?_append found last

/-- One step up from a folder there is a folder. -/
theorem IsFolderAt.dropLast {tree : Folder} {names : List String} (folder : tree.IsFolderAt names) :
    tree.IsFolderAt names.dropLast :=
  folder.of_prefix (List.dropLast_prefix names)

/-- What has been put stands where it was put. -/
theorem at?_put_append (tree : Folder) (names : List String) (name : String) (entry : Entry)
    (rest : List String) :
    (put (names ++ [name]) entry tree).at? (names ++ name :: rest) = entry.at? rest := by
  -- The names lead through folders that are there or are made.
  induction names generalizing tree with
  | nil => simp [put, Assoc.get?_put]
  | cons first names ih =>
    -- Putting looks one name ahead, so the rest of the way is split once more.
    obtain ⟨next, others, split⟩ := List.exists_cons_of_ne_nil (l := names ++ [name]) (by simp)
    simp only [List.cons_append, split, put, at?_cons, Assoc.get?_put, if_true, Option.bind_some,
      Entry.at?_folder]
    rw [← split]
    exact ih _

/-- Putting an entry into a folder changes nothing at places that are
neither on the way nor below. -/
private theorem at?_put_of_apart {tree : Folder} {names : List String}
    (folder : tree.IsFolderAt names) {name : String} (entry : Entry) {place : List String}
    (notBelow : ¬ names ++ [name] <+: place) (notAbove : ¬ place <+: names) :
    (put (names ++ [name]) entry tree).at? place = tree.at? place := by
  -- The way into the folder is followed one name at a time, together with the place.
  induction names generalizing tree place with
  | nil =>
    cases place with
    | nil => simp at notAbove
    | cons first place =>
      have differs : first ≠ name := by
        rintro rfl
        simp at notBelow
      simp [put, Assoc.get?_put, differs]
  | cons head names ih =>
    cases place with
    | nil => simp at notAbove
    | cons first place =>
      obtain ⟨next, others, split⟩ := List.exists_cons_of_ne_nil (l := names ++ [name]) (by simp)
      simp only [List.cons_append, split, put, at?_cons, Assoc.get?_put]
      by_cases same : first = head
      · subst same
        obtain ⟨entries, found⟩ := folder
        rw [at?_cons] at found
        obtain ⟨middle, atHead, atRest⟩ := Option.bind_eq_some_iff.mp found
        -- The first step of the way leads into a folder, in which the rest of the way lies.
        have inner : ∃ inside, middle = .folder inside := by
          cases names with
          | nil => exact ⟨entries, by simpa using atRest⟩
          | cons second names => cases middle <;> simp at atRest ⊢
        obtain ⟨inside, rfl⟩ := inner
        simp only [atHead, if_true, Option.bind_some, Entry.at?_folder, ← split]
        refine ih ⟨entries, by simpa using atRest⟩ ?_ ?_
        · simpa [List.cons_prefix_cons] using notBelow
        · simpa [List.cons_prefix_cons] using notAbove
      · simp [same]

/-- Putting an entry into a folder leaves folders on the way. -/
private theorem isFolderAt_put_of_prefix (tree : Folder) {names place : List String} (name : String)
    (entry : Entry) (above : place <+: names) :
    (put (names ++ [name]) entry tree).IsFolderAt place := by
  -- The entry stands below every place on the way to it.
  obtain ⟨rest, rfl⟩ := above
  have found := at?_put_append tree (place ++ rest) name entry []
  rw [Entry.at?_nil, List.append_assoc] at found
  rw [List.append_assoc]
  exact isFolderAt_of_at?_append found (by simp)

/-- After an entry is put into a folder, a place lies in the entry, or in a folder on the way,
or holds what it held. -/
theorem at?_put_cases {tree : Folder} {names : List String} (folder : tree.IsFolderAt names)
    (name : String) (entry : Entry) (place : List String) :
    (∃ rest, place = names ++ name :: rest ∧
      (put (names ++ [name]) entry tree).at? place = entry.at? rest) ∨
    (place <+: names ∧ tree.IsFolderAt place ∧
      (put (names ++ [name]) entry tree).IsFolderAt place) ∨
    (put (names ++ [name]) entry tree).at? place = tree.at? place := by
  -- The place lies below the entry, above it, or apart from both.
  by_cases below : names ++ [name] <+: place
  · obtain ⟨rest, rfl⟩ := below
    rw [List.append_assoc, List.singleton_append]
    exact .inl ⟨rest, rfl, at?_put_append tree names name entry rest⟩
  · by_cases above : place <+: names
    · exact .inr (.inl ⟨above, folder.of_prefix above,
        isFolderAt_put_of_prefix tree name entry above⟩)
    · exact .inr (.inr (at?_put_of_apart folder entry below above))

/-- Two places that hold folders hold the same leaves: none. -/
theorem leaf_iff_of_isFolderAt {tree after : Folder} {place : List String}
    (before : tree.IsFolderAt place) (later : after.IsFolderAt place) {entry : Entry}
    (leaf : entry.isFolder = false) :
    after.at? place = some entry ↔ tree.at? place = some entry := by
  obtain ⟨entries, before⟩ := before
  obtain ⟨inside, later⟩ := later
  rw [before, later]
  -- A folder is no leaf, in the one tree and in the other.
  constructor <;>
    · intro same
      cases same
      simp [Entry.isFolder] at leaf

/-- In a folder without folders a leaf stands under a single name. -/
theorem leaf_of_flat {tree : Folder} (flat : ∀ pair ∈ tree, pair.2.isFolder = false)
    {path : List String} {entry : Entry} (leaf : entry.isFolder = false)
    (found : tree.at? path = some entry) :
    ∃ name, path = [name] ∧ (name, entry) ∈ tree := by
  -- The top is no leaf, and nothing lies below one.
  cases path with
  | nil =>
    simp only [at?_nil, Option.some.injEq] at found
    simp [← found, Entry.isFolder] at leaf
  | cons name rest =>
    rw [at?_cons] at found
    obtain ⟨standing, isStanding, below⟩ := Option.bind_eq_some_iff.mp found
    have member := Assoc.mem_of_get?_eq_some isStanding
    have isLeaf := flat _ member
    cases rest with
    | nil =>
      obtain rfl : standing = entry := by simpa using below
      exact ⟨name, rfl, member⟩
    | cons next rest => simp [Entry.at?_cons_of_leaf isLeaf] at below

end Folder

/-- Two entries look the same to a path that leads through them. -/
def Entry.Fits : Entry → Entry → Prop
  | .folder _, .folder _ => True
  | .file _, .file _ => True
  | .link target, .link other => target = other
  | _, _ => False

namespace Folder

/-- Every entry of a tree has one of its kind at its place in the other. -/
def Extends (tree larger : Folder) : Prop :=
  ∀ names entry, tree.at? names = some entry →
    ∃ other, larger.at? names = some other ∧ entry.Fits other

section Extends

variable {tree larger : Folder} {names : List String} (extends_ : tree.Extends larger)

include extends_

/-- Folders of the smaller tree are folders of the larger one. -/
theorem Extends.isFolderAt (inside : tree.IsFolderAt names) : larger.IsFolderAt names := by
  obtain ⟨entries, stands⟩ := inside
  obtain ⟨other, there, fits⟩ := extends_ _ _ stands
  -- Nothing but a folder looks like a folder.
  cases other with
  | folder others => exact ⟨others, there⟩
  | _ => cases fits

/-- Where a file stands, a file stands in the larger tree. -/
theorem Extends.file {bytes : ByteArray} (stands : tree.at? names = some (.file bytes)) :
    ∃ others, larger.at? names = some (.file others) := by
  obtain ⟨other, there, fits⟩ := extends_ _ _ stands
  -- Nothing but a file looks like a file.
  cases other with
  | file others => exact ⟨others, there⟩
  | _ => cases fits

/-- A link of the smaller tree leads to the same in the larger one. -/
theorem Extends.link {target : String} (stands : tree.at? names = some (.link target)) :
    larger.at? names = some (.link target) := by
  obtain ⟨other, there, fits⟩ := extends_ _ _ stands
  -- Links look the same only if they lead to the same.
  cases other with
  | link others =>
    obtain rfl : target = others := fits
    exact there
  | _ => cases fits

end Extends

end Folder

end SourceAtlas
