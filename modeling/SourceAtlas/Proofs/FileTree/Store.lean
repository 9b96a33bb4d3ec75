import SourceAtlas.Proofs.FileTree.Links

/-! Storing and removing files: the folders and the place a file takes, and what stays as it was. -/

namespace SourceAtlas.Folder

/-- A tree with some folders more than before. -/
structure AddsFolders (tree after : Folder) : Prop where
  folders : ∀ {names}, tree.IsFolderAt names → after.IsFolderAt names
  leaves : ∀ {names entry}, entry.isFolder = false →
    (after.at? names = some entry ↔ tree.at? names = some entry)

/-- A tree has the folders that it has. -/
theorem AddsFolders.refl (tree : Folder) : tree.AddsFolders tree :=
  ⟨id, fun _ => Iff.rfl⟩

/-- Folders may be added in two goes. -/
theorem AddsFolders.trans {tree middle after : Folder} (first : tree.AddsFolders middle)
    (second : middle.AddsFolders after) : tree.AddsFolders after :=
  ⟨second.folders ∘ first.folders, fun leaf => (second.leaves leaf).trans (first.leaves leaf)⟩

/-- A new folder in a folder changes nothing else. -/
private theorem addsFolders_put {tree : Folder} {names : List String} {name : String}
    (folder : tree.IsFolderAt names) (free : tree.at? (names ++ [name]) = none) :
    tree.AddsFolders (put (names ++ [name]) (.folder []) tree) := by
  -- Where nothing stands, nothing stands below either.
  have nothingBelow : ∀ rest, tree.at? (names ++ name :: rest) = none := by
    intro rest
    rw [← List.singleton_append, ← List.append_assoc, at?_append, free]
    rfl
  refine ⟨fun {place} found => ?_, fun {place entry} leaf => ?_⟩
  · -- A folder lies on the way or apart, so it is one still.
    rcases at?_put_cases folder name (.folder []) place with ⟨rest, rfl, _⟩ | ⟨_, _, later⟩ | same
    · obtain ⟨entries, found⟩ := found
      exact absurd found (by simp [nothingBelow])
    · exact later
    · exact found.imp fun entries found => same.trans found
  · rcases at?_put_cases folder name (.folder []) place with
      ⟨rest, rfl, later⟩ | ⟨_, before, later⟩ | same
    · -- The new folder is empty and itself no leaf.
      rw [later, nothingBelow]
      cases rest with
      | nil =>
        simp only [Entry.at?_nil, Option.some.injEq, reduceCtorEq, iff_false]
        rintro rfl
        simp [Entry.isFolder] at leaf
      | cons next rest => simp
    · exact leaf_iff_of_isFolderAt before later leaf
    · rw [same]

/-! ## Folders -/

/-- A folder is made in a folder, under a new name. -/
theorem makeFolder_spec {tree made : Folder} {above : List String} {name : String}
    (makes : tree.makeFolder above name = .ok made) :
    ∃ place, tree.IsFolderAt place ∧ tree.at? (place ++ [name]) = none ∧
      made = put (place ++ [name]) (.folder []) tree := by
  -- Each test on the way either fails or leaves a fact behind.
  unfold makeFolder at makes
  cases found : tree.locate above with
  | error fault => simp [found] at makes
  | ok place =>
    simp only [found] at makes
    cases stands : tree.at? place with
    | none => simp [stands] at makes
    | some entry =>
      cases entry with
      | file bytes => simp [stands] at makes
      | link target => simp [stands] at makes
      | folder entries =>
        simp only [stands] at makes
        split at makes
        · cases makes
        · rename_i free
          split at makes
          · cases makes
          · simp only [Bool.or_eq_true, Bool.not_eq_true', not_or, Bool.not_eq_true,
              Option.isSome_eq_false_iff, Option.isNone_iff_eq_none] at free
            exact ⟨place, ⟨entries, stands⟩, free.2, (Except.ok.inj makes).symm⟩

/-- A folder that is there, or has just been made. -/
theorem ensureFolder_cases {tree after : Folder} {above : List String} {name : String}
    (ensured : tree.ensureFolder above name = .ok after) :
    after = tree ∨ tree.makeFolder above name = .ok after := by
  -- Making the folder succeeds, or fails.
  unfold ensureFolder at ensured
  cases makes : tree.makeFolder above name with
  | ok made =>
    simp only [makes] at ensured
    exact .inr (congrArg Except.ok (Except.ok.inj ensured))
  | error fault =>
    -- Whatever the fault was, only a folder that is there makes up for it.
    left
    simp only [makes] at ensured
    cases hasFolder : tree.hasFolder (above ++ [name]) with
    | error other => cases fault <;> simp [hasFolder, Except.bind] at ensured
    | ok isThere =>
      cases isThere with
      | false => cases fault <;> simp [hasFolder, Except.bind] at ensured
      | true => cases fault <;> simp [hasFolder, Except.bind] at ensured <;> exact ensured.symm

/-- Induction along the folders that are made for a path: each of them is made
under one of its names. -/
theorem provideFrom_induction {motive : Folder → Folder → Prop} (same : ∀ tree, motive tree tree)
    (more : ∀ tree middle after, motive tree middle → motive middle after → motive tree after)
    (path : List String) (make : ∀ tree above name made, name ∈ path →
      tree.makeFolder above name = .ok made → motive tree made) (tree : Folder) :
    motive tree (provideFrom path tree).2 := by
  -- The path is given from its end, so the folders above are the rest of it.
  induction path generalizing tree with
  | nil => exact same tree
  | cons name above ih =>
    have ih := ih fun tree above name made member => make tree above name made (by simp [member])
    have ensure : ∀ {tree after : Folder}, tree.ensureFolder above.reverse name = .ok after →
        motive tree after := by
      intro tree after ensured
      rcases ensureFolder_cases ensured with rfl | makes
      · exact same _
      · exact make _ _ _ _ (by simp) makes
    -- The folder is made at once, or after those above it, or not at all.
    rw [provideFrom]
    cases ensured : tree.ensureFolder above.reverse name with
    | ok made => exact ensure ensured
    | error fault =>
      cases fault with
      | missing =>
        have above_ := ih tree
        dsimp only
        cases provided : provideFrom above tree with
        | mk outcome middle =>
          rw [provided] at above_
          cases outcome with
          | error fault => exact above_
          | ok done =>
            dsimp only
            cases again : middle.ensureFolder above.reverse name with
            | ok made => exact more _ _ _ above_ (ensure again)
            | error fault => exact above_
      | _ => exact same tree

/-- Providing the folders of a path adds folders and changes nothing else. -/
theorem addsFolders_provide (tree : Folder) (path : List String) :
    tree.AddsFolders (tree.provide path).2 := by
  -- Each folder that is made is a new one in a folder.
  refine provideFrom_induction AddsFolders.refl
    (fun _ _ _ first second => first.trans second) path.reverse ?_ tree
  intro tree above name made _ makes
  obtain ⟨place, folder, free, rfl⟩ := makeFolder_spec makes
  exact addsFolders_put folder free

/-- Where a path leads to a folder, no folder has to be made for it. -/
private theorem provide_of_isFolderAt {tree : Folder} {path place : List String}
    (found : tree.locate path = .ok place) (folder : tree.IsFolderAt place) :
    tree.provide path = (.ok (), tree) := by
  -- At the top nothing is made.
  rcases List.eq_nil_or_concat path with rfl | ⟨above, name, rfl⟩
  · rfl
  rw [List.concat_eq_append] at found ⊢
  obtain ⟨entries, isFolder⟩ := folder
  have hasFolder : tree.hasFolder (above ++ [name]) = .ok true := by
    simp [hasFolder, found, isFolder]
  -- The folder above is there too, and the name in it is not free.
  obtain ⟨left, middle, locates, ⟨inner, isMiddle⟩, leads⟩ :=
    resolve_append (isFolderAt_nil tree) (by simp) found
  have locates : tree.locate above = .ok middle := locates
  have taken : tree.makeFolder above name = .error .taken := by
    simp only [makeFolder, locates, isMiddle]
    rw [if_pos]
    cases named : isName name with
    | false => rfl
    | true =>
      cases stands : tree.at? (middle ++ [name]) with
      | some entry => simp
      | none =>
        rw [resolve_nothing named rfl stands] at leads
        split at leads <;> cases leads
  have ensured : tree.ensureFolder above name = .ok tree := by
    simp [ensureFolder, taken, hasFolder, Except.bind]
  simp [provide, provideFrom, ensured]

/-! ## Files -/

/-- A tree in which a file has been written at a place, where there was none or another one. -/
structure Writes (tree : Folder) (place : List String) (bytes : ByteArray) (after : Folder) :
    Prop where
  written : after.at? place = some (.file bytes)
  replaced : tree.at? place = none ∨ ∃ old, tree.at? place = some (.file old)
  folders : ∀ {names}, tree.IsFolderAt names → after.IsFolderAt names
  leaves : ∀ {names entry}, entry.isFolder = false → names ≠ place →
    (after.at? names = some entry ↔ tree.at? names = some entry)

/-- Writing a file leaves a larger tree. -/
theorem Writes.extends {tree after : Folder} {place : List String} {bytes : ByteArray}
    (writes : tree.Writes place bytes after) : tree.Extends after := by
  -- Folders stay folders, and leaves are looked at one by one.
  intro names entry standing
  cases isFolder : entry.isFolder with
  | true =>
    cases entry with
    | folder entries =>
      obtain ⟨inside, there⟩ := writes.folders ⟨entries, standing⟩
      exact ⟨_, there, trivial⟩
    | _ => simp [Entry.isFolder] at isFolder
  | false =>
    -- At the place itself a file can only have taken the place of a file.
    by_cases same : names = place
    · subst same
      rcases writes.replaced with free | ⟨old, was⟩
      · simp [free] at standing
      · refine ⟨_, writes.written, ?_⟩
        obtain rfl : entry = .file old := by simpa [was] using standing.symm
        trivial
    · refine ⟨entry, (writes.leaves isFolder same).mpr standing, ?_⟩
      cases entry <;> simp [Entry.Fits, Entry.isFolder] at isFolder ⊢

/-- A file put into a folder is written there. -/
private theorem writes_put {tree : Folder} {base : List String} {name : String}
    (folder : tree.IsFolderAt base)
    (replaced : tree.at? (base ++ [name]) = none ∨
      ∃ old, tree.at? (base ++ [name]) = some (.file old)) (bytes : ByteArray) :
    tree.Writes (base ++ [name]) bytes (put (base ++ [name]) (.file bytes) tree) := by
  -- Neither a file nor an absent entry has anything below it.
  have nothingBelow : ∀ next rest, tree.at? (base ++ name :: next :: rest) = none := by
    intro next rest
    rw [← List.singleton_append, ← List.append_assoc, at?_append]
    rcases replaced with free | ⟨old, was⟩ <;> simp [*]
  refine ⟨by simpa using at?_put_append tree base name (.file bytes) [], replaced,
    fun {place} found => ?_, fun {place entry} leaf differs => ?_⟩
  · -- A folder is not at the place, for there a file or nothing stood.
    rcases at?_put_cases folder name (.file bytes) place with ⟨rest, rfl, _⟩ | ⟨_, _, later⟩ | same
    · obtain ⟨entries, found⟩ := found
      cases rest with
      | nil => rcases replaced with free | ⟨old, was⟩ <;> simp_all
      | cons next rest => exact absurd found (by simp [nothingBelow])
    · exact later
    · exact found.imp fun entries found => same.trans found
  · -- A leaf lies at the place, on the way to it or apart.
    rcases at?_put_cases folder name (.file bytes) place with
      ⟨rest, rfl, later⟩ | ⟨_, before, later⟩ | same
    · cases rest with
      | nil => exact absurd rfl differs
      | cons next rest => simp [later, nothingBelow]
    · exact leaf_iff_of_isFolderAt before later leaf
    · rw [same]

/-- A tree that has grown: all that stood there stands there still, and apart from
one spot no leaf is new. -/
structure GrowsBeside (tree : Folder) (spot : Option (List String)) (after : Folder) : Prop where
  larger : tree.Extends after
  leaves : ∀ {names entry}, entry.isFolder = false → some names ≠ spot →
    (after.at? names = some entry ↔ tree.at? names = some entry)

/-- A tree that gets folders grows beside any spot. -/
theorem AddsFolders.grows {tree after : Folder} (added : tree.AddsFolders after)
    (spot : Option (List String)) : tree.GrowsBeside spot after where
  larger := by
    -- Folders are folders still, and leaves are the same.
    intro names entry standing
    cases entry with
    | folder entries =>
      obtain ⟨inside, there⟩ := added.folders ⟨entries, standing⟩
      exact ⟨_, there, trivial⟩
    | file bytes => exact ⟨_, (added.leaves rfl).mpr standing, trivial⟩
    | link target => exact ⟨_, (added.leaves rfl).mpr standing, rfl⟩
  leaves := fun leaf _ => added.leaves leaf

/-- A tree in which a file is written grows beside its place. -/
theorem Writes.grows {tree after : Folder} {place : List String} {bytes : ByteArray}
    (writes : tree.Writes place bytes after) : tree.GrowsBeside (some place) after :=
  -- Apart from the place the leaves are the same.
  ⟨writes.extends, fun leaf elsewhere => writes.leaves leaf fun same =>
    elsewhere (congrArg some same)⟩

/-- Folders added before a file is written are part of the writing. -/
theorem AddsFolders.writes {tree middle after : Folder} {place : List String} {bytes : ByteArray}
    (added : tree.AddsFolders middle) (writes : middle.Writes place bytes after)
    (free : ¬ tree.IsFolderAt place) : tree.Writes place bytes after where
  written := writes.written
  replaced := by
    -- Folders that were added are no leaves, so what stood at the place before is
    -- what the writing found.
    rcases writes.replaced with none_ | ⟨old, was⟩
    · refine .inl (Option.eq_none_iff_forall_ne_some.mpr fun entry standing => ?_)
      cases isFolder : entry.isFolder with
      | true => cases entry <;> simp_all [Entry.isFolder, IsFolderAt]
      | false => simp [(added.leaves isFolder).mpr standing] at none_
    · exact .inr ⟨old, (added.leaves rfl).mp was⟩
  folders := writes.folders ∘ added.folders
  leaves := fun leaf differs => (writes.leaves leaf differs).trans (added.leaves leaf)

/-- A path that ends on the spot leads to a folder. -/
private theorem resolve_slash {tree : Folder} {links : Nat} {names parts place : List String}
    (inside : tree.IsFolderAt names)
    (found : tree.resolve false links names (parts ++ [""]) = .ok place) :
    tree.IsFolderAt place := by
  -- Before the last step there is a folder, and the step stays in it.
  obtain ⟨left, middle, _, folder, stays⟩ := resolve_append inside (by simp) found
  rw [resolve_stay rfl, resolve_nil, Except.ok.injEq] at stays
  exact stays ▸ folder

/-- A path that leads to a file leads there also when a file is to be made. -/
private theorem resolve_true_of_file {tree : Folder} {links : Nat} {names parts place : List String}
    {bytes : ByteArray} (inside : tree.IsFolderAt names)
    (stands : tree.at? place = some (.file bytes))
    (found : tree.resolve false links names parts = .ok place) :
    tree.resolve true links names parts = .ok place := by
  -- The two ways part only at a slash behind the last name, and behind a slash there is no file.
  have open_ : ∀ {links names parts rest place}, tree.IsFolderAt names →
      tree.resolve false links names (parts ++ rest) = .ok place →
      tree.at? place = some (.file bytes) → (true && rest == [""]) = false := by
    intro links names parts rest place inside found stands
    rw [Bool.true_and, beq_eq_false_iff_ne]
    rintro rfl
    obtain ⟨entries, isFolder⟩ := resolve_slash inside found
    rw [stands] at isFolder
    cases isFolder
  refine (resolve_induction
    (motive := fun links names parts place =>
      tree.IsFolderAt names → tree.at? place = some (.file bytes) →
        tree.resolve false links names parts = .ok place ∧
          tree.resolve true links names parts = .ok place)
    ?_ ?_ ?_ ?_ ?_ ?_ ?_ found inside stands).2
  · intro links names _ _
    exact ⟨resolve_nil, resolve_nil⟩
  · intro links names part rest place idle ih inside stands
    rw [resolve_stay idle, resolve_stay idle]
    exact ih inside stands
  · intro links names rest place ih inside stands
    rw [resolve_up, resolve_up]
    exact ih inside.dropLast stands
  · intro links names part rest place named _ folder ih _ stands
    obtain ⟨reads, makes⟩ := ih folder stands
    have opens := @open_ links (names ++ [part]) [] rest place folder reads stands
    rw [resolve_folder named rfl folder, resolve_folder named opens folder]
    exact ⟨reads, makes⟩
  · intro links names part _ named there _ _
    rw [resolve_file named rfl there, resolve_file named rfl there]
    exact ⟨rfl, rfl⟩
  · intro links names part rest place target named _ there ih inside stands
    obtain ⟨reads, makes⟩ := ih (inside.linkStart target) stands
    have opens := open_ (inside.linkStart target) reads stands
    rw [resolve_link named rfl there, resolve_link named opens there]
    exact ⟨reads, makes⟩
  · intro links names part makes
    cases makes

/-- Where a path leads to when a file is to be made there is a folder, or a folder for it that holds
none of that name or a file. -/
private theorem resolve_spec {tree : Folder} {make : Bool} {links : Nat}
    {names parts place : List String} (folder : tree.IsFolderAt names)
    (found : tree.resolve make links names parts = .ok place) :
    tree.IsFolderAt place ∨ ∃ base name, place = base ++ [name] ∧ tree.IsFolderAt base ∧
      (tree.at? place = none ∨ ∃ bytes, tree.at? place = some (.file bytes)) := by
  -- Only the last step of a path can end at something else than a folder.
  refine resolve_induction (motive := fun _ names _ place => tree.IsFolderAt names →
    tree.IsFolderAt place ∨ ∃ base name, place = base ++ [name] ∧ tree.IsFolderAt base ∧
      (tree.at? place = none ∨ ∃ bytes, tree.at? place = some (.file bytes)))
    ?_ ?_ ?_ ?_ ?_ ?_ ?_ found folder
  · intro links names folder
    exact .inl folder
  · intro links names part rest place _ ih folder
    exact ih folder
  · intro links names rest place ih folder
    exact ih folder.dropLast
  · intro links names part rest place _ _ inside ih _
    exact ih inside
  · intro links names part bytes _ stands folder
    exact .inr ⟨names, part, rfl, folder, .inr ⟨bytes, stands⟩⟩
  · intro links names part rest place target _ _ _ ih folder
    exact ih (folder.linkStart target)
  · intro links names part _ _ free _ folder
    exact .inr ⟨names, part, rfl, folder, .inl free⟩

/-- The path under which a file is written leads to it once it is there. -/
private theorem resolve_of_written {tree after : Folder} {make : Bool}
    (extends_ : tree.Extends after) {links : Nat} {names parts place : List String}
    {bytes : ByteArray} (written : after.at? place = some (.file bytes))
    (found : tree.resolve make links names parts = .ok place) :
    after.resolve false links names parts = .ok place := by
  -- Reading takes the steps of writing, and at the end of them it meets the file.
  refine resolve_induction (motive := fun links names parts place =>
    after.at? place = some (.file bytes) → after.resolve false links names parts = .ok place)
    ?_ ?_ ?_ ?_ ?_ ?_ ?_ found written
  · intro links names _
    exact resolve_nil
  · intro links names part rest place idle ih written
    rw [resolve_stay idle, ih written]
  · intro links names rest place ih written
    rw [resolve_up, ih written]
  · intro links names part rest place named _ inside ih written
    rw [resolve_folder named rfl (extends_.isFolderAt inside), ih written]
  · intro links names part _ named _ written
    rw [resolve_file named rfl written]
    rfl
  · intro links names part rest place target named _ stands ih written
    rw [resolve_link named rfl (extends_.link stands)]
    exact ih written
  · intro links names part _ named _ _ written
    rw [resolve_file named rfl written]
    rfl

/-- A file is written at the place for it, to which its path leads from then on. -/
theorem write_spec {tree after : Folder} {path : List String} {bytes : ByteArray}
    (written : tree.write path bytes = .ok after) :
    ∃ place, tree.placeFor path = .ok place ∧ tree.Writes place bytes after ∧
      after.locate path = .ok place := by
  -- Writing first finds the place, and then puts the file there.
  unfold write at written
  cases found : tree.placeFor path with
  | error fault => simp [found, Except.map] at written
  | ok place =>
    simp only [found, Except.map, Except.ok.injEq] at written
    subst written
    unfold placeFor at found
    cases target : tree.resolve true linkLimit [] path with
    | error fault => simp [target, Except.bind] at found
    | ok spot =>
      simp only [target, Except.bind] at found
      rcases resolve_spec (isFolderAt_nil tree) target with
        ⟨entries, isFolder⟩ | ⟨base, name, rfl, folder, was⟩
      · -- In the place of a folder no file is written.
        simp [isFolder] at found
      · obtain rfl : base ++ [name] = place := by
          rcases was with free | ⟨old, was⟩
          · simpa [free] using found
          · simpa [was] using found
        have writes := writes_put folder was bytes
        exact ⟨_, rfl, writes, resolve_of_written writes.extends writes.written target⟩

/-- There is a place for the file of a path, once the folders on the way to it are made. -/
def HasPlace (tree : Folder) (path : List String) : Prop :=
  (tree.provide path.dropLast).1 = .ok () ∧
    ∃ place, (tree.provide path.dropLast).2.placeFor path = .ok place

/-- A file that can be read can be written, and all folders on the way to it are there. -/
theorem hasPlace_of_file {tree : Folder} {path : List String} {bytes : ByteArray}
    (read : tree.bytesAt? path = some bytes) :
    tree.HasPlace path ∧ tree.provide path.dropLast = (.ok (), tree) := by
  -- The path has a last name, and all names before it lead to a folder.
  obtain ⟨place, found, stands⟩ := bytesAt?_eq_some_iff.mp read
  have named : path ≠ [] := by
    -- At the top there is a folder.
    rintro rfl
    rw [locate, resolve_nil, Except.ok.injEq] at found
    rw [← found, at?_nil] at stands
    cases stands
  obtain ⟨front, last, rfl⟩ : ∃ front last, path = front ++ [last] :=
    ⟨path.dropLast, path.getLast named, (List.dropLast_concat_getLast named).symm⟩
  -- The folder is there, so that none is made.
  obtain ⟨left, middle, locates, folder, _⟩ := resolve_append (isFolderAt_nil tree) (by simp) found
  have same : tree.provide front = (.ok (), tree) := provide_of_isFolderAt locates folder
  have target := resolve_true_of_file (isFolderAt_nil tree) stands found
  rw [List.dropLast_concat]
  refine ⟨⟨?_, place, ?_⟩, same⟩
  · rw [List.dropLast_concat, same]
  · rw [List.dropLast_concat, same]
    simp [placeFor, target, Except.bind, stands]

/-! ## Nothing in the way -/

/-- The file of a path can be written where its names say: only folders stand on the way, as far as
anything does, and at the end stands a file or nothing. -/
structure Unobstructed (tree : Folder) (path : List String) : Prop where
  nonempty : path ≠ []
  named : ∀ name ∈ path, isName name = true ∧ name.utf8ByteSize ≤ nameLimit
  way : ∀ front, front <+: path.dropLast → ∀ entry, tree.at? front = some entry →
    entry.isFolder = true
  target : ∀ entry, tree.at? path = some entry → ∃ bytes, entry = .file bytes

/-- Where only folders stand on the way and the last one is not there, something
on the way is missing. -/
private theorem locate_of_missing {tree : Folder} {path : List String}
    (named : ∀ name ∈ path, isName name = true ∧ name.utf8ByteSize ≤ nameLimit)
    (way : ∀ front, front <+: path → ∀ entry, tree.at? front = some entry → entry.isFolder = true)
    (absent : ¬ tree.IsFolderAt path) : tree.locate path = .error .missing := by
  -- The names that are there lead down to a folder, and the next one is missing in it.
  have step : ∀ (rest names : List String), tree.IsFolderAt names → path = names ++ rest →
      tree.resolve false linkLimit names rest = .error .missing := by
    intro rest
    induction rest with
    | nil =>
      intro names inside isPath
      exact absurd (by rwa [isPath, List.append_nil]) absent
    | cons part rest ih =>
      intro names inside isPath
      obtain ⟨isPart, fits⟩ := named part (by simp [isPath])
      cases stands : tree.at? (names ++ [part]) with
      | none =>
        rw [resolve_nothing isPart rfl stands, if_neg (by omega)]
        rfl
      | some entry =>
        have isFolder := way (names ++ [part]) ⟨rest, by simp [isPath]⟩ entry stands
        cases entry with
        | folder entries =>
          rw [resolve_folder isPart rfl ⟨entries, stands⟩]
          exact ih (names ++ [part]) ⟨entries, stands⟩ (by simp [isPath])
        | _ => simp [Entry.isFolder] at isFolder
  exact step path [] (isFolderAt_nil tree) rfl

/-- In a folder that is there, a folder of a free name is made, and nothing else changes. -/
private theorem ensureFolder_of_free {tree : Folder} {above : List String} {name : String}
    (aboveNamed : ∀ part ∈ above, isName part = true) (named : isName name = true)
    (fits : name.utf8ByteSize ≤ nameLimit) (inside : tree.IsFolderAt above)
    (free : tree.at? (above ++ [name]) = none) :
    ∃ after, tree.ensureFolder above name = .ok after ∧ after.IsFolderAt (above ++ [name]) ∧
      ∀ place, ¬ place <+: above ++ [name] → after.at? place = tree.at? place := by
  refine ⟨put (above ++ [name]) (.folder []) tree, ?_, ?_, ?_⟩
  · have locates := locate_of_isFolderAt aboveNamed inside
    obtain ⟨entries, stands⟩ := inside
    simp [ensureFolder, makeFolder, locates, stands, named, free, Nat.not_lt.mpr fits]
  · exact ⟨[], by simpa using at?_put_append tree above name (.folder []) []⟩
  · intro place outside
    rcases at?_put_cases inside name (.folder []) place with
      ⟨rest, rfl, later⟩ | ⟨within, _⟩ | same
    · -- Below the new folder there was nothing before.
      rw [later]
      cases rest with
      | nil => simp at outside
      | cons next rest =>
        have nothing : tree.at? (above ++ [name] ++ next :: rest) = none := by
          rw [at?_append, free]
          rfl
        simpa using nothing.symm
    · exact absurd (within.trans (List.prefix_append _ _)) outside
    · exact same

/-- A folder that is there under proper names is kept. -/
private theorem provideFrom_of_isFolderAt {path : List String} {tree : Folder}
    (named : ∀ name ∈ path, isName name = true) (inside : tree.IsFolderAt path.reverse) :
    provideFrom path tree = (.ok (), tree) := by
  have locates : tree.locate path.reverse = .ok path.reverse :=
    locate_of_isFolderAt (fun name member => named name (by simpa using member)) inside
  simpa [provide] using provide_of_isFolderAt locates inside

/-- A path with one more name does not lie on the way to the path without it. -/
private theorem concat_not_isPrefixOf (front : List String) (last : String) :
    ¬ front ++ [last] <+: front := by
  intro within
  have longer := within.length_le
  simp only [List.length_append, List.length_singleton] at longer
  omega

/-- Where only folders stand on the way, the missing ones are made and nothing else changes. -/
private theorem provideFrom_of_way {path : List String} {tree : Folder}
    (named : ∀ name ∈ path, isName name = true ∧ name.utf8ByteSize ≤ nameLimit)
    (way : ∀ front, front <+: path.reverse → ∀ entry, tree.at? front = some entry →
      entry.isFolder = true) :
    (provideFrom path tree).1 = .ok () ∧ (provideFrom path tree).2.IsFolderAt path.reverse ∧
      ∀ place, ¬ place <+: path.reverse → (provideFrom path tree).2.at? place = tree.at? place := by
  -- The induction is on the path from its end, as the folders are tried.
  induction path with
  | nil => exact ⟨rfl, isFolderAt_nil tree, fun _ _ => rfl⟩
  | cons name above ih =>
    obtain ⟨⟨isPart, fits⟩, others⟩ := List.forall_mem_cons.mp named
    have aboveNamed : ∀ name ∈ above.reverse, isName name = true ∧ name.utf8ByteSize ≤ nameLimit :=
      fun name member => others name (by simpa using member)
    have aboveParts : ∀ name ∈ above.reverse, isName name = true :=
      fun name member => (aboveNamed name member).1
    have aboveWay : ∀ front, front <+: above.reverse → ∀ entry, tree.at? front = some entry →
        entry.isFolder = true := by
      intro front within entry found
      exact way front (by simpa using within.trans (List.prefix_append _ _)) entry found
    by_cases inside : tree.IsFolderAt above.reverse
    · cases stands : tree.at? (above.reverse ++ [name]) with
      | none =>
        obtain ⟨after, ensured, reached, same⟩ :=
          ensureFolder_of_free aboveParts isPart fits inside stands
        rw [provideFrom, ensured, List.reverse_cons]
        exact ⟨rfl, reached, same⟩
      | some entry =>
        rw [List.reverse_cons] at way
        have isFolder := way _ (List.prefix_refl _) entry stands
        cases entry with
        | folder entries =>
          have reached : tree.IsFolderAt (name :: above).reverse :=
            ⟨entries, by simpa using stands⟩
          rw [provideFrom_of_isFolderAt (fun name member => (named name member).1) reached]
          exact ⟨rfl, reached, fun _ _ => rfl⟩
        | _ => simp [Entry.isFolder] at isFolder
    · -- The folders above are made first, and then this one in the last of them.
      have missing : tree.ensureFolder above.reverse name = .error .missing := by
        simp [ensureFolder, makeFolder, locate_of_missing aboveNamed aboveWay inside]
      obtain ⟨made, reached, same⟩ := ih others aboveWay
      have free : (provideFrom above tree).2.at? (above.reverse ++ [name]) = none := by
        rw [same _ (concat_not_isPrefixOf above.reverse name)]
        cases stands : tree.at? (above.reverse ++ [name]) with
        | none => rfl
        | some entry => exact absurd (isFolderAt_of_at?_append stands (by simp)) inside
      obtain ⟨after, ensured, reachedLast, sameLast⟩ :=
        ensureFolder_of_free aboveParts isPart fits reached free
      have isPair : provideFrom above tree = (.ok (), (provideFrom above tree).2) :=
        Prod.ext made rfl
      have result : provideFrom (name :: above) tree = (.ok (), after) := by
        rw [provideFrom, missing]
        dsimp only
        rw [isPair]
        dsimp only
        rw [ensured]
      rw [result, List.reverse_cons]
      refine ⟨rfl, reachedLast, fun place outside => ?_⟩
      rw [sameLast place outside]
      exact same place fun within => outside (within.trans (List.prefix_append _ _))

/-- There is a place for a file with nothing in its way. -/
theorem Unobstructed.hasPlace {tree : Folder} {path : List String} (free : tree.Unobstructed path) :
    tree.HasPlace path := by
  -- The path has a last name, and the others make up the way.
  obtain ⟨front, last, rfl⟩ : ∃ front last, path = front ++ [last] :=
    ⟨path.dropLast, path.getLast free.nonempty, (List.dropLast_concat_getLast free.nonempty).symm⟩
  have named := free.named
  have way := free.way
  have target := free.target
  rw [List.dropLast_concat] at way
  obtain ⟨namedFront, namedLast⟩ := List.forall_mem_append.mp named
  obtain ⟨isLast, fits⟩ := namedLast last (by simp)
  obtain ⟨made, reached, same⟩ := @provideFrom_of_way front.reverse tree
    (fun name member => namedFront name (by simpa using member)) (by simpa using way)
  rw [List.reverse_reverse] at reached same
  rw [HasPlace, List.dropLast_concat, provide]
  refine ⟨made, front ++ [last], ?_⟩
  -- The folders that were made lie above the file, so they do not touch its place.
  have standing := same (front ++ [last]) (concat_not_isPrefixOf front last)
  have notSlash : [last] ≠ [""] := by
    intro isSlash
    rw [List.singleton_inj.mp isSlash] at isLast
    cases isLast
  have leads := @resolve_down _ true linkLimit [] [last] front
    (fun name member => (namedFront name member).1) (fun _ => notSlash) reached
  rw [List.nil_append] at leads
  cases stands : tree.at? (front ++ [last]) with
  | none =>
    rw [stands] at standing
    rw [placeFor, leads, resolve_nothing isLast rfl standing, if_neg (by omega)]
    simp [Except.bind, standing]
  | some entry =>
    obtain ⟨bytes, rfl⟩ := target entry stands
    rw [stands] at standing
    rw [placeFor, leads, resolve_file isLast rfl standing]
    simp [Except.bind, standing]

/-! ## Larger and smaller trees -/

/-- Every file and link of a tree stands in another one too, and every folder has
a folder at its place. -/
def Within (tree larger : Folder) : Prop :=
  ∀ names entry, tree.at? names = some entry →
    if entry.isFolder then larger.IsFolderAt names else larger.at? names = some entry

/-- A larger tree holds all entries of a smaller one. -/
theorem Within.extends {tree larger : Folder} (within : tree.Within larger) :
    tree.Extends larger := by
  -- The kind of the entry decides what stands in the larger tree.
  intro names entry standing
  have there := within names entry standing
  cases entry with
  | folder entries =>
    obtain ⟨others, found⟩ : larger.IsFolderAt names := by simpa [Entry.isFolder] using there
    exact ⟨_, found, trivial⟩
  | file bytes => exact ⟨.file bytes, by simpa [Entry.isFolder] using there, trivial⟩
  | link target => exact ⟨.link target, by simpa [Entry.isFolder] using there, rfl⟩

/-- What is read in a tree is read in a larger one. -/
theorem Within.textAt? {tree larger : Folder} (within : tree.Within larger) {path : List String}
    {text : String} (read : tree.textAt? path = some text) : larger.textAt? path = some text := by
  -- The path leads to the same place in the larger tree, and the file there is the same.
  obtain ⟨bytes, found, decoded⟩ := Option.bind_eq_some_iff.mp read
  obtain ⟨place, leads, standing⟩ := bytesAt?_eq_some_iff.mp found
  have there : larger.at? place = some (.file bytes) := by
    simpa [Entry.isFolder] using within place _ standing
  rw [Folder.textAt?, bytesAt?_eq_some_iff.mpr ⟨place, within.extends.resolve leads, there⟩]
  exact decoded

/-- A tree is within itself. -/
theorem within_refl (tree : Folder) : tree.Within tree := by
  -- An entry stands where it stands.
  intro names entry standing
  cases entry with
  | folder entries => simpa [Entry.isFolder] using ⟨entries, standing⟩
  | _ => simpa [Entry.isFolder] using standing

/-- Removing an entry leaves nothing but what was there. -/
theorem within_remove (tree : Folder) (names : List String) : (remove names tree).Within tree := by
  -- The induction is on the names, along which the tree is rebuilt.
  induction names generalizing tree with
  | nil => exact within_refl tree
  | cons name names ih =>
    intro place entry standing
    -- Only what stands under the first name is touched: the entry goes, or its folder gets smaller.
    cases place with
    | nil =>
      simp only [at?_nil, Option.some.injEq] at standing
      simp [← standing, Entry.isFolder]
    | cons first place =>
      cases names with
      | nil =>
        by_cases same : first = name
        · simp [remove, Assoc.get?_erase, same] at standing
        · refine within_refl tree (first :: place) entry ?_
          simpa [remove, Assoc.get?_erase, same] using standing
      | cons next rest =>
        rw [remove] at standing
        split at standing
        · rename_i entries found
          by_cases same : first = name
          · subst same
            simp only [at?_cons, Assoc.get?_put, if_true, Option.bind_some,
              Entry.at?_folder] at standing
            simpa [IsFolderAt, found] using ih entries place entry standing
          · refine within_refl tree (first :: place) entry ?_
            simpa [Assoc.get?_put, same] using standing
        · exact within_refl tree (first :: place) entry standing
        · simp

end SourceAtlas.Folder
