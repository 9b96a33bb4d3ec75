import SourceAtlas.Proofs.FileTree.Places

/-! Following a path step by step: where it leads, and what stops it. -/

namespace SourceAtlas.Folder

variable {tree : Folder} {make : Bool} {links crossed : Nat} {part target : String}
  {names parts rest place ends ahead : List String}

/-- A name is a part that is no step. -/
theorem isName_iff : isName part = true ↔ isStay part = false ∧ part ≠ ".." := by
  simp [isName]

/-! ## One step -/

/-- What is done at a link when so many more may be followed. -/
def follower (tree : Folder) (make : Bool) :
    Nat → List String → List String → Except FileFault (List String)
  | 0 => fun _ _ => .error .tooManyLinks
  | links + 1 => tree.resolve make links

/-- Where the path of a link in a folder starts. -/
def linkStart (folder : List String) (target : String) : List String :=
  if target.startsWith "/" then [] else folder

/-- The way to a place goes on from folder to folder, and stops at the first link. -/
private theorem resolve_eq (tree : Folder) (make : Bool) (links : Nat) :
    tree.resolve make links = tree.resolveWith make (tree.follower make links) := by
  -- With no link left and with some left, the definition is the same but for what a link leads to.
  cases links <;> rfl

/-- A path without parts ends where it starts. -/
@[simp] theorem resolve_nil : tree.resolve make links names [] = .ok names := by
  rw [resolve_eq, resolveWith]

/-- A step on the spot is left out. -/
theorem resolve_stay (idle : isStay part = true) :
    tree.resolve make links names (part :: rest) = tree.resolve make links names rest := by
  rw [resolve_eq, resolveWith, if_pos idle]

/-- Two dots go to the folder above. -/
@[simp] theorem resolve_up :
    tree.resolve make links names (".." :: rest) = tree.resolve make links names.dropLast rest := by
  -- Two dots are no step on the spot.
  rw [resolve_eq, resolveWith, if_neg (by decide), if_pos (by decide)]

section Named

variable (named : isName part = true) (opens : (make && rest == [""]) = false)

include named opens

/-- A name of a folder is entered. -/
theorem resolve_folder (stands : tree.IsFolderAt (names ++ [part])) :
    tree.resolve make links names (part :: rest)
      = tree.resolve make links (names ++ [part]) rest := by
  -- The tests before the entry is looked at all fail.
  obtain ⟨entries, stands⟩ := stands
  rw [resolve_eq, resolveWith]
  simp [isName_iff.mp named, opens, stands]

/-- A file ends the path, and nothing follows it. -/
theorem resolve_file {bytes : ByteArray}
    (stands : tree.at? (names ++ [part]) = some (.file bytes)) :
    tree.resolve make links names (part :: rest)
      = if rest.isEmpty then .ok (names ++ [part]) else .error .throughFile := by
  -- A name that is no step is looked up, and the entry decides.
  rw [resolve_eq, resolveWith]
  simp [isName_iff.mp named, opens, stands]

/-- A link is followed from where it starts, before the rest of the path. -/
theorem resolve_link (stands : tree.at? (names ++ [part]) = some (.link target)) :
    tree.resolve make links names (part :: rest)
      = tree.follower make links (linkStart names target) (linkParts target ++ rest) := by
  -- A name that is no step is looked up, and the entry decides.
  rw [resolve_eq, resolveWith]
  simp [isName_iff.mp named, opens, stands, linkStart]

/-- Where nothing stands, a path that makes its end may end. -/
theorem resolve_nothing (stands : tree.at? (names ++ [part]) = none) :
    tree.resolve make links names (part :: rest)
      = if nameLimit < part.utf8ByteSize then .error .tooLong
        else if make && rest.isEmpty then .ok (names ++ [part])
        else .error .missing := by
  -- A name that is no step is looked up, and nothing is found.
  rw [resolve_eq, resolveWith]
  simp [isName_iff.mp named, opens, stands]

end Named

/-- The start of the path of a link is the top or the folder of the link. -/
theorem IsFolderAt.linkStart (inside : tree.IsFolderAt names) (target : String) :
    tree.IsFolderAt (linkStart names target) := by
  -- An absolute link starts at the top.
  unfold Folder.linkStart
  split
  · exact isFolderAt_nil tree
  · exact inside

/-! ## The way to a place -/

/-- Induction along the way to a place: it ends, stays, goes up, enters a folder, ends at a file,
follows a link, or ends at a new name. -/
theorem resolve_induction {motive : Nat → List String → List String → List String → Prop}
    (done : ∀ links names, motive links names [] names)
    (stay : ∀ links names part rest place, isStay part = true → motive links names rest place →
      motive links names (part :: rest) place)
    (up : ∀ links names rest place, motive links names.dropLast rest place →
      motive links names (".." :: rest) place)
    (enter : ∀ links names part rest place, isName part = true → (make && rest == [""]) = false →
      tree.IsFolderAt (names ++ [part]) → motive links (names ++ [part]) rest place →
      motive links names (part :: rest) place)
    (file : ∀ links names part bytes, isName part = true →
      tree.at? (names ++ [part]) = some (.file bytes) → motive links names [part] (names ++ [part]))
    (follow : ∀ links names part rest place target, isName part = true →
      (make && rest == [""]) = false → tree.at? (names ++ [part]) = some (.link target) →
      motive links (linkStart names target) (linkParts target ++ rest) place →
      motive (links + 1) names (part :: rest) place)
    (new : ∀ links names part, make = true → isName part = true →
      tree.at? (names ++ [part]) = none → part.utf8ByteSize ≤ nameLimit →
      motive links names [part] (names ++ [part]))
    (found : tree.resolve make links names parts = .ok place) : motive links names parts place := by
  -- A link that is followed makes the path longer, so the induction is on the
  -- number of links first.
  induction links using Nat.strongRecOn generalizing names parts with
  | ind links followed =>
    induction parts generalizing names with
    | nil =>
      rw [resolve_nil, Except.ok.injEq] at found
      exact found ▸ done links names
    | cons part rest ih =>
      by_cases idle : isStay part = true
      · rw [resolve_stay idle] at found
        exact stay links names part rest place idle (ih found)
      · by_cases isUp : part = ".."
        · subst isUp
          rw [resolve_up] at found
          exact up links names rest place (ih found)
        · have named : isName part = true := isName_iff.mpr ⟨by simpa using idle, isUp⟩
          by_cases opens : (make && rest == [""]) = true
          · -- A slash after the last name asks for a folder.
            have isUp : (part == "..") = false := by simpa using isUp
            rw [resolve_eq, resolveWith] at found
            simp only [idle, isUp, opens, Bool.false_eq_true, if_false, if_true] at found
            cases found
          · have opens : (make && rest == [""]) = false := by simpa using opens
            cases stands : tree.at? (names ++ [part]) with
            | none =>
              rw [resolve_nothing named opens stands] at found
              split at found
              · cases found
              · rename_i fits
                split at found
                · rename_i ends
                  simp only [Bool.and_eq_true, List.isEmpty_iff] at ends
                  obtain ⟨makes, rfl⟩ := ends
                  cases found
                  exact new links names part makes named stands (by omega)
                · cases found
            | some entry =>
              cases entry with
              | folder entries =>
                rw [resolve_folder named opens ⟨entries, stands⟩] at found
                exact enter links names part rest place named opens ⟨entries, stands⟩ (ih found)
              | file bytes =>
                rw [resolve_file named opens stands] at found
                split at found
                · rename_i ends
                  obtain rfl := List.isEmpty_iff.mp ends
                  cases found
                  exact file links names part bytes named stands
                · cases found
              | link target =>
                rw [resolve_link named opens stands] at found
                cases links with
                | zero => cases found
                | succ links =>
                  exact follow links names part rest place target named opens stands
                    (followed links (by omega) found)

/-- A path that leads somewhere leads to the same place in a larger tree. -/
theorem Extends.resolve {larger : Folder} (extends_ : tree.Extends larger)
    (found : tree.resolve false links names parts = .ok place) :
    larger.resolve false links names parts = .ok place := by
  -- Every entry on the way has one of its kind in the larger tree, which sends
  -- the path the same way.
  refine resolve_induction
    (motive := fun links names parts place => larger.resolve false links names parts = .ok place)
    ?_ ?_ ?_ ?_ ?_ ?_ ?_ found
  · intro links names
    exact resolve_nil
  · intro links names part rest place idle ih
    rw [resolve_stay idle, ih]
  · intro links names rest place ih
    rw [resolve_up, ih]
  · intro links names part rest place named opens inside ih
    rw [resolve_folder named opens (extends_.isFolderAt inside), ih]
  · intro links names part bytes named stands
    obtain ⟨other, there⟩ := extends_.file stands
    rw [resolve_file named (by simp) there]
    rfl
  · intro links names part rest place target named opens stands ih
    rw [resolve_link named opens (extends_.link stands)]
    exact ih
  · intro links names part makes
    cases makes

/-- A path that leads somewhere leads, all but its end, to a folder, and its
end leads on from there. -/
theorem resolve_append (inside : tree.IsFolderAt names) (more : rest ≠ [])
    (found : tree.resolve false links names (parts ++ rest) = .ok place) :
    ∃ left middle, tree.resolve false links names parts = .ok middle ∧ tree.IsFolderAt middle ∧
      tree.resolve false left middle rest = .ok place := by
  -- The induction is on the links, and then on the parts in front.
  induction links using Nat.strongRecOn generalizing names parts with
  | ind links followed =>
    induction parts generalizing names with
    | nil => exact ⟨links, names, resolve_nil, inside, found⟩
    | cons part parts ih =>
      rw [List.cons_append] at found
      by_cases idle : isStay part = true
      · rw [resolve_stay idle] at found ⊢
        exact ih inside found
      · by_cases isUp : part = ".."
        · subst isUp
          rw [resolve_up] at found ⊢
          exact ih inside.dropLast found
        · have named : isName part = true := isName_iff.mpr ⟨by simpa using idle, isUp⟩
          cases stands : tree.at? (names ++ [part]) with
          | none =>
            rw [resolve_nothing named rfl stands] at found
            split at found <;> cases found
          | some entry =>
            cases entry with
            | folder entries =>
              rw [resolve_folder named rfl ⟨entries, stands⟩] at found ⊢
              exact ih ⟨entries, stands⟩ found
            | file bytes =>
              -- Behind a file the path does not go on.
              rw [resolve_file named rfl stands, if_neg (by simp [more])] at found
              cases found
            | link target =>
              rw [resolve_link named rfl stands] at found ⊢
              cases links with
              | zero => cases found
              | succ links =>
                rw [← List.append_assoc] at found
                exact followed links (by omega) (inside.linkStart target) found

/-- Names of folders lead down to the last of them. -/
theorem resolve_down {down : List String} (named : ∀ name ∈ down, isName name = true)
    (opens : make = true → rest ≠ [""]) (inside : tree.IsFolderAt (names ++ down)) :
    tree.resolve make links names (down ++ rest)
      = tree.resolve make links (names ++ down) rest := by
  -- One name after the other is entered, and a path that starts with a name is not a slash.
  induction down generalizing names with
  | nil => simp
  | cons name down ih =>
    obtain ⟨isPart, others⟩ := List.forall_mem_cons.mp named
    rw [List.append_cons] at inside ⊢
    have first := inside.of_prefix (List.prefix_append (names ++ [name]) down)
    have open_ : (make && down ++ rest == [""]) = false := by
      cases make with
      | false => rfl
      | true =>
        simp only [Bool.true_and, beq_eq_false_iff_ne]
        intro same
        cases down with
        | nil => exact opens rfl (by simpa using same)
        | cons next down =>
          rw [List.cons_append, List.cons.injEq] at same
          have isNext := others next (by simp)
          rw [same.1] at isNext
          cases isNext
    rw [List.cons_append, resolve_folder isPart open_ first, ih others inside]

/-- A folder is found under the names that lead to it. -/
theorem locate_of_isFolderAt {path : List String} (named : ∀ name ∈ path, isName name = true)
    (inside : tree.IsFolderAt path) : tree.locate path = .ok path := by
  -- A path that ends with its names has nothing more to go.
  have down := @resolve_down tree false linkLimit [] [] path named (by simp) inside
  simpa [locate] using down

/-- A path of proper names leads to the file that stands there. -/
theorem locate_of_file {path : List String} {bytes : ByteArray}
    (named : ∀ name ∈ path, isName name = true) (stands : tree.at? path = some (.file bytes)) :
    tree.locate path = .ok path := by
  have nonempty : path ≠ [] := by
    rintro rfl
    simp at stands
  obtain ⟨front, last, rfl⟩ : ∃ front last, path = front ++ [last] :=
    ⟨path.dropLast, path.getLast nonempty, (List.dropLast_concat_getLast nonempty).symm⟩
  obtain ⟨namedFront, namedLast⟩ := List.forall_mem_append.mp named
  -- The names before the last lead down to the folder, and there the file stands.
  have folder : tree.IsFolderAt ([] ++ front) := isFolderAt_of_at?_append stands (by simp)
  have down := @resolve_down _ false linkLimit [] [last] front namedFront (by simp) folder
  rw [locate, down, List.nil_append, resolve_file (namedLast last (by simp)) rfl stands]
  rfl

/-! ## The whole way -/

/-- From some names, a path leads on to other names with a rest of the path still ahead,
over a number of links. -/
inductive Leads (tree : Folder) (ends ahead : List String) : Nat → List String → List String → Prop
  | here : Leads tree ends ahead 0 ends ahead
  | stay {links : Nat} {names rest : List String} {part : String} (idle : isStay part = true)
      (next : Leads tree ends ahead links names rest) :
      Leads tree ends ahead links names (part :: rest)
  /-- Above the top there is nothing but the top. -/
  | up {links : Nat} {names rest : List String}
      (next : Leads tree ends ahead links names.dropLast rest) :
      Leads tree ends ahead links names (".." :: rest)
  | down {links : Nat} {names rest : List String} {part : String} (named : isName part = true)
      (stands : tree.IsFolderAt (names ++ [part]))
      (next : Leads tree ends ahead links (names ++ [part]) rest) :
      Leads tree ends ahead links names (part :: rest)
  | follow {links : Nat} {names rest : List String} {part target : String}
      (named : isName part = true)
      (stands : tree.at? (names ++ [part]) = some (.link target))
      (next : Leads tree ends ahead links (linkStart names target) (linkParts target ++ rest)) :
      Leads tree ends ahead (links + 1) names (part :: rest)

/-- Where a path that may lead over some more links stops, and what comes of it. -/
inductive Halts (tree : Folder) :
    Nat → List String → List String → Except FileFault (List String) → Prop
  | atEnd {links : Nat} {names : List String} : Halts tree links names [] (.ok names)
  | atFile {links : Nat} {names : List String} {part : String} {bytes : ByteArray}
      (named : isName part = true) (stands : tree.at? (names ++ [part]) = some (.file bytes)) :
      Halts tree links names [part] (.ok (names ++ [part]))
  | behindFile {links : Nat} {names rest : List String} {part next : String} {bytes : ByteArray}
      (named : isName part = true) (stands : tree.at? (names ++ [part]) = some (.file bytes)) :
      Halts tree links names (part :: next :: rest) (.error .throughFile)
  | atNothing {links : Nat} {names rest : List String} {part : String} (named : isName part = true)
      (stands : tree.at? (names ++ [part]) = none) (fits : part.utf8ByteSize ≤ nameLimit) :
      Halts tree links names (part :: rest) (.error .missing)
  | atLongName {links : Nat} {names rest : List String} {part : String} (named : isName part = true)
      (stands : tree.at? (names ++ [part]) = none) (long : nameLimit < part.utf8ByteSize) :
      Halts tree links names (part :: rest) (.error .tooLong)
  | atLink {names rest : List String} {part target : String} (named : isName part = true)
      (stands : tree.at? (names ++ [part]) = some (.link target)) :
      Halts tree 0 names (part :: rest) (.error .tooManyLinks)

/-- A path that leads on to where another one starts leads as far as that. -/
private theorem Leads.trans {more : Nat} {middle between : List String}
    (leads : Leads tree middle between crossed names parts)
    (next : Leads tree ends ahead more middle between) :
    Leads tree ends ahead (more + crossed) names parts := by
  -- The links on the first way are counted behind those on the second.
  induction leads with
  | here => exact next
  | stay idle _ ih => exact .stay idle ih
  | up _ ih => exact .up ih
  | down named stands _ ih => exact .down named stands ih
  | follow named stands _ ih => exact .follow named stands ih

/-- Where a path leads on, nothing else is found than there, and the links
on the way are used up. -/
private theorem Leads.resolve (leads : Leads tree ends ahead crossed names parts) (links : Nat) :
    tree.resolve false (links + crossed) names parts = tree.resolve false links ends ahead := by
  -- Each step is one that is made on the way to a place.
  induction leads with
  | here => rfl
  | stay idle _ ih => rw [resolve_stay idle, ih]
  | up _ ih => rw [resolve_up, ih]
  | down named stands _ ih => rw [resolve_folder named rfl stands, ih]
  | follow named stands _ ih =>
    rw [resolve_link named rfl stands]
    exact ih

/-- A path that leads over more links than may be followed leads nowhere. -/
private theorem Leads.tooManyLinks (leads : Leads tree ends ahead crossed names parts)
    (more : links < crossed) : tree.resolve false links names parts = .error .tooManyLinks := by
  -- A link needs one that is left.
  induction leads generalizing links with
  | here => omega
  | stay idle _ ih => rw [resolve_stay idle, ih more]
  | up _ ih => rw [resolve_up, ih more]
  | down named stands _ ih => rw [resolve_folder named rfl stands, ih more]
  | follow named stands _ ih =>
    rw [resolve_link named rfl stands]
    -- The last link that may be followed stops here, any other one leads on.
    cases links with
    | zero => rfl
    | succ links => exact ih (by omega)

/-- A path that starts in a folder goes from folder to folder. -/
private theorem Leads.isFolderAt (leads : Leads tree ends ahead crossed names parts)
    (inside : tree.IsFolderAt names) : tree.IsFolderAt ends := by
  -- Only folders are entered, and links start in folders.
  induction leads with
  | here => exact inside
  | stay _ _ ih => exact ih inside
  | up _ ih => exact ih inside.dropLast
  | down _ stands _ ih => exact ih stands
  | follow _ _ _ ih => exact ih (inside.linkStart _)

/-- Every path leads on until something stops it. -/
private theorem exists_halts (tree : Folder) (links : Nat) (names parts : List String) :
    ∃ crossed ends ahead, crossed ≤ links ∧ Leads tree ends ahead crossed names parts ∧
      Halts tree (links - crossed) ends ahead (tree.resolve false links names parts) := by
  -- A link that is followed lengthens the path, so the induction is on the number of links first.
  induction links using Nat.strongRecOn generalizing names parts with
  | ind links followed =>
    induction parts generalizing names with
    | nil => exact ⟨0, names, [], by omega, .here, by simpa using .atEnd⟩
    | cons part rest ih =>
      by_cases idle : isStay part = true
      · obtain ⟨crossed, ends, ahead, fits, leads, halts⟩ := ih names
        exact ⟨crossed, ends, ahead, fits, .stay idle leads, by rwa [resolve_stay idle]⟩
      · by_cases isUp : part = ".."
        · subst isUp
          obtain ⟨crossed, ends, ahead, fits, leads, halts⟩ := ih names.dropLast
          exact ⟨crossed, ends, ahead, fits, .up leads, by rwa [resolve_up]⟩
        · -- A part that is neither is a name, and what stands under it decides.
          have named : isName part = true := isName_iff.mpr ⟨by simpa using idle, isUp⟩
          cases stands : tree.at? (names ++ [part]) with
          | none =>
            refine ⟨0, names, _, by omega, .here, ?_⟩
            rw [resolve_nothing named rfl stands]
            split
            · rename_i long
              exact .atLongName named stands long
            · exact .atNothing named stands (by omega)
          | some entry =>
            cases entry with
            | folder entries =>
              obtain ⟨crossed, ends, ahead, fits, leads, halts⟩ := ih (names ++ [part])
              exact ⟨crossed, ends, ahead, fits, .down named ⟨entries, stands⟩ leads,
                by rwa [resolve_folder named rfl ⟨entries, stands⟩]⟩
            | file bytes =>
              refine ⟨0, names, _, by omega, .here, ?_⟩
              rw [resolve_file named rfl stands]
              cases rest with
              | nil => exact .atFile named stands
              | cons next rest => exact .behindFile named stands
            | link target =>
              rw [resolve_link named rfl stands]
              cases links with
              | zero => exact ⟨0, names, _, by omega, .here, .atLink named stands⟩
              | succ links =>
                obtain ⟨crossed, ends, ahead, fits, leads, halts⟩ :=
                  followed links (by omega) (linkStart names target) (linkParts target ++ rest)
                refine ⟨crossed + 1, ends, ahead, by omega, .follow named stands leads, ?_⟩
                rwa [Nat.succ_sub_succ]

/-! ## Files and links to them -/

/-- A path leads from the top to a file with some bytes, over few enough links. -/
def Gives (tree : Folder) (path : List String) (bytes : ByteArray) : Prop :=
  ∃ crossed ends part, crossed ≤ linkLimit ∧ Leads tree ends [part] crossed [] path ∧
    isName part = true ∧ tree.at? (ends ++ [part]) = some (.file bytes)

/-- Why a path from the top cannot be followed: it goes on behind a file, or over too many links, or
to a name that is too long. -/
inductive Misleads (tree : Folder) (path : List String) : FileFault → Prop
  | throughFile {part next : String} {crossed : Nat} {ends rest : List String} {bytes : ByteArray}
      (few : crossed ≤ linkLimit) (leads : Leads tree ends (part :: next :: rest) crossed [] path)
      (named : isName part = true) (stands : tree.at? (ends ++ [part]) = some (.file bytes)) :
      Misleads tree path .throughFile
  | tooManyLinks {ends ahead : List String}
      (leads : Leads tree ends ahead (linkLimit + 1) [] path) :
      Misleads tree path .tooManyLinks
  | tooLong {part : String} {crossed : Nat} {ends rest : List String} (few : crossed ≤ linkLimit)
      (leads : Leads tree ends (part :: rest) crossed [] path) (named : isName part = true)
      (stands : tree.at? (ends ++ [part]) = none) (long : nameLimit < part.utf8ByteSize) :
      Misleads tree path .tooLong

variable {path : List String}

/-- A file is found at the place of its path. -/
theorem fileAt_eq_some_iff {bytes : ByteArray} : tree.fileAt path = .ok (some bytes) ↔
    ∃ place, tree.locate path = .ok place ∧ tree.at? place = some (.file bytes) := by
  -- A missing entry is no fault, and a folder is no file.
  unfold fileAt
  cases found : tree.locate path with
  | error fault => cases fault <;> simp
  | ok place =>
    cases stands : tree.at? place with
    | none => simp [stands]
    | some entry => cases entry <;> simp [stands]

/-- Only a missing entry is no fault. -/
theorem fileAt_eq_error_iff {fault : FileFault} : tree.fileAt path = .error fault ↔
    tree.locate path = .error fault ∧ fault ≠ .missing := by
  unfold fileAt
  cases found : tree.locate path with
  | error other =>
    -- Of all faults only a missing entry is none.
    cases other <;> simp [eq_comm] <;> rintro rfl <;> simp
  | ok place =>
    cases stands : tree.at? place with
    | none => simp [stands]
    | some entry => cases entry <;> simp [stands]

/-- The bytes at a path are those of the file at its place. -/
theorem bytesAt?_eq_some_iff {bytes : ByteArray} : tree.bytesAt? path = some bytes ↔
    ∃ place, tree.locate path = .ok place ∧ tree.at? place = some (.file bytes) := by
  -- A fault gives no bytes either.
  rw [← fileAt_eq_some_iff, bytesAt?]
  cases tree.fileAt path with
  | error fault => simp [Except.toOption]
  | ok found => simp [Except.toOption]

/-- A file is found exactly where a path leads to one. -/
theorem fileAt_eq_some_iff_gives {bytes : ByteArray} :
    tree.fileAt path = .ok (some bytes) ↔ tree.Gives path bytes := by
  -- The path goes on until it halts, and of the ways to halt one is at a file.
  rw [fileAt_eq_some_iff, locate]
  constructor
  · rintro ⟨place, found, stands⟩
    obtain ⟨crossed, ends, ahead, few, leads, halts⟩ := tree.exists_halts linkLimit [] path
    rw [found] at halts
    generalize linkLimit - crossed = left at halts
    cases halts with
    | atEnd =>
      -- Where the path ends without a file there is a folder.
      obtain ⟨entries, isFolder⟩ := leads.isFolderAt (isFolderAt_nil tree)
      rw [isFolder] at stands
      cases stands
    | atFile named there =>
      cases there.symm.trans stands
      exact ⟨crossed, ends, _, few, leads, named, stands⟩
  · rintro ⟨crossed, ends, part, few, leads, named, stands⟩
    refine ⟨ends ++ [part], ?_, stands⟩
    rw [← Nat.sub_add_cancel few, leads.resolve, resolve_file named rfl stands]
    rfl

/-- A path fails exactly where it cannot be followed. -/
theorem fileAt_eq_error_iff_misleads {fault : FileFault} :
    tree.fileAt path = .error fault ↔ tree.Misleads path fault := by
  -- Each fault comes from one way to halt.
  rw [fileAt_eq_error_iff, locate]
  constructor
  · rintro ⟨fails, present⟩
    obtain ⟨crossed, ends, ahead, few, leads, halts⟩ := tree.exists_halts linkLimit [] path
    rw [fails] at halts
    generalize isLeft : linkLimit - crossed = left at halts
    cases halts with
    | behindFile named stands => exact .throughFile few leads named stands
    | atNothing => exact absurd rfl present
    | atLongName named stands long => exact .tooLong few leads named stands long
    | atLink named stands =>
      -- All links are used up, and the one that stops the path is one more.
      have all : 0 + 1 + crossed = linkLimit + 1 := by omega
      exact .tooManyLinks (all ▸ leads.trans (.follow named stands .here))
  · intro misleads
    cases misleads with
    | throughFile few leads named stands =>
      refine ⟨?_, by simp⟩
      rw [← Nat.sub_add_cancel few, leads.resolve, resolve_file named rfl stands]
      rfl
    | tooManyLinks leads => exact ⟨leads.tooManyLinks (by omega), by simp⟩
    | tooLong few leads named stands long =>
      refine ⟨?_, by simp⟩
      rw [← Nat.sub_add_cancel few, leads.resolve, resolve_nothing named rfl stands, if_pos long]

end SourceAtlas.Folder
