import SourceAtlas.Path
import SourceAtlas.Proofs.Path.Steps

/-! Relative modules in their two ways of writing: steps with slashes, and dots in
front of dotted segments. -/

namespace SourceAtlas

/-- A segment of a dotted module. -/
structure IsSegment (segment : List Char) : Prop where
  nonempty : segment ≠ []
  undotted : '.' ∉ segment
  free : '/' ∉ segment

instance (segment : List Char) : Decidable (IsSegment segment) :=
  decidable_of_iff (segment ≠ [] ∧ '.' ∉ segment ∧ '/' ∉ segment)
    ⟨fun holds => ⟨holds.1, holds.2.1, holds.2.2⟩,
      fun fine => ⟨fine.nonempty, fine.undotted, fine.free⟩⟩

/-- Dots, then segments with a dot between each two. -/
def dottedModule (dots : Nat) (segments : List (List Char)) : List Char :=
  List.replicate dots '.' ++ List.intercalate ['.'] segments

/-- The steps that dots stand for: one dot is a step on the spot, and each further one a step up. -/
def stepsOfDots (dots : Nat) : List (List Char) :=
  if dots = 1 then [['.']] else List.replicate (dots - 1) ['.', '.']

/-- The steps that dots stand for, then segments, with a slash between each two. -/
def steppedModule (dots : Nat) (segments : List (List Char)) : List Char :=
  Path.joinParts (stepsOfDots dots ++ segments)

example : dottedModule 3 ["pkg".toList, "mod".toList] = "...pkg.mod".toList ∧
    steppedModule 3 ["pkg".toList, "mod".toList] = "../../pkg/mod".toList ∧
    dottedModule 1 [] = ".".toList ∧ steppedModule 1 [] = ".".toList ∧
    steppedModule 1 ["mod".toList] = "./mod".toList ∧
    steppedModule 4 [] = "../../..".toList := by decide

variable {source : List Char} {dots slashes : Nat} {segments front down : List (List Char)}

/-- A segment is a name: it does not start with a dot. -/
theorem IsSegment.isName {segment : List Char} (fine : IsSegment segment) :
    Path.IsName segment := by
  -- Its first character is enough to tell it from a step.
  obtain ⟨c, rest, rfl⟩ := List.exists_cons_of_ne_nil fine.nonempty
  have other : c ≠ '.' := by
    rintro rfl
    exact fine.undotted (by simp)
  exact Path.isName_of_mem (by simp) other fine.free

/-! ## Modules written with steps -/

/-- A module that starts with a step is joined to the folder of its file. -/
private theorem relativeTarget?_steps (source : List Char) {first : List Char}
    (isStep : first = ['.'] ∨ first = ['.', '.']) (rest : List (List Char)) :
    relativeTarget? source (Path.joinParts (first :: rest))
      = some (Path.normalize
          (Path.join (Path.dirName source) (Path.joinParts (first :: rest)))) := by
  -- Whether the step stands alone or not, the module starts with a dot and is read as a path.
  have written : (Path.joinParts (first :: rest)).head? = some '.' ∧
      isPathModule (Path.joinParts (first :: rest)) = true := by
    by_cases alone : rest = []
    · subst alone
      rcases isStep with rfl | rfl <;> exact ⟨rfl, rfl⟩
    · rw [Path.joinParts_cons alone]
      rcases isStep with rfl | rfl <;> exact ⟨rfl, rfl⟩
  rw [relativeTarget?, written.1, written.2]
  rfl

/-- No step has a slash in it. -/
theorem forall_free_cons {first : List Char} (isStep : first = ['.'] ∨ first = ['.', '.'])
    {rest : List (List Char)} (free : ∀ step ∈ rest, '/' ∉ step) :
    ∀ step ∈ first :: rest, '/' ∉ step := by
  -- The first step is made of dots, and the others are free of slashes already.
  refine List.forall_mem_cons.mpr ⟨?_, free⟩
  rcases isStep with rfl | rfl <;> decide

/-- A module that starts with a step goes on from the parts of the folder of its file. -/
theorem relativeTarget?_steps_rooted {source : List Char} (few : slashes ≤ 2)
    {parts : List (List Char)} (folder : Path.dirName source = Path.rooted slashes parts)
    (fine : ∀ part ∈ parts, Path.IsPart part) {first : List Char}
    (isStep : first = ['.'] ∨ first = ['.', '.']) {rest : List (List Char)}
    (free : ∀ step ∈ rest, '/' ∉ step) :
    relativeTarget? source (Path.joinParts (first :: rest))
      = some (Path.written slashes ((first :: rest).foldl (Path.pushPart (slashes != 0))
          (parts.foldl (Path.pushPart (slashes != 0)) [])).reverse) := by
  -- A step does not start with a slash, so that it is joined to the folder.
  have freeAll := forall_free_cons isStep free
  have relative : (Path.joinParts (first :: rest)).head? ≠ some '/' := by
    by_cases alone : rest = []
    · subst alone
      rcases isStep with rfl | rfl <;> decide
    · rw [Path.joinParts_cons alone]
      rcases isStep with rfl | rfl <;> simp
  rw [relativeTarget?_steps source isStep, folder, Path.normalize_join_rooted few fine relative,
    Path.splitAtChar_joinParts (by simp) freeAll]

/-! ## Modules written with dots -/

/-- The directory above some names. -/
private theorem levelsUp_rooted {levels : Nat} (fine : ∀ part ∈ front ++ down, Path.IsPart part)
    (count : down.length = levels) :
    levelsUp levels (Path.rooted slashes (front ++ down)) = Path.rooted slashes front := by
  -- Each level drops the last of the names.
  induction levels generalizing down with
  | zero =>
    rw [List.length_eq_zero_iff.mp count, List.append_nil]
    rfl
  | succ levels ih =>
    have below : down ≠ [] := List.length_pos_iff.mp (by omega)
    obtain ⟨start, name, rfl⟩ := Path.exists_concat_of_ne_nil below
    rw [← List.append_assoc] at fine ⊢
    rw [levelsUp, Path.dirName_rooted slashes fine]
    exact ih (List.forall_mem_append.mp fine).1 (by simpa using count)

/-- Segments that are joined with dots are joined with slashes once the dots are replaced. -/
private theorem map_intercalate (fine : ∀ segment ∈ segments, IsSegment segment) :
    (List.intercalate ['.'] segments).map (fun c => if c == '.' then '/' else c)
      = Path.joinParts segments := by
  -- A segment has no dot to replace.
  have same : ∀ segment, IsSegment segment →
      segment.map (fun c => if c == '.' then '/' else c) = segment := by
    intro segment isSegment
    refine (List.map_congr_left fun c inside => ?_).trans (List.map_id _)
    have other : c ≠ '.' := fun isDot => isSegment.undotted (isDot ▸ inside)
    simp [other]
  -- Only the dots between the segments are replaced.
  induction segments with
  | nil => rfl
  | cons segment segments ih =>
    obtain ⟨isSegment, others⟩ := List.forall_mem_cons.mp fine
    by_cases alone : segments = []
    · subst alone
      rw [List.intercalate_singleton, Path.joinParts_singleton, same segment isSegment]
    · obtain ⟨next, more, rfl⟩ := List.exists_cons_of_ne_nil alone
      rw [List.intercalate_cons_cons, List.map_append, List.map_append, same segment isSegment,
        ih others, Path.joinParts_cons alone, List.append_assoc]
      rfl

/-- What follows the dots of a dotted module starts with neither a dot nor a slash. -/
private theorem exists_cons_intercalate (fine : ∀ segment ∈ segments, IsSegment segment)
    (some : segments ≠ []) :
    ∃ c rest, List.intercalate ['.'] segments = c :: rest ∧ c ≠ '.' ∧ c ≠ '/' := by
  -- The first character is that of the first segment.
  obtain ⟨segment, others, rfl⟩ := List.exists_cons_of_ne_nil some
  obtain ⟨isSegment, -⟩ := List.forall_mem_cons.mp fine
  obtain ⟨c, tail, rfl⟩ := List.exists_cons_of_ne_nil isSegment.nonempty
  have undotted := isSegment.undotted
  have free := isSegment.free
  simp only [List.mem_cons, not_or] at undotted free
  cases others with
  | nil => exact ⟨c, tail, List.intercalate_singleton, Ne.symm undotted.1, Ne.symm free.1⟩
  | cons next others =>
    refine ⟨c, tail ++ ['.'] ++ List.intercalate ['.'] (next :: others), ?_, Ne.symm undotted.1,
      Ne.symm free.1⟩
    rw [List.intercalate_cons_cons]
    rfl

/-- A dotted module: dots before segments, or more dots than a step has. -/
def IsDotted (dots : Nat) (segments : List (List Char)) : Prop :=
  1 ≤ dots ∧ segments ≠ [] ∨ 3 ≤ dots

/-- A dotted module is no path: no slash follows its first dot or its second one, and there
is more than two dots. -/
theorem IsDotted.not_isPathModule (isDotted : IsDotted dots segments)
    (fine : ∀ segment ∈ segments, IsSegment segment) :
    (dottedModule dots segments).head? = some '.' ∧
      isPathModule (dottedModule dots segments) = false := by
  -- Either a segment follows the dots, or there are three of them.
  rw [dottedModule]
  rcases isDotted with ⟨positive, some⟩ | many
  · obtain ⟨c, rest, isCons, undotted, free⟩ := exists_cons_intercalate fine some
    rw [isCons]
    rcases dots with _ | _ | _ | more
    · omega
    · simp [isPathModule, startsWith, dropStart?, undotted, Ne.symm undotted, Ne.symm free]
    · simp [List.replicate_succ, isPathModule, startsWith, dropStart?, Ne.symm free]
    · simp [List.replicate_succ, isPathModule, startsWith, dropStart?]
  · obtain ⟨more, rfl⟩ : ∃ more, dots = more + 3 := ⟨dots - 3, by omega⟩
    simp [List.replicate_succ, isPathModule, startsWith, dropStart?]

/-- The dots of a dotted module end where its segments start. -/
private theorem dottedModule_cut (dots : Nat) (fine : ∀ segment ∈ segments, IsSegment segment) :
    (dottedModule dots segments).takeWhile (· == '.') = List.replicate dots '.' ∧
      (dottedModule dots segments).dropWhile (· == '.') = List.intercalate ['.'] segments := by
  -- The segments stop the dots, for the first one does not start with a dot.
  have stops : (List.intercalate ['.'] segments).takeWhile (· == '.') = [] ∧
      (List.intercalate ['.'] segments).dropWhile (· == '.') = List.intercalate ['.'] segments := by
    by_cases none : segments = []
    · simp [none]
    · obtain ⟨c, rest, isCons, undotted, -⟩ := exists_cons_intercalate fine none
      simp [isCons, undotted]
  rw [dottedModule, List.takeWhile_append_of_pos (by simp), List.dropWhile_append_of_pos (by simp),
    stops.1, stops.2, List.append_nil]
  exact ⟨rfl, rfl⟩

/-- A dotted module goes up from the folder of its file, and then along its segments. -/
private theorem relativeTarget?_dots (source : List Char)
    (fine : ∀ segment ∈ segments, IsSegment segment) (isDotted : IsDotted dots segments) :
    let base := levelsUp (dots - 1) (Path.dirName source)
    relativeTarget? source (dottedModule dots segments)
      = some (Path.normalize (if segments = [] then base
        else Path.join base (Path.joinParts segments))) := by
  intro base
  -- It is not read as a path, so its dots are counted.
  obtain ⟨dotted, notSteps⟩ := isDotted.not_isPathModule fine
  obtain ⟨taken, dropped⟩ := dottedModule_cut dots fine
  have isEmpty : (Path.joinParts segments).isEmpty = decide (segments = []) := by
    have parts :=
      Path.joinParts_eq_nil_iff fun segment inside => (fine segment inside).isName.isPart
    rw [Bool.eq_iff_iff, List.isEmpty_iff, decide_eq_true_iff, parts]
  simp only [relativeTarget?, dotted, notSteps, taken, dropped, map_intercalate fine, isEmpty,
    List.length_replicate]
  by_cases none : segments = []
  · simp [none, base]
  · simp [none, base]

/-! ## Both ways lead to the same place -/

/-- One dot or more stand for at least one step. -/
theorem exists_stepsOfDots (dots : Nat) (positive : 1 ≤ dots) :
    ∃ first rest, stepsOfDots dots = first :: rest ∧ (first = ['.'] ∨ first = ['.', '.']) ∧
      ∀ step ∈ rest, '/' ∉ step := by
  -- One dot is a step on the spot, and more are steps up.
  by_cases one : dots = 1
  · exact ⟨['.'], [], by rw [stepsOfDots, if_pos one], .inl rfl, by simp⟩
  · obtain ⟨more, rfl⟩ : ∃ more, dots = more + 2 := ⟨dots - 2, by omega⟩
    refine ⟨['.', '.'], List.replicate more ['.', '.'], ?_, .inr rfl, ?_⟩
    · rw [stepsOfDots, if_neg one]
      rfl
    · intro step member
      rw [List.eq_of_mem_replicate member]
      decide

/-- Dots that do not lead out at the top lead up over the last of some names. -/
theorem exists_append_of_dots {names : List (List Char)} (positive : 1 ≤ dots)
    (within : dots ≤ names.length + 1) :
    ∃ kept down, names = kept ++ down ∧ down.length + 1 = dots := by
  -- The names are cut where the dots lead.
  refine ⟨names.take (names.length + 1 - dots), names.drop (names.length + 1 - dots),
    (List.take_append_drop _ names).symm, ?_⟩
  rw [List.length_drop]
  omega

/-- Seen from names, dots lead up over as many of them as there are dots after the first. -/
private theorem foldl_pushPart_stepsOfDots (rooted? : Bool)
    (named : ∀ name ∈ down, Path.IsName name) (count : down.length + 1 = dots)
    (done : List (List Char)) :
    (stepsOfDots dots).foldl (Path.pushPart rooted?)
      (down.foldl (Path.pushPart rooted?) done) = done := by
  -- A single dot leads nowhere, and the other steps take the names back one by one.
  by_cases one : dots = 1
  · obtain rfl : down = [] := List.length_eq_zero_iff.mp (by omega)
    rw [stepsOfDots, if_pos one]
    rfl
  · have levels : dots - 1 = down.length := by omega
    rw [stepsOfDots, if_neg one, levels, ← List.foldl_append, Path.foldl_pushPart_back named]

/-- Where the dots lead up over names only, a dotted module goes on from the parts above these. -/
private theorem relativeTarget?_dots_rooted {source : List Char} (few : slashes ≤ 2)
    (folder : Path.dirName source = Path.rooted slashes (front ++ down))
    (fine : ∀ part ∈ front, Path.IsPart part) (named : ∀ name ∈ down, Path.IsName name)
    (count : down.length + 1 = dots) (segmented : ∀ segment ∈ segments, IsSegment segment)
    (isDotted : IsDotted dots segments) :
    relativeTarget? source (dottedModule dots segments)
      = some (Path.written slashes (segments.foldl (Path.pushPart (slashes != 0))
          (front.foldl (Path.pushPart (slashes != 0)) [])).reverse) := by
  -- The dots go up over the names below, to the parts in front.
  have up : levelsUp (dots - 1) (Path.rooted slashes (front ++ down)) = Path.rooted slashes front :=
    levelsUp_rooted (Path.forall_isPart_append fine named) (by omega)
  rw [relativeTarget?_dots source segmented isDotted, folder, up]
  by_cases none : segments = []
  · rw [if_pos none, Path.normalize_rooted few fine, none]
    rfl
  · have fineSegments : ∀ segment ∈ segments, Path.IsPart segment :=
      fun segment inside => (segmented segment inside).isName.isPart
    have relative : (Path.joinParts segments).head? ≠ some '/' := by
      simpa using Path.head?_joinParts fineSegments none []
    rw [if_neg none, Path.normalize_join_rooted few fine relative,
      Path.splitAtChar_joinParts none fun segment inside => (fineSegments segment inside).2]

/-- Where the dots lead up over names only, a dotted module denotes the same as the
steps that it stands for. -/
theorem relativeTarget?_dotted {source : List Char} (few : slashes ≤ 2)
    (folder : Path.dirName source = Path.rooted slashes (front ++ down))
    (fine : ∀ part ∈ front, Path.IsPart part) (named : ∀ name ∈ down, Path.IsName name)
    (count : down.length + 1 = dots) (segmented : ∀ segment ∈ segments, IsSegment segment) :
    relativeTarget? source (dottedModule dots segments)
      = relativeTarget? source (steppedModule dots segments) := by
  by_cases isDotted : IsDotted dots segments
  · obtain ⟨first, rest, isSteps, isStep, free⟩ := exists_stepsOfDots dots (by omega)
    have fineDown := Path.forall_isPart_append fine named
    have freeAll : ∀ step ∈ rest ++ segments, '/' ∉ step :=
      List.forall_mem_append.mpr ⟨free, fun segment inside => (segmented segment inside).free⟩
    -- The steps up take back the names below the front.
    have back :=
      foldl_pushPart_stepsOfDots (slashes != 0) named count
        (front.foldl (Path.pushPart (slashes != 0)) [])
    rw [relativeTarget?_dots_rooted few folder fine named count segmented isDotted, steppedModule,
      isSteps, List.cons_append, relativeTarget?_steps_rooted few folder fineDown isStep freeAll,
      ← List.cons_append, ← isSteps, List.foldl_append, List.foldl_append, back]
  · -- One or two dots alone are steps.
    have same : dottedModule dots segments = steppedModule dots segments := by
      simp only [IsDotted, not_or, not_and, ne_eq, Decidable.not_not] at isDotted
      obtain rfl : segments = [] := isDotted.1 (by omega)
      obtain rfl | rfl : dots = 1 ∨ dots = 2 := by omega
      · rfl
      · rfl
    rw [same]

/-- Seen from a file whose folder is written in normal form, a dotted module denotes the same place
as the steps that it stands for, as long as its dots do not lead up over more names than there are
on the way to the folder. -/
theorem dottedModule_agrees (source : List Char) (dots : Nat) (segments : List (List Char))
    (normal : Path.IsNormal (Path.dirName source)) (positive : 1 ≤ dots)
    (within : dots ≤ (Path.namesOf (Path.dirName source)).length + 1)
    (segmented : ∀ segment ∈ segments, IsSegment segment) :
    ∃ path, relativeTarget? source (dottedModule dots segments) = some path ∧
      relativeTarget? source (steppedModule dots segments) = some path := by
  obtain ⟨slashes, front, few, folder, fine, named⟩ := normal.exists_rooted
  generalize Path.namesOf (Path.dirName source) = names at *
  -- The last names are those that the dots lead up over.
  obtain ⟨kept, down, rfl, count⟩ := exists_append_of_dots positive within
  obtain ⟨namedKept, namedDown⟩ := List.forall_mem_append.mp named
  rw [← List.append_assoc] at folder
  have same :=
    relativeTarget?_dotted few folder (Path.forall_isPart_append fine namedKept) namedDown
      count segmented
  -- Steps always denote a place.
  obtain ⟨first, rest, isSteps, isStep, -⟩ := exists_stepsOfDots dots positive
  have stepped := relativeTarget?_steps source isStep (rest ++ segments)
  rw [← List.cons_append, ← isSteps] at stepped
  exact ⟨_, same.trans stepped, stepped⟩

/-- Two levels up from a folder two levels down is the top, whichever way it is written,
with and without segments. -/
theorem dottedModule_agrees_at_top :
    let source := "a/b/x.py".toList
    (∃ path, relativeTarget? source "...m.n".toList = some path ∧
        relativeTarget? source "../../m/n".toList = some path) ∧
      (∃ path, relativeTarget? source "...".toList = some path ∧
        relativeTarget? source "../..".toList = some path) ∧
      relativeTarget? source "...m.n".toList = some "m/n".toList ∧
      relativeTarget? source "...".toList = some ".".toList := by
  -- The folder has two names, which three dots lead up over.
  intro source
  have normal : Path.IsNormal (Path.dirName source) := .inr (by decide)
  have within : 3 ≤ (Path.namesOf (Path.dirName source)).length + 1 := by decide
  exact ⟨dottedModule_agrees source 3 ["m".toList, "n".toList] normal (by decide) within
      (by decide),
    dottedModule_agrees source 3 [] normal (by decide) within (by decide), by decide, by decide⟩

end SourceAtlas
