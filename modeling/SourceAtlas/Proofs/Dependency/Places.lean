import SourceAtlas.Proofs.Dependency.Relative

/-! The places in a project that relative modules denote, seen from the files that ask for them. -/

namespace SourceAtlas

/-- A relative module denotes a place, both given by the names on the way from the top:
its steps lead there from the folder of its file, or the steps that its dots stand for
and then its segments do. -/
inductive Denotes (folders place : List (List Char)) : List Char → Prop where
  | steps {first : List Char} {rest : List (List Char)}
      (isStep : first = ['.'] ∨ first = ['.', '.']) (free : ∀ step ∈ rest, '/' ∉ step)
      (leads : Path.follow folders (first :: rest) = some place) :
      Denotes folders place (Path.joinParts (first :: rest))
  | dots {dots : Nat} {segments : List (List Char)} (positive : 1 ≤ dots)
      (segmented : ∀ segment ∈ segments, IsSegment segment)
      (leads : Path.follow folders (stepsOfDots dots ++ segments) = some place) :
      Denotes folders place (dottedModule dots segments)

variable {source moduleName : List Char} {folders place front steps : List (List Char)} {dots : Nat}

/-! ## Where dots lead -/

/-- From below some folders, dots lead up to them. -/
theorem follow_stepsOfDots {down : List (List Char)} (count : down.length + 1 = dots)
    (steps : List (List Char)) :
    Path.follow (front ++ down) (stepsOfDots dots ++ steps) = Path.follow front steps := by
  -- A single dot and several dots are read in two ways.
  by_cases one : dots = 1
  · -- A single dot stays where it is.
    obtain rfl : down = [] := List.length_eq_zero_iff.mp (by omega)
    rw [stepsOfDots, if_pos one, List.append_nil, List.singleton_append, Path.follow,
      if_pos (.inr rfl)]
  · rw [stepsOfDots, if_neg one]
    exact Path.follow_up (by omega) steps

/-- Dots that lead somewhere lead up over names that are there. -/
private theorem exists_down_of_follow (positive : 1 ≤ dots)
    (leads : Path.follow folders (stepsOfDots dots ++ steps) = some place) :
    ∃ front down, folders = front ++ down ∧ down.length + 1 = dots := by
  -- Each dot after the first goes up one level, and above the top there is nowhere to go.
  have enough : dots ≤ folders.length + 1 := by
    by_cases one : dots = 1
    · omega
    · rw [stepsOfDots, if_neg one] at leads
      have levels := Path.le_of_follow_up leads
      omega
  exact exists_append_of_dots positive enough

/-! ## What a relative module denotes -/

/-- The folder of a plain path is made of the names before the last. -/
private theorem dirName_of_isPlain (plain : Path.IsPlain source) :
    Path.dirName source = Path.rooted 0 (Path.foldersOf source) ∧
      ∀ name ∈ Path.foldersOf source, Path.IsName name := by
  -- A plain path has a last name, and what stands before it is its folder.
  obtain ⟨name, named, whole⟩ := plain.exists_name
  have folder := Path.dirName_rooted 0 fun part inside => (named part inside).isPart
  refine ⟨?_, (List.forall_mem_append.mp named).1⟩
  rw [← folder]
  exact congrArg Path.dirName whole

/-- Steps that lead to a place denote it. -/
theorem relativeTarget?_of_follow (plain : Path.IsPlain source) {first : List Char}
    (isStep : first = ['.'] ∨ first = ['.', '.']) {rest : List (List Char)}
    (free : ∀ step ∈ rest, '/' ∉ step)
    (leads : Path.follow (Path.foldersOf source) (first :: rest) = some place) :
    relativeTarget? source (Path.joinParts (first :: rest)) = some (Path.written 0 place) ∧
      ∀ name ∈ place, Path.IsName name := by
  -- The folder of the file and the steps are read one after the other.
  obtain ⟨folder, named⟩ := dirName_of_isPlain plain
  have freeAll := forall_free_cons isStep free
  have fine : ∀ name ∈ Path.foldersOf source, Path.IsPart name :=
    fun name inside => (named name inside).isPart
  obtain ⟨kept, isPlace⟩ := @Path.foldl_pushPart_of_follow false _ _ _ named freeAll leads
  refine ⟨?_, isPlace⟩
  -- The names of the folder are put down one after the other, and the steps go on from there.
  have written := relativeTarget?_steps_rooted (by omega) folder fine isStep free
  rw [Path.foldl_pushPart_names named, List.append_nil] at written
  rw [written]
  exact congrArg (fun parts => some (Path.written 0 parts))
    (by rw [← List.reverse_reverse place, ← kept]; rfl)

/-- A module denotes the place that it leads to, which is written as a path from the top. -/
theorem Denotes.relativeTarget?_eq (denotes : Denotes (Path.foldersOf source) place moduleName)
    (plain : Path.IsPlain source) :
    relativeTarget? source moduleName = some (Path.written 0 place) ∧
      ∀ name ∈ place, Path.IsName name := by
  -- Steps are read as they are, and dots are first turned into steps.
  cases denotes with
  | steps isStep free leads => exact relativeTarget?_of_follow plain isStep free leads
  | dots positive segmented leads =>
    obtain ⟨folder, named⟩ := dirName_of_isPlain plain
    obtain ⟨front, down, isFolders, count⟩ := exists_down_of_follow positive leads
    rw [isFolders] at folder named
    obtain ⟨namedFront, namedDown⟩ := List.forall_mem_append.mp named
    -- The dots are read as steps, and the steps as any others.
    rw [relativeTarget?_dotted (by omega) folder
      (fun name inside => (namedFront name inside).isPart) namedDown count segmented,
      steppedModule]
    obtain ⟨first, rest, isSteps, isStep, free⟩ := exists_stepsOfDots _ positive
    rw [isSteps, List.cons_append] at leads ⊢
    refine relativeTarget?_of_follow plain isStep ?_ leads
    exact List.forall_mem_append.mpr ⟨free, fun segment inside => (segmented segment inside).free⟩

/-- The folder some levels up is denoted by as many steps up, with and without a slash at the end,
and by one more dot than there are levels. -/
theorem denotes_above (front down : List (List Char)) :
    Denotes (front ++ down) front (Path.joinParts (stepsOfDots (down.length + 1))) ∧
      Denotes (front ++ down) front (Path.joinParts (stepsOfDots (down.length + 1) ++ [[]])) ∧
      Denotes (front ++ down) front (dottedModule (down.length + 1) []) := by
  -- The dots are steps, of which the first shows that the module is relative.
  obtain ⟨first, rest, isSteps, isStep, free⟩ := exists_stepsOfDots (down.length + 1) (by omega)
  -- Steps up over the names below lead to the folder, whatever follows.
  have up : ∀ steps, Path.follow (front ++ down) (stepsOfDots (down.length + 1) ++ steps)
      = Path.follow front steps :=
    follow_stepsOfDots rfl
  have here : Path.follow (front ++ down) (stepsOfDots (down.length + 1)) = some front := by
    simpa [Path.follow] using up []
  have slashed : Path.follow (front ++ down) (stepsOfDots (down.length + 1) ++ [[]])
      = some front := by
    rw [up, Path.follow, if_pos (.inl rfl), Path.follow]
  refine ⟨?_, ?_, .dots (by omega) (by simp) (by simpa using here)⟩
  · rw [isSteps] at here ⊢
    exact .steps isStep free here
  · rw [isSteps, List.cons_append] at slashed ⊢
    exact .steps isStep (List.forall_mem_append.mpr ⟨free, by simp⟩) slashed

end SourceAtlas
