import SourceAtlas.Proofs.Path.Parts

/-! Paths as steps from a folder: the normal form of a path writes down where its steps lead. -/

namespace SourceAtlas.Path

/-- The names of the folders down to the place where steps lead, seen from a folder; none where
they lead out at the top. -/
def follow : List (List Char) → List (List Char) → Option (List (List Char))
  | folders, [] => some folders
  | folders, step :: steps =>
    if step = [] ∨ step = ['.'] then follow folders steps
    else if step = ['.', '.'] then if folders = [] then none else follow folders.dropLast steps
    else follow (folders ++ [step]) steps

/-- Parts written as a path: a single dot stands for none. -/
def written (slashes : Nat) (parts : List (List Char)) : List Char :=
  if (rooted slashes parts).isEmpty then ['.'] else rooted slashes parts

/-- Without slashes in front, the dot stands for no names at all. -/
theorem written_zero {parts : List (List Char)} (fine : ∀ part ∈ parts, IsPart part) :
    written 0 parts = if parts = [] then ['.'] else joinParts parts := by
  -- Parts that say something are never written as nothing.
  have whole : rooted 0 parts = joinParts parts := rfl
  simp only [written, whole, List.isEmpty_iff, joinParts_eq_nil_iff fine]

variable {rooted? : Bool} {slashes : Nat} {folders ends steps done parts : List (List Char)}

/-! ## One step -/

/-- An empty part is a step on the spot. -/
@[simp] theorem pushPart_empty (done : List (List Char)) : pushPart rooted? done [] = done := rfl

/-- A single dot is a step on the spot. -/
@[simp] theorem pushPart_stay (done : List (List Char)) : pushPart rooted? done ['.'] = done := rfl

/-- A name is put down. -/
theorem pushPart_name {name : List Char} (isName : IsName name) (done : List (List Char)) :
    pushPart rooted? done name = name :: done := by
  -- It is no step.
  simp [pushPart, isName.nonempty, isName.notStay, isName.notUp]

/-- A step up takes back the name before it. -/
theorem pushPart_up {name : List Char} (isName : IsName name) (done : List (List Char)) :
    pushPart rooted? (name :: done) ['.', '.'] = done := by
  -- The name is taken off again.
  simp [pushPart, isName.notUp]

/-! ## Several steps -/

/-- Names are all put down. -/
theorem foldl_pushPart_names (named : ∀ name ∈ parts, IsName name) (done : List (List Char)) :
    parts.foldl (pushPart rooted?) done = parts.reverse ++ done := by
  -- Each goes in front of those before it.
  induction parts generalizing done with
  | nil => rfl
  | cons name parts ih =>
    obtain ⟨isName, others⟩ := List.forall_mem_cons.mp named
    rw [List.foldl_cons, pushPart_name isName, ih others, List.reverse_cons, List.append_assoc,
      List.singleton_append]

/-- As many steps up as there are names lead back to where the names started. -/
theorem foldl_pushPart_back (named : ∀ name ∈ parts, IsName name) (done : List (List Char)) :
    (parts ++ List.replicate parts.length ['.', '.']).foldl (pushPart rooted?) done = done := by
  -- The induction is on the names, from the first one in.
  induction parts generalizing done with
  | nil => rfl
  | cons name parts ih =>
    obtain ⟨isName, others⟩ := List.forall_mem_cons.mp named
    have inner := ih others (name :: done)
    -- The first name is taken back by the last step up, and what stands between
    -- the two leaves it alone.
    rw [List.length_cons, List.replicate_succ', ← List.append_assoc, List.foldl_append,
      List.cons_append]
    simp only [List.foldl_cons, List.foldl_nil, pushPart_name isName, inner, pushPart_up isName]

/-- Where steps lead to a place in the project, the parts that are kept are the names down to it. -/
theorem foldl_pushPart_of_follow (named : ∀ name ∈ folders, IsName name)
    (free : ∀ step ∈ steps, '/' ∉ step) (leads : follow folders steps = some ends) :
    steps.foldl (pushPart rooted?) folders.reverse = ends.reverse ∧ ∀ name ∈ ends, IsName name := by
  -- The induction is on the steps, along which the folders change.
  induction steps generalizing folders with
  | nil =>
    obtain rfl : folders = ends := by simpa [follow] using leads
    exact ⟨rfl, named⟩
  | cons step steps ih =>
    obtain ⟨freeStep, freeOthers⟩ := List.forall_mem_cons.mp free
    rw [follow] at leads
    rw [List.foldl_cons]
    split at leads
    · -- A step on the spot changes neither.
      rename_i stays
      have same : pushPart rooted? folders.reverse step = folders.reverse := by
        rcases stays with rfl | rfl
        · exact pushPart_empty _
        · exact pushPart_stay _
      rw [same]
      exact ih named freeOthers leads
    · rename_i moves
      simp only [not_or] at moves
      split at leads
      · -- A step up takes back the last name, and at the top there is none.
        rename_i isUp
        subst isUp
        split at leads
        · cases leads
        · rename_i below
          obtain ⟨front, name, rfl⟩ := exists_concat_of_ne_nil below
          obtain ⟨namedFront, namedLast⟩ := List.forall_mem_append.mp named
          rw [List.reverse_append, List.reverse_singleton, List.singleton_append,
            pushPart_up (namedLast name (by simp))]
          rw [List.dropLast_concat] at leads
          exact ih namedFront freeOthers leads
      · -- Any other step is a name.
        rename_i notUp
        have isName : IsName step := ⟨moves.1, moves.2, notUp, freeStep⟩
        rw [pushPart_name isName, ← List.singleton_append, ← List.reverse_singleton,
          ← List.reverse_append]
        refine ih ?_ freeOthers leads
        exact List.forall_mem_append.mpr ⟨named, by simpa using isName⟩

/-- Steps up lead to the folder that many levels above. -/
theorem follow_up {levels : Nat} {front down : List (List Char)} (count : down.length = levels)
    (steps : List (List Char)) :
    follow (front ++ down) (List.replicate levels ['.', '.'] ++ steps) = follow front steps := by
  -- Each step up drops the last of the names.
  induction levels generalizing down with
  | zero =>
    rw [List.length_eq_zero_iff.mp count]
    simp
  | succ levels ih =>
    have below : down ≠ [] := List.length_pos_iff.mp (by omega)
    obtain ⟨start, name, rfl⟩ := exists_concat_of_ne_nil below
    rw [List.replicate_succ, List.cons_append, follow, if_neg (by simp), if_pos rfl,
      if_neg (by simp), ← List.append_assoc, List.dropLast_concat]
    exact ih (by simpa using count)

/-- Steps up that lead somewhere are no more than there are folders. -/
theorem le_of_follow_up {levels : Nat}
    (leads : follow folders (List.replicate levels ['.', '.'] ++ steps) = some ends) :
    levels ≤ folders.length := by
  -- Each step up needs a folder to leave.
  induction levels generalizing folders with
  | zero => omega
  | succ levels ih =>
    rw [List.replicate_succ, List.cons_append, follow, if_neg (by simp), if_pos rfl] at leads
    split at leads
    · cases leads
    · rename_i below
      have shorter := ih leads
      have positive := List.length_pos_iff.mpr below
      rw [List.length_dropLast] at shorter
      omega

/-- Names lead down. -/
theorem follow_names (named : ∀ name ∈ parts, IsName name) (folders : List (List Char)) :
    follow folders parts = some (folders ++ parts) := by
  -- Each name is one folder further down.
  induction parts generalizing folders with
  | nil => simp [follow]
  | cons name parts ih =>
    obtain ⟨isName, others⟩ := List.forall_mem_cons.mp named
    rw [follow, if_neg (by simp [isName.nonempty, isName.notStay]), if_neg isName.notUp, ih others,
      List.append_assoc, List.singleton_append]

/-! ## The normal form -/

/-- Slashes in front give no parts, and what follows them is split as it is without them. -/
private theorem foldl_pushPart_slashes (slashes : Nat) (path : List Char)
    (done : List (List Char)) :
    (splitAtChar '/' (List.replicate slashes '/' ++ path)).foldl (pushPart rooted?) done
      = (splitAtChar '/' path).foldl (pushPart rooted?) done := by
  -- Each slash cuts off an empty part, which says nothing.
  induction slashes with
  | zero => rfl
  | succ slashes ih =>
    rw [List.replicate_succ, List.cons_append, splitAtChar_cons_mark, List.foldl_cons,
      pushPart_empty, ih]

/-- The parts of a joined path are put down as they are. -/
private theorem foldl_pushPart_joinParts (free : ∀ part ∈ parts, '/' ∉ part)
    (done : List (List Char)) :
    (splitAtChar '/' (joinParts parts)).foldl (pushPart rooted?) done
      = parts.foldl (pushPart rooted?) done := by
  -- No parts are joined to the empty path, which is split into an empty part.
  by_cases none : parts = []
  · subst none
    rfl
  · rw [splitAtChar_joinParts none free]

/-- Up to two slashes in front are kept as they are. -/
theorem normalize_slashes (few : slashes ≤ 2) {path : List Char}
    (relative : path.head? ≠ some '/') :
    normalize (List.replicate slashes '/' ++ path)
      = written slashes ((splitAtChar '/' path).foldl (pushPart (slashes != 0)) []).reverse := by
  -- The slashes in front are counted, and the rest does not start with one.
  have front : (List.replicate slashes '/' ++ path).takeWhile (· == '/')
      = List.replicate slashes '/' := by
    have stops : path.takeWhile (· == '/') = [] := by
      cases path with
      | nil => rfl
      | cons c path =>
        have other : (c == '/') = false := by simpa using relative
        rw [List.takeWhile_cons, other]
        rfl
    rw [List.takeWhile_append_of_pos (by simp), stops, List.append_nil]
  have count : rootSlashes (List.replicate slashes '/' ++ path) = slashes := by
    rw [rootSlashes, front, List.length_replicate]
    rcases slashes with _ | _ | _ | slashes
    · rfl
    · rfl
    · rfl
    · omega
  rw [normalize, count, foldl_pushPart_slashes]
  rfl

/-- Parts do not start with a slash, whatever follows them. -/
theorem head?_joinParts (fine : ∀ part ∈ parts, IsPart part) (some : parts ≠ [])
    (rest : List Char) :
    (joinParts parts ++ rest).head? ≠ Option.some '/' := by
  -- The first character is that of the first part.
  obtain ⟨part, others, rfl⟩ := List.exists_cons_of_ne_nil some
  obtain ⟨begun, free⟩ := fine part (by simp)
  obtain ⟨c, tail, rfl⟩ := List.exists_cons_of_ne_nil begun
  have other : c ≠ '/' := by
    rintro rfl
    simp at free
  by_cases alone : others = []
  · simp [alone, other]
  · simp [joinParts_cons alone, other]

/-- The normal form of parts is written down part by part. -/
theorem normalize_rooted (few : slashes ≤ 2) (fine : ∀ part ∈ parts, IsPart part) :
    normalize (rooted slashes parts)
      = written slashes (parts.foldl (pushPart (slashes != 0)) []).reverse := by
  -- What follows the slashes is parts, and they do not start with one.
  have relative : (joinParts parts).head? ≠ some '/' := by
    by_cases none : parts = []
    · simp [none]
    · simpa using head?_joinParts fine none []
  rw [rooted, normalize_slashes few relative,
    foldl_pushPart_joinParts fun part member => (fine part member).2]

/-- A path is joined to parts with a slash in between, unless there are none. -/
private theorem join_rooted (fine : ∀ part ∈ parts, IsPart part) {path : List Char}
    (relative : path.head? ≠ some '/') :
    join (rooted slashes parts) path
      = List.replicate slashes '/' ++
        if parts = [] then path else joinParts parts ++ '/' :: path := by
  -- The path is not rooted, so it is joined.
  have notRooted : (path.head? == some '/') = false := by simpa using relative
  rw [join, notRooted, if_neg Bool.false_ne_true]
  by_cases none : parts = []
  · -- There is nothing before the path, or a slash.
    subst none
    have ends : ((rooted slashes []).isEmpty || (rooted slashes []).getLast? == some '/')
        = true := by
      cases slashes with
      | zero => rfl
      | succ slashes => simp [rooted, List.replicate_succ']
    rw [ends, if_pos rfl, if_pos rfl, rooted, joinParts_nil, List.append_nil]
  · -- The last part ends in something else than a slash.
    obtain ⟨front, last, rfl⟩ := exists_concat_of_ne_nil none
    obtain ⟨some, free⟩ := fine last (by simp)
    obtain ⟨before, isEnd⟩ := exists_rooted_concat slashes front last
    obtain ⟨start, c, rfl⟩ := exists_concat_of_ne_nil some
    have other : c ≠ '/' := by
      rintro rfl
      simp at free
    have ends : ((rooted slashes (front ++ [start ++ [c]])).isEmpty
        || (rooted slashes (front ++ [start ++ [c]])).getLast? == Option.some '/') = false := by
      rw [isEnd]
      simp [other]
    rw [ends, if_neg Bool.false_ne_true, if_neg none, rooted, List.append_assoc]

/-- The normal form of a path that is joined to parts goes on from them. -/
theorem normalize_join_rooted (few : slashes ≤ 2) (fine : ∀ part ∈ parts, IsPart part)
    {path : List Char} (relative : path.head? ≠ some '/') :
    normalize (join (rooted slashes parts) path)
      = written slashes ((splitAtChar '/' path).foldl (pushPart (slashes != 0))
          (parts.foldl (pushPart (slashes != 0)) [])).reverse := by
  -- The parts in front and those of the path are put down in one go.
  rw [join_rooted fine relative]
  by_cases none : parts = []
  · subst none
    rw [if_pos rfl, normalize_slashes few relative]
    rfl
  · rw [if_neg none, normalize_slashes few (head?_joinParts fine none _), splitAtChar_append_mark,
      List.foldl_append, foldl_pushPart_joinParts fun part member => (fine part member).2]

/-! ## Paths that are in normal form -/

/-- Names above steps up: what is kept of the parts of a path, the last one first. -/
def IsStack (done : List (List Char)) : Prop :=
  ∃ names ups, done = names ++ List.replicate ups ['.', '.'] ∧ ∀ name ∈ names, IsName name

/-- What is kept stays names above steps up. -/
theorem IsStack.pushPart (stack : IsStack done) {part : List Char} (free : '/' ∉ part) :
    IsStack (pushPart rooted? done part) := by
  -- A step on the spot changes nothing, a step up takes a name off, and a name is put on top.
  obtain ⟨names, ups, rfl, named⟩ := stack
  by_cases empty : part = []
  · subst empty
    exact ⟨names, ups, rfl, named⟩
  by_cases stay : part = ['.']
  · subst stay
    exact ⟨names, ups, rfl, named⟩
  by_cases up : part = ['.', '.']
  · subst up
    cases names with
    | cons name names =>
      obtain ⟨isName, others⟩ := List.forall_mem_cons.mp named
      rw [List.cons_append, pushPart_up isName]
      exact ⟨names, ups, rfl, others⟩
    | nil =>
      -- Nothing can be taken back: at the root the step is lost, and elsewhere
      -- it is one more step up.
      cases ups with
      | zero =>
        cases rooted? with
        | true => exact ⟨[], 0, rfl, by simp⟩
        | false => exact ⟨[], 1, rfl, by simp⟩
      | succ ups => exact ⟨[], ups + 2, rfl, by simp⟩
  · have isName : IsName part := ⟨empty, stay, up, free⟩
    rw [pushPart_name isName]
    exact ⟨part :: names, ups, rfl, List.forall_mem_cons.mpr ⟨isName, named⟩⟩

/-- Any parts keep it so. -/
theorem IsStack.foldl_pushPart (stack : IsStack done) (free : ∀ part ∈ parts, '/' ∉ part) :
    IsStack (parts.foldl (Path.pushPart rooted?) done) := by
  -- The induction is on the parts, one after the other.
  induction parts generalizing done with
  | nil => exact stack
  | cons part parts ih =>
    obtain ⟨freeFirst, freeOthers⟩ := List.forall_mem_cons.mp free
    exact ih (stack.pushPart freeFirst) freeOthers

/-- The names on a path: its parts without steps up. -/
def namesOf (path : List Char) : List (List Char) :=
  (Path.parts path).filter (· != ['.', '.'])

/-- The names of a path of parts are those that are no steps. -/
private theorem namesOf_rooted (slashes : Nat) (free : ∀ part ∈ parts, '/' ∉ part) :
    namesOf (rooted slashes parts)
      = (parts.filter fun part => part != [] && part != ['.']).filter (· != ['.', '.']) := by
  -- The slashes in front make no parts.
  have slashed : ∀ slashes path, Path.parts (List.replicate slashes '/' ++ path)
      = Path.parts path := by
    intro slashes path
    induction slashes with
    | zero => rfl
    | succ slashes ih =>
      rw [← ih, List.replicate_succ, List.cons_append, Path.parts, splitAtChar_cons_mark,
        List.filter_cons]
      rfl
  rw [namesOf, rooted, slashed, Path.parts]
  by_cases none : parts = []
  · subst none
    rfl
  · rw [splitAtChar_joinParts none free]

/-- The names behind steps up are all the names of a path. -/
private theorem namesOf_ups (slashes ups : Nat) {names : List (List Char)}
    (named : ∀ name ∈ names, IsName name) :
    namesOf (rooted slashes (List.replicate ups ['.', '.'] ++ names)) = names := by
  -- Neither steps nor names have slashes.
  have free : ∀ part ∈ List.replicate ups ['.', '.'] ++ names, '/' ∉ part := by
    refine List.forall_mem_append.mpr
      ⟨fun part member => ?_, fun name inside => (named name inside).free⟩
    rw [List.eq_of_mem_replicate member]
    decide
  rw [namesOf_rooted slashes free, List.filter_filter, List.filter_append,
    List.filter_eq_nil_iff.mpr, List.nil_append, List.filter_eq_self.mpr]
  · intro name inside
    have isName := named name inside
    simp [isName.nonempty, isName.notStay, isName.notUp]
  · intro part member
    simp [List.eq_of_mem_replicate member]

/-- A path is in normal form, or says nothing. -/
def IsNormal (path : List Char) : Prop :=
  path = [] ∨ normalize path = path

/-- What normalizing keeps of the parts of a path is steps up, then names. -/
theorem exists_normalize_eq (path : List Char) :
    ∃ ups names, (∀ name ∈ names, IsName name) ∧
      normalize path = written (rootSlashes path) (List.replicate ups ['.', '.'] ++ names) := by
  -- The parts are put down one after the other on an empty stack.
  have stack : IsStack ((splitAtChar '/' path).foldl (Path.pushPart (rootSlashes path != 0)) []) :=
    IsStack.foldl_pushPart ⟨[], 0, rfl, by simp⟩
      fun part member => not_mem_of_mem_splitAtChar member
  obtain ⟨names, ups, isStack, named⟩ := stack
  -- The stack has the last part first.
  have reversed := congrArg List.reverse isStack
  rw [List.reverse_append, List.reverse_replicate] at reversed
  refine ⟨ups, names.reverse, fun name inside => named name (List.mem_reverse.mp inside), ?_⟩
  rw [← reversed]
  rfl

/-- A path in normal form is made of its names, behind at most two slashes and
steps that lead elsewhere. -/
theorem IsNormal.exists_rooted {path : List Char} (normal : IsNormal path) :
    ∃ slashes front, slashes ≤ 2 ∧ path = rooted slashes (front ++ namesOf path) ∧
      (∀ part ∈ front, IsPart part) ∧ ∀ name ∈ namesOf path, IsName name := by
  -- The empty path has no names, and any other one is what its normal form is made of.
  rcases normal with rfl | normal
  · exact ⟨0, [], by simp, rfl, by simp, by simp [namesOf, Path.parts, splitAtChar]⟩
  have few : rootSlashes path ≤ 2 := by
    rw [rootSlashes]
    split <;> simp
  obtain ⟨ups, names, named, form⟩ := exists_normalize_eq path
  rw [normal, written] at form
  split at form
  · -- The dot is a path without names.
    subst form
    exact ⟨0, [['.']], by simp, rfl, by simp [IsPart], by decide⟩
  · have own : namesOf path = names := by
      rw [form]
      exact namesOf_ups _ ups named
    rw [own]
    refine ⟨rootSlashes path, List.replicate ups ['.', '.'], few, form, fun part member => ?_,
      named⟩
    rw [List.eq_of_mem_replicate member]
    simp [IsPart]

end SourceAtlas.Path
