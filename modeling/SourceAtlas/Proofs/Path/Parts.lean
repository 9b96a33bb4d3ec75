import SourceAtlas.Path
import SourceAtlas.Proofs.Text.Joining

/-! Paths made of parts: their last part, their folder, and their extension. -/

namespace SourceAtlas.Path

/-- A part that names something: it is no step on the spot, no step up, and has no slash. -/
structure IsName (part : List Char) : Prop where
  nonempty : part ≠ []
  notStay : part ≠ ['.']
  notUp : part ≠ ['.', '.']
  free : '/' ∉ part

instance (part : List Char) : Decidable (IsName part) :=
  decidable_of_iff (part ≠ [] ∧ part ≠ ['.'] ∧ part ≠ ['.', '.'] ∧ '/' ∉ part)
    ⟨fun holds => ⟨holds.1, holds.2.1, holds.2.2.1, holds.2.2.2⟩,
      fun name => ⟨name.nonempty, name.notStay, name.notUp, name.free⟩⟩

/-- A part that can stand between two slashes. -/
def IsPart (part : List Char) : Prop :=
  part ≠ [] ∧ '/' ∉ part

/-- A name can stand between two slashes. -/
theorem IsName.isPart {part : List Char} (isName : IsName part) : IsPart part :=
  ⟨isName.nonempty, isName.free⟩

/-- A part that holds something else than dots names something, unless it holds a slash. -/
theorem isName_of_mem {part : List Char} {c : Char} (member : c ∈ part) (other : c ≠ '.')
    (free : '/' ∉ part) : IsName part := by
  -- Steps and the empty part are made of dots only.
  refine ⟨?_, ?_, ?_, free⟩
  all_goals
    rintro rfl
    simp [other] at member

/-- The path of a file as a project lists it: names, with one slash between each two. -/
def IsPlain (path : List Char) : Prop :=
  ∀ part ∈ splitAtChar '/' path, IsName part

instance (path : List Char) : Decidable (IsPlain path) :=
  inferInstanceAs (Decidable (∀ part ∈ splitAtChar '/' path, IsName part))

/-- The names of the folders that a path leads through. -/
def foldersOf (path : List Char) : List (List Char) :=
  (splitAtChar '/' path).dropLast

/-- Slashes, then parts with a slash between each two. -/
def rooted (slashes : Nat) (parts : List (List Char)) : List Char :=
  List.replicate slashes '/' ++ joinParts parts

/-- A list that is not empty has a last element. -/
theorem exists_concat_of_ne_nil {α : Type} {items : List α} (some : items ≠ []) :
    ∃ front last, items = front ++ [last] :=
  ⟨items.dropLast, items.getLast some, (List.dropLast_concat_getLast some).symm⟩

/-- Searched from its end, a text without a mark does not stop at one. -/
theorem bne_of_mem_reverse {mark : Char} {text : List Char} (free : mark ∉ text) :
    ∀ c ∈ text.reverse, (c != mark) = true := by
  -- The mark is none of its characters.
  intro c member
  simp only [bne_iff_ne, ne_eq]
  rintro rfl
  exact free (List.mem_reverse.mp member)

/-- Parts can be followed by names. -/
theorem forall_isPart_append {front names : List (List Char)} (fine : ∀ part ∈ front, IsPart part)
    (named : ∀ name ∈ names, IsName name) : ∀ part ∈ front ++ names, IsPart part :=
  List.forall_mem_append.mpr ⟨fine, fun name inside => (named name inside).isPart⟩

/-! ## Joined parts -/

/-- Without parts the path is empty. -/
@[simp] theorem joinParts_nil : joinParts [] = [] :=
  List.intercalate_nil

/-- A single part is the path. -/
@[simp] theorem joinParts_singleton (part : List Char) : joinParts [part] = part :=
  List.intercalate_singleton

/-- The first part is followed by a slash and the others. -/
theorem joinParts_cons {parts : List (List Char)} (some : parts ≠ []) (part : List Char) :
    joinParts (part :: parts) = part ++ '/' :: joinParts parts := by
  -- There is a next part to be joined to.
  obtain ⟨next, others, rfl⟩ := List.exists_cons_of_ne_nil some
  rw [joinParts, List.intercalate_cons_cons, List.append_assoc, List.singleton_append, joinParts]

/-- Parts on both sides of a place are joined each for themselves, with a slash in between. -/
theorem joinParts_append {front rest : List (List Char)} (some : front ≠ []) (more : rest ≠ []) :
    joinParts (front ++ rest) = joinParts front ++ '/' :: joinParts rest := by
  -- The induction is on the parts in front.
  induction front with
  | nil => exact absurd rfl some
  | cons part front ih =>
    cases front with
    | nil => rw [List.singleton_append, joinParts_cons more, joinParts_singleton]
    | cons next front =>
      have later := ih (List.cons_ne_nil next front)
      rw [List.cons_append, joinParts_cons (by simp), later,
        joinParts_cons (List.cons_ne_nil next front) part, List.append_assoc, List.cons_append]

/-- Parts that say something are joined to a path that says something. -/
theorem joinParts_eq_nil_iff {parts : List (List Char)} (fine : ∀ part ∈ parts, IsPart part) :
    joinParts parts = [] ↔ parts = [] := by
  -- A part has a first character, which is then in the path.
  refine ⟨fun empty => ?_, fun none => by rw [none, joinParts_nil]⟩
  cases parts with
  | nil => rfl
  | cons part others =>
    have begun := (fine part (by simp)).1
    by_cases alone : others = []
    · rw [alone, joinParts_singleton] at empty
      exact absurd empty begun
    · rw [joinParts_cons alone] at empty
      simp at empty

/-- Parts without slashes are found again between the slashes. -/
theorem splitAtChar_joinParts {parts : List (List Char)} (some : parts ≠ [])
    (free : ∀ part ∈ parts, '/' ∉ part) : splitAtChar '/' (joinParts parts) = parts :=
  splitAtChar_intercalate some free

/-- Joining what was split gives the path back. -/
private theorem joinParts_splitAtChar (path : List Char) :
    joinParts (splitAtChar '/' path) = path :=
  intercalate_splitAtChar '/' path

/-- The path of a file is the names of folders, then a name. -/
theorem IsPlain.exists_name {path : List Char} (plain : IsPlain path) :
    ∃ name, (∀ part ∈ foldersOf path ++ [name], IsName part) ∧
      path = joinParts (foldersOf path ++ [name]) := by
  -- What stands between the slashes has a last part.
  have some := splitAtChar_ne_nil '/' path
  have parts : foldersOf path ++ [(splitAtChar '/' path).getLast some] = splitAtChar '/' path :=
    List.dropLast_concat_getLast some
  refine ⟨(splitAtChar '/' path).getLast some, ?_, ?_⟩
  · rw [parts]
    exact plain
  · rw [parts, joinParts_splitAtChar]

/-! ## The last part and the folder -/

/-- What stands after the last slash, and what stands before it. -/
theorem baseName_append {name : List Char} (free : '/' ∉ name) (front : List Char) :
    baseName (front ++ '/' :: name) = name ∧ head (front ++ '/' :: name) = front ++ ['/'] := by
  -- Seen from the end, the name comes first and then the slash.
  have backwards : ∀ c ∈ name.reverse, (c != '/') = true := bne_of_mem_reverse free
  have whole : (front ++ '/' :: name).reverse = name.reverse ++ '/' :: front.reverse := by simp
  refine ⟨?_, ?_⟩
  · rw [baseName, whole, List.takeWhile_append_of_pos backwards]
    simp
  · rw [head, whole, List.dropWhile_append_of_pos backwards]
    simp

/-- A path without slashes is its own last part. -/
theorem baseName_of_free {name : List Char} (free : '/' ∉ name) :
    baseName name = name ∧ head name = [] := by
  -- Seen from the end, no slash stops the name.
  have backwards : ∀ c ∈ name.reverse, (c != '/') = true := bne_of_mem_reverse free
  refine ⟨?_, ?_⟩
  · rw [baseName, ← List.append_nil name.reverse, List.takeWhile_append_of_pos backwards]
    simp
  · rw [head, ← List.append_nil name.reverse, List.dropWhile_append_of_pos backwards]
    simp

/-- The last of some parts is the last part of their path. -/
theorem baseName_joinParts {name : List Char} (free : '/' ∉ name) (front : List (List Char)) :
    baseName (joinParts (front ++ [name])) = name := by
  -- Alone it is the path itself.
  by_cases alone : front = []
  · rw [alone, List.nil_append, joinParts_singleton, (baseName_of_free free).1]
  · rw [joinParts_append alone (by simp), joinParts_singleton, (baseName_append free _).1]

/-- A path that ends in a part with a last character keeps it when slashes are taken off its end. -/
private theorem trimEndBy_slash {front part : List Char} (some : part ≠ []) (free : '/' ∉ part) :
    trimEndBy (· == '/') (front ++ part ++ ['/']) = front ++ part := by
  -- The last character of the part stops the taking off.
  obtain ⟨start, c, rfl⟩ := exists_concat_of_ne_nil some
  have other : (c == '/') = false := by
    simp only [beq_eq_false_iff_ne, ne_eq]
    rintro rfl
    simp at free
  simp [trimEndBy, other]

/-- A path of parts ends in the last of them. -/
theorem exists_rooted_concat (slashes : Nat) (front : List (List Char)) (last : List Char) :
    ∃ before, rooted slashes (front ++ [last]) = before ++ last := by
  -- Alone it stands behind the slashes in front.
  by_cases alone : front = []
  · exact ⟨List.replicate slashes '/', by simp [rooted, alone]⟩
  · refine ⟨List.replicate slashes '/' ++ joinParts front ++ ['/'], ?_⟩
    rw [rooted, joinParts_append alone (by simp)]
    simp

/-- The folder of some parts is the parts before the last. -/
theorem dirName_rooted (slashes : Nat) {front : List (List Char)} {name : List Char}
    (fine : ∀ part ∈ front ++ [name], IsPart part) :
    dirName (rooted slashes (front ++ [name])) = rooted slashes front := by
  -- The name has no slash, so the folder ends where it starts.
  obtain ⟨fineFront, fineLast⟩ := List.forall_mem_append.mp fine
  have free := (fineLast name (by simp)).2
  by_cases alone : front = []
  · subst alone
    simp only [rooted, List.nil_append, joinParts_singleton, joinParts_nil, List.append_nil]
    cases slashes with
    | zero => simp [dirName, (baseName_of_free free).2]
    | succ slashes =>
      -- Only slashes stand before the name, and then all of them are kept.
      have whole : List.replicate (slashes + 1) '/' ++ name
          = List.replicate slashes '/' ++ '/' :: name := by
        rw [List.replicate_succ', List.append_assoc, List.singleton_append]
      rw [whole, dirName, (baseName_append free _).2, ← List.replicate_succ']
      simp
  · -- The last part of the front ends in something else than a slash, so one slash is taken off.
    obtain ⟨start, last, rfl⟩ := exists_concat_of_ne_nil alone
    obtain ⟨some, freeLast⟩ := fineFront last (by simp)
    obtain ⟨before, ends⟩ := exists_rooted_concat slashes start last
    have whole : rooted slashes (start ++ [last] ++ [name]) = before ++ last ++ '/' :: name := by
      rw [← ends, rooted, rooted, joinParts_append alone (by simp), joinParts_singleton,
        List.append_assoc]
    have mixed : (before ++ last ++ ['/']).all (· == '/') = false := by
      obtain ⟨c, rest, rfl⟩ := List.exists_cons_of_ne_nil some
      have other : c ≠ '/' := by
        rintro rfl
        simp at freeLast
      simp [other]
    rw [whole, dirName, (baseName_append free _).2, mixed, if_neg Bool.false_ne_true,
      trimEndBy_slash some freeLast, ends]

/-! ## Extensions -/

/-- A name that holds something else than dots before its last dot loses
that dot and what follows. -/
theorem stemOfName_append {stem tail : List Char} {c : Char} (member : c ∈ stem) (other : c ≠ '.')
    (free : '.' ∉ tail) : stemOfName (stem ++ '.' :: tail) = stem := by
  -- The dots in front end inside the stem, so what is left of the stem is not empty.
  have begun : stem.dropWhile (· == '.') ≠ [] := by
    intro none
    have whole := @List.takeWhile_append_dropWhile _ (· == '.') stem
    rw [none, List.append_nil] at whole
    rw [← whole] at member
    exact other (by simpa using List.all_eq_true.mp List.all_takeWhile c member)
  have body : (stem ++ '.' :: tail).dropWhile (· == '.')
      = stem.dropWhile (· == '.') ++ '.' :: tail := by
    rw [List.dropWhile_append, if_neg (by simpa using begun)]
  have dots : (stem ++ '.' :: tail).takeWhile (· == '.') = stem.takeWhile (· == '.') := by
    have whole := @List.takeWhile_append_dropWhile _ (· == '.') (stem ++ '.' :: tail)
    have part := @List.takeWhile_append_dropWhile _ (· == '.') stem
    rw [body, ← List.append_assoc] at whole
    exact List.append_cancel_right ((List.append_cancel_right whole).trans part.symm)
  -- Behind the last dot there is no other, so the search from the end stops at it.
  have backwards : ∀ d ∈ tail.reverse, (d != '.') = true := bne_of_mem_reverse free
  have cut : ((stem.dropWhile (· == '.') ++ '.' :: tail).reverse.dropWhile (· != '.')).reverse
      = stem.dropWhile (· == '.') ++ ['.'] := by
    rw [List.reverse_append, List.reverse_cons, List.append_assoc,
      List.dropWhile_append_of_pos backwards]
    simp
  simp only [stemOfName, body, dots, cut]
  rw [if_pos (by simp), List.dropLast_concat, List.takeWhile_append_dropWhile]

/-- A name keeps all of it, or loses its last dot and what follows, with something
else than dots in front. -/
theorem stemOfName_cases (name : List Char) : stemOfName name = name ∨
    ∃ stem tail, (∃ c ∈ stem, c ≠ '.') ∧ name = stem ++ '.' :: tail ∧ stemOfName name = stem := by
  -- The dots in front do not count, so the last dot is looked for behind them.
  by_cases dotted : '.' ∈ name.dropWhile (· == '.')
  · -- The last dot is the first one from the end.
    obtain ⟨tail, rest, backwards, free⟩ := List.eq_append_cons_of_mem (List.mem_reverse.mpr dotted)
    have body : name.dropWhile (· == '.') = rest.reverse ++ '.' :: tail.reverse := by
      simpa using congrArg List.reverse backwards
    have whole : name = name.takeWhile (· == '.') ++ rest.reverse ++ '.' :: tail.reverse := by
      rw [List.append_assoc, ← body, List.takeWhile_append_dropWhile]
    -- What follows the dots in front starts with something else.
    cases start : rest.reverse with
    | nil =>
      have stops := List.head_dropWhile_not (· == '.') (l := name) (by simp [body])
      simp [body, start] at stops
    | cons c others =>
      have stops := List.head_dropWhile_not (· == '.') (l := name) (by simp [body])
      have other : c ≠ '.' := by simpa [body, start] using stops
      refine .inr ⟨name.takeWhile (· == '.') ++ rest.reverse, tail.reverse,
        ⟨c, by simp [start], other⟩, whole, ?_⟩
      have inside : c ∈ name.takeWhile (· == '.') ++ rest.reverse := by simp [start]
      have last : '.' ∉ tail.reverse := by simpa using free
      have cut := stemOfName_append inside other last
      rwa [← whole] at cut
  · refine .inl ?_
    simp [stemOfName, dotted]

/-- A name without its extension is a name. -/
theorem IsName.stemOfName {name : List Char} (isName : IsName name) : IsName (stemOfName name) := by
  -- What is left of it still holds something else than dots.
  rcases stemOfName_cases name with all | ⟨stem, tail, ⟨c, member, other⟩, rfl, cut⟩
  · rw [all]
    exact isName
  · rw [cut]
    refine isName_of_mem member other fun slash => isName.free ?_
    simp [slash]

/-- A path loses the extension of its last part. -/
theorem withoutExtension_joinParts {front : List (List Char)} {name : List Char}
    (free : '/' ∉ name) :
    withoutExtension (joinParts (front ++ [name])) = joinParts (front ++ [stemOfName name]) := by
  -- Alone it is the path itself.
  by_cases alone : front = []
  · subst alone
    simp [withoutExtension, baseName_of_free free]
  · rw [joinParts_append alone (by simp), joinParts_append alone (by simp), joinParts_singleton,
      joinParts_singleton, withoutExtension, (baseName_append free _).1, (baseName_append free _).2,
      List.append_assoc, List.singleton_append]

end SourceAtlas.Path
