import SourceAtlas.Text.Cut

/-! Splitting a text at marks and joining parts with the mark invert each other. -/

namespace SourceAtlas

/-- A joined text is its first part, and the separator with each further one. -/
theorem toList_joinWith (separator part : String) (parts : List String) :
    (joinWith separator (part :: parts)).toList
      = part.toList ++ parts.flatMap fun next => separator.toList ++ next.toList := by
  -- The join goes from the left, so the first part stays quantified over.
  simp only [joinWith]
  induction parts generalizing part with
  | nil => simp
  | cons next parts ih => simp [ih]

/-- A text has at least one stretch. -/
theorem splitAtChar_ne_nil (mark : Char) (text : List Char) : splitAtChar mark text ≠ [] := by
  -- The empty text is one empty stretch.
  cases text with
  | nil => simp [splitAtChar]
  | cons c text =>
    simp only [splitAtChar, List.foldr_cons]
    -- Either the character opens a stretch, or it goes to the one that is there.
    split
    · simp
    · split <;> simp

/-- A mark in front ends an empty stretch. -/
theorem splitAtChar_cons_mark (mark : Char) (text : List Char) :
    splitAtChar mark (mark :: text) = [] :: splitAtChar mark text := by
  simp [splitAtChar]

/-- A character that is no mark goes to the first stretch. -/
theorem splitAtChar_cons_of_ne {mark c : Char} (other : c ≠ mark) (text : List Char) :
    ∃ part parts, splitAtChar mark text = part :: parts ∧
      splitAtChar mark (c :: text) = (c :: part) :: parts := by
  -- There is a first stretch for the character to go to.
  have isOther : (c == mark) = false := by simpa using other
  obtain ⟨part, parts, split⟩ := List.exists_cons_of_ne_nil (splitAtChar_ne_nil mark text)
  refine ⟨part, parts, split, ?_⟩
  unfold splitAtChar at split ⊢
  rw [List.foldr_cons, split, isOther]
  rfl

/-- The texts before and after a mark are split each for itself. -/
theorem splitAtChar_append_mark (mark : Char) (front rest : List Char) :
    splitAtChar mark (front ++ mark :: rest) = splitAtChar mark front ++ splitAtChar mark rest := by
  -- The induction is on the text before the mark.
  induction front with
  | nil => exact splitAtChar_cons_mark mark rest
  | cons c front ih =>
    by_cases isMark : c = mark
    · subst isMark
      rw [List.cons_append, splitAtChar_cons_mark, splitAtChar_cons_mark, ih, List.cons_append]
    · -- The first stretch of the whole is the first stretch of the front, with the character
      -- before it.
      obtain ⟨part, parts, split, more⟩ := splitAtChar_cons_of_ne isMark front
      obtain ⟨first, others, whole, moreWhole⟩ :=
        splitAtChar_cons_of_ne isMark (front ++ mark :: rest)
      rw [ih, split, List.cons_append, List.cons.injEq] at whole
      rw [List.cons_append, moreWhole, more, ← whole.1, ← whole.2, List.cons_append]

/-- A text without marks is one stretch. -/
theorem splitAtChar_of_free {mark : Char} {text : List Char} (free : mark ∉ text) :
    splitAtChar mark text = [text] := by
  -- Each character goes to the one stretch there is.
  induction text with
  | nil => rfl
  | cons c text ih =>
    simp only [List.mem_cons, not_or] at free
    obtain ⟨part, parts, split, more⟩ := splitAtChar_cons_of_ne (Ne.symm free.1) text
    rw [ih free.2, List.cons.injEq] at split
    rw [more, ← split.1, ← split.2]

/-- The text before the first mark is the first stretch. -/
theorem splitAtChar_append {mark : Char} {front : List Char} (free : mark ∉ front)
    (rest : List Char) :
    splitAtChar mark (front ++ mark :: rest) = front :: splitAtChar mark rest := by
  rw [splitAtChar_append_mark, splitAtChar_of_free free, List.singleton_append]

/-- No stretch holds a mark. -/
theorem not_mem_of_mem_splitAtChar {mark : Char} {text part : List Char}
    (member : part ∈ splitAtChar mark text) : mark ∉ part := by
  -- The induction is on the text; a mark starts a stretch, and another character is no mark.
  induction text generalizing part with
  | nil =>
    obtain rfl : part = [] := by simpa [splitAtChar] using member
    simp
  | cons c text ih =>
    by_cases isMark : c = mark
    · subst isMark
      rw [splitAtChar_cons_mark, List.mem_cons] at member
      rcases member with rfl | later
      · simp
      · exact ih later
    · obtain ⟨first, others, split, more⟩ := splitAtChar_cons_of_ne isMark text
      rw [more, List.mem_cons] at member
      rw [split] at ih
      rcases member with rfl | later
      · simp only [List.mem_cons, not_or]
        exact ⟨Ne.symm isMark, ih (by simp)⟩
      · exact ih (by simp [later])

/-- Joining the stretches with the mark gives the text again. -/
theorem intercalate_splitAtChar (mark : Char) (text : List Char) :
    List.intercalate [mark] (splitAtChar mark text) = text := by
  -- The induction is on the text; a mark separates two stretches.
  induction text with
  | nil => simp [splitAtChar]
  | cons c text ih =>
    by_cases isMark : c = mark
    · subst isMark
      obtain ⟨part, parts, split⟩ := List.exists_cons_of_ne_nil (splitAtChar_ne_nil c text)
      rw [splitAtChar_cons_mark, split, List.intercalate_cons_cons, ← split, ih]
      rfl
    · obtain ⟨part, parts, split, more⟩ := splitAtChar_cons_of_ne isMark text
      rw [split] at ih
      rw [more]
      -- Whether or not a second stretch follows, the character stands in front of
      -- what the rest joins to.
      cases parts with
      | nil => simpa using ih
      | cons next parts => simpa [List.intercalate_cons_cons] using ih

/-- Every stretch stands in the text, in front of a mark or of the end. -/
theorem exists_around_of_mem_splitAtChar {mark : Char} {text part : List Char}
    (member : part ∈ splitAtChar mark text) :
    ∃ front back, text = front ++ (part ++ back) ∧ ∀ c ∈ back.head?, c = mark := by
  -- The text is its stretches joined with the mark, and the induction goes along them.
  have joined := intercalate_splitAtChar mark text
  generalize splitAtChar mark text = parts at member joined
  subst joined
  induction parts with
  | nil => cases member
  | cons first parts ih =>
    cases parts with
    | nil =>
      obtain rfl := List.mem_singleton.mp member
      exact ⟨[], [], by simp, by simp⟩
    | cons next parts =>
      rw [List.intercalate_cons_cons]
      rcases List.mem_cons.mp member with rfl | later
      · exact ⟨[], [mark] ++ List.intercalate [mark] (next :: parts), by simp, by simp⟩
      · obtain ⟨front, back, around, ended⟩ := ih later
        exact ⟨first ++ [mark] ++ front, back, by simp [around], ended⟩

/-- Stretches without the mark are split again after they are joined with it. -/
theorem splitAtChar_intercalate {mark : Char} {parts : List (List Char)} (some : parts ≠ [])
    (free : ∀ part ∈ parts, mark ∉ part) :
    splitAtChar mark (List.intercalate [mark] parts) = parts := by
  -- The induction is on the stretches, of which all but the last end with a mark.
  induction parts with
  | nil => exact absurd rfl some
  | cons part parts ih =>
    obtain ⟨freeFirst, freeOthers⟩ := List.forall_mem_cons.mp free
    cases parts with
    | nil => rw [List.intercalate_singleton, splitAtChar_of_free freeFirst]
    | cons next parts =>
      rw [List.intercalate_cons_cons, List.append_assoc, List.singleton_append,
        splitAtChar_append freeFirst, ih (by simp) freeOthers]

/-- Parts without the mark that joins them are split again. -/
theorem splitAtChar_joinWith {mark : Char} {separator : String} (isMark : separator.toList = [mark])
    {parts : List String} (nonempty : parts ≠ []) (free : ∀ part ∈ parts, mark ∉ part.toList) :
    splitAtChar mark (joinWith separator parts).toList = parts.map String.toList := by
  -- There is a first part, and each further one stands behind a mark.
  obtain ⟨part, parts, rfl⟩ := List.exists_cons_of_ne_nil nonempty
  rw [toList_joinWith, isMark]
  clear nonempty
  -- The induction is on the further parts, each of which is the next stretch.
  induction parts generalizing part with
  | nil =>
    rw [List.flatMap_nil, List.append_nil, splitAtChar_of_free (free part (by simp))]
    rfl
  | cons next parts ih =>
    have rest := ih next fun name inside => free name (List.mem_cons_of_mem _ inside)
    rw [List.flatMap_cons, List.append_assoc, List.singleton_append,
      splitAtChar_append (free part (by simp)), rest]
    rfl

/-- Parts without the mark that joins them are told apart by the joined text. -/
theorem joinWith_inj {mark : Char} {separator : String} (isMark : separator.toList = [mark])
    {parts others : List String} (nonempty : parts ≠ []) (otherNonempty : others ≠ [])
    (free : ∀ part ∈ parts, mark ∉ part.toList) (otherFree : ∀ part ∈ others, mark ∉ part.toList)
    (same : joinWith separator parts = joinWith separator others) : parts = others := by
  -- Both are what the joined text is split into.
  have texts : parts.map String.toList = others.map String.toList := by
    rw [← splitAtChar_joinWith isMark nonempty free, same,
      splitAtChar_joinWith isMark otherNonempty otherFree]
  exact (List.map_inj_right fun _ _ equal => String.toList_injective equal).mp texts

/-- Texts without a mark before the first mark are told apart from what follows it. -/
theorem append_mark_inj {mark : Char} {front other rest more : List Char} (free : mark ∉ front)
    (otherFree : mark ∉ other) (same : front ++ mark :: rest = other ++ mark :: more) :
    front = other ∧ rest = more := by
  -- Up to the first mark stands what is free of marks.
  have cut : ∀ {front rest : List Char}, mark ∉ front →
      (front ++ mark :: rest).takeWhile (· != mark) = front := by
    intro front rest free
    have unmarked : ∀ c ∈ front, (c != mark) = true := by
      intro c member
      simp only [bne_iff_ne, ne_eq]
      rintro rfl
      exact free member
    rw [List.takeWhile_append_of_pos unmarked]
    simp
  have fronts : front = other := by rw [← cut free, same, cut otherFree]
  subst fronts
  exact ⟨rfl, (List.cons.inj (List.append_cancel_left same)).2⟩

end SourceAtlas
