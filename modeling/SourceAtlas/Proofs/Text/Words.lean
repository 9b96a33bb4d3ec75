import SourceAtlas.Text.Blank

/-! The words of a text are what stands between its blanks. -/

namespace SourceAtlas

/-- Some texts are the words of a text, in order: each is a run of characters that are not blank,
with blanks or an end of the text on either side. -/
inductive IsWords : List Char → List (List Char) → Prop
  /-- A text of blanks alone has no words. -/
  | none {gap : List Char} (blanks : ∀ c ∈ gap, isBlank c = true) : IsWords gap []
  /-- The first word stands behind the first blanks and goes on up to the next blank. -/
  | next {gap word rest : List Char} {words : List (List Char)}
      (blanks : ∀ c ∈ gap, isBlank c = true) (nonempty : word ≠ [])
      (solid : ∀ c ∈ word, isBlank c = false) (ended : ∀ c ∈ rest.head?, isBlank c = true)
      (others : IsWords rest words) : IsWords (gap ++ (word ++ rest)) (word :: words)

variable {c : Char} {word rest text : List Char} {words : List (List Char)}

/-! ## Reading words from the right -/

/-- Characters that are not blank lengthen the word that is being read. -/
private theorem foldr_wordsStep_solid (solid : ∀ c ∈ word, isBlank c = false)
    (state : List Char × List (List Char)) :
    word.foldr wordsStep state = (word ++ state.1, state.2) := by
  -- The induction is on the word, read from its end.
  induction word with
  | nil => rfl
  | cons c word ih =>
    rw [List.forall_mem_cons] at solid
    simp [wordsStep, ih solid.2, solid.1]

/-- In front of a blank no word is being read. -/
private theorem foldr_wordsStep_ended (ended : ∀ c ∈ rest.head?, isBlank c = true) :
    (rest.foldr wordsStep ([], [])).1 = [] := by
  -- Behind the end of the text nothing is being read.
  cases rest with
  | nil => rfl
  | cons c rest =>
    have blank : isBlank c = true := ended c rfl
    rw [List.foldr_cons, wordsStep, if_pos blank]
    -- The word behind the blank is complete, if there is one.
    split
    · rename_i empty
      exact List.isEmpty_iff.mp empty
    · rfl

/-- A blank in front belongs to no word. -/
theorem blankWords_cons (blank : isBlank c = true) (text : List Char) :
    blankWords (c :: text) = blankWords text := by
  -- A word that was being read is complete, and none is started.
  simp only [blankWords, List.foldr_cons, wordsStep, blank, if_true]
  cases empty : (text.foldr wordsStep ([], [])).1.isEmpty <;> simp [empty]

/-- A word in front of a blank, or at the end, is the first word. -/
theorem blankWords_append (nonempty : word ≠ []) (solid : ∀ c ∈ word, isBlank c = false)
    (ended : ∀ c ∈ rest.head?, isBlank c = true) :
    blankWords (word ++ rest) = word :: blankWords rest := by
  -- Nothing of a word is being read behind it, so the word starts anew.
  have complete := foldr_wordsStep_ended ended
  simp [blankWords, List.foldr_append, foldr_wordsStep_solid solid, complete, nonempty]

/-! ## The words that are read -/

/-- One more blank in front changes no words. -/
theorem IsWords.cons (isWords : IsWords text words) (blank : isBlank c = true) :
    IsWords (c :: text) words := by
  -- The blank goes to the gap in front.
  cases isWords with
  | none blanks => exact .none (List.forall_mem_cons.mpr ⟨blank, blanks⟩)
  | @next gap word rest words blanks nonempty solid ended others =>
    have longer : ∀ d ∈ c :: gap, isBlank d = true := List.forall_mem_cons.mpr ⟨blank, blanks⟩
    exact .next longer nonempty solid ended others

/-- What has been read of a text is the start of its first word, which may be empty,
and the words behind it. -/
private theorem exists_rest_of_foldr_wordsStep (text : List Char) :
    let state := text.foldr wordsStep ([], [])
    ∃ rest, text = state.1 ++ rest ∧ (∀ c ∈ state.1, isBlank c = false) ∧
      (∀ c ∈ rest.head?, isBlank c = true) ∧ IsWords rest state.2 := by
  -- The text is read from the right, one character at a time.
  induction text with
  | nil => exact ⟨[], rfl, by simp, by simp, .none (by simp)⟩
  | cons c text ih =>
    obtain ⟨rest, isText, solid, ended, isWords⟩ := ih
    simp only [List.foldr_cons]
    generalize text.foldr wordsStep ([], []) = state at isText solid isWords ⊢
    cases blank : isBlank c with
    | false =>
      -- The word that is being read gets longer, and what is behind it stays.
      rw [show wordsStep c state = (c :: state.1, state.2) by simp [wordsStep, blank]]
      exact ⟨rest, by rw [isText, List.cons_append], List.forall_mem_cons.mpr ⟨blank, solid⟩, ended,
        isWords⟩
    | true =>
      by_cases empty : state.1 = []
      · -- Nothing was being read, so this is one more blank in front.
        rw [show wordsStep c state = state by simp [wordsStep, blank, empty], empty]
        rw [empty, List.nil_append] at isText
        exact ⟨c :: rest, by rw [isText, List.nil_append], by simp, by simpa using blank,
          isWords.cons blank⟩
      · -- The word that was being read is complete.
        rw [show wordsStep c state = ([], state.1 :: state.2) by simp [wordsStep, blank, empty]]
        have front : ∀ d ∈ [c], isBlank d = true := by simpa using blank
        refine ⟨c :: text, rfl, by simp, by simpa using blank, ?_⟩
        rw [isText]
        exact .next front empty solid ended isWords

/-- The words that are read are the words of the text. -/
private theorem isWords_blankWords (text : List Char) : IsWords text (blankWords text) := by
  -- At the end of reading, the word that is left is the first one, if it is not empty.
  obtain ⟨rest, isText, solid, ended, isWords⟩ := exists_rest_of_foldr_wordsStep text
  unfold blankWords
  generalize text.foldr wordsStep ([], []) = state at isText solid isWords ⊢
  by_cases empty : state.1 = []
  · rw [empty, List.nil_append] at isText
    simpa [empty, isText] using isWords
  · have isNext : IsWords ([] ++ (state.1 ++ rest)) (state.1 :: state.2) :=
      .next (by simp) empty solid ended isWords
    simpa [empty, isText] using isNext

/-- A text has one list of words, and it is the one that is read. -/
theorem isWords_iff : IsWords text words ↔ words = blankWords text := by
  -- Along the words of the text, each is the next one to be read.
  constructor
  · intro isWords
    induction isWords with
    | @none gap blanks =>
      induction gap with
      | nil => rfl
      | cons c gap ih =>
        rw [List.forall_mem_cons] at blanks
        rw [blankWords_cons blanks.1]
        exact ih blanks.2
    | @next gap word rest words blanks nonempty solid ended others ih =>
      -- The blanks in front are passed over one by one, and then the word is the first.
      induction gap with
      | nil => rw [List.nil_append, blankWords_append nonempty solid ended, ih]
      | cons c gap again =>
        rw [List.forall_mem_cons] at blanks
        rw [List.cons_append, blankWords_cons blanks.1]
        exact again blanks.2
  · rintro rfl
    exact isWords_blankWords text

end SourceAtlas
