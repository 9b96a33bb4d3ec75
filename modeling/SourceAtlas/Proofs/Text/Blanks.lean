import SourceAtlas.Text.Blank
import SourceAtlas.Text.Word

/-! Trimming takes the blanks around a text away, and leaves a text alone
that has none at its ends. -/

namespace SourceAtlas

/-- Whether a text starts and ends with characters that are not blank; the empty text does not. -/
def isTrimmed (text : List Char) : Bool :=
  text.head?.any (fun c => !isBlank c) && text.getLast?.any fun c => !isBlank c

/-- The codes of the blank characters. -/
def blankCodes : List Nat :=
  List.range' 9 5 ++ List.range' 28 5 ++ [0x85, 0xA0, 0x1680] ++ List.range' 0x2000 11 ++
    [0x2028, 0x2029, 0x202F, 0x205F, 0x3000]

variable {text before after front rest : List Char} {drop : Char → Bool} {c : Char}

/-- The code of a blank character is one of the list. -/
private theorem toNat_mem_blankCodes (blank : isBlank c = true) : c.toNat ∈ blankCodes := by
  -- The tests for a blank are ranges of codes and single ones.
  simp only [isBlank, Bool.or_eq_true, Bool.and_eq_true, decide_eq_true_eq, beq_iff_eq] at blank
  simp only [blankCodes, List.mem_append, List.mem_range'_1, List.mem_cons, List.not_mem_nil,
    or_false]
  omega

/-- No character is both blank and part of a word. -/
theorem isBlank_of_isWordChar (word : isWordChar c = true) : isBlank c = false := by
  -- There are few blanks, and the table of word characters has none of them.
  have apart : ∀ code ∈ blankCodes, isWordChar (Char.ofNat code) = false := by decide +kernel
  rw [← Bool.not_eq_true]
  intro blank
  have other := apart c.toNat (toNat_mem_blankCodes blank)
  rw [Char.ofNat_toNat, word] at other
  cases other

/-- A trimmed text starts with a character that is not blank. -/
theorem exists_head_of_isTrimmed (trimmed : isTrimmed text = true) :
    ∃ c rest, text = c :: rest ∧ isBlank c = false := by
  -- The empty text is not trimmed.
  simp only [isTrimmed, Bool.and_eq_true] at trimmed
  cases text with
  | nil => simp at trimmed
  | cons c rest => exact ⟨c, rest, rfl, by simpa using trimmed.1⟩

/-- A trimmed text ends with a character that is not blank. -/
private theorem exists_last_of_isTrimmed (trimmed : isTrimmed text = true) :
    ∃ front c, text = front ++ [c] ∧ isBlank c = false := by
  -- The empty text is not trimmed.
  simp only [isTrimmed, Bool.and_eq_true] at trimmed
  have nonempty : text ≠ [] := by
    rintro rfl
    simp at trimmed
  refine ⟨text.dropLast, text.getLast nonempty, (List.dropLast_concat_getLast nonempty).symm, ?_⟩
  simpa [List.getLast?_eq_some_getLast nonempty] using trimmed.2

/-- A text without blanks is trimmed, if there is any of it. -/
theorem isTrimmed_of_forall (nonempty : text ≠ []) (solid : ∀ c ∈ text, isBlank c = false) :
    isTrimmed text = true := by
  -- Neither its first nor its last character is blank.
  simp [isTrimmed, List.head?_eq_some_head nonempty, List.getLast?_eq_some_getLast nonempty,
    solid _ (List.head_mem nonempty), solid _ (List.getLast_mem nonempty)]

/-- Two trimmed texts make one, whatever stands between them. -/
theorem isTrimmed_append (starts : isTrimmed front = true) (ends : isTrimmed rest = true)
    (middle : List Char) : isTrimmed (front ++ middle ++ rest) = true := by
  -- The first character is that of the front, and the last one that of the rest.
  obtain ⟨c, more, rfl, solid⟩ := exists_head_of_isTrimmed starts
  obtain ⟨less, d, rfl, closing⟩ := exists_last_of_isTrimmed ends
  simp [isTrimmed, solid, closing, List.getLast?_append, List.getLast?_cons]

/-- What is dropped at the start does not matter. -/
theorem trimStartBy_append (dropped : ∀ c ∈ before, drop c = true) (rest : List Char) :
    trimStartBy drop (before ++ rest) = trimStartBy drop rest :=
  List.dropWhile_append_of_pos dropped

/-- A character that is kept ends the dropping. -/
theorem trimStartBy_cons (kept : drop c = false) (rest : List Char) :
    trimStartBy drop (c :: rest) = c :: rest := by
  -- The first character is looked at first.
  simp [trimStartBy, kept]

/-- What stands up to a character that is kept is kept at the end. -/
theorem trimEndBy_append_cons (kept : drop c = false) (front rest : List Char) :
    trimEndBy drop (front ++ c :: rest) = front ++ c :: trimEndBy drop rest := by
  -- From the right, the rest is met first, and then the character that stops the trimming.
  simp only [trimEndBy, List.reverse_append, List.reverse_cons, List.append_assoc,
    List.singleton_append, List.dropWhile_append, List.dropWhile_cons, kept]
  split
  · rename_i gone
    simp only [List.isEmpty_iff] at gone
    simp [gone]
  · simp

/-- Trimming makes no text longer. -/
theorem length_trimEndBy_le (drop : Char → Bool) (text : List Char) :
    (trimEndBy drop text).length ≤ text.length := by
  -- What is left of the reversed text is a part of it.
  have shorter := (List.dropWhile_sublist drop (l := text.reverse)).length_le
  simpa [trimEndBy] using shorter

/-- Of a text that is all dropped nothing is left. -/
theorem trimEndBy_of_all (dropped : ∀ c ∈ after, drop c = true) : trimEndBy drop after = [] := by
  -- From the end everything is dropped as well.
  have backwards : ∀ c ∈ after.reverse, drop c = true := by simpa using dropped
  have gone : after.reverse.dropWhile drop = [] := by
    simpa using @List.dropWhile_append_of_pos _ _ _ [] backwards
  rw [trimEndBy, gone, List.reverse_nil]

/-- From the first character on that is not blank, only the end is trimmed. -/
theorem trimBlanks_append_cons (blankBefore : ∀ c ∈ before, isBlank c = true)
    (solid : isBlank c = false) (rest : List Char) :
    trimBlanks (before ++ c :: rest) = c :: trimEndBy isBlank rest := by
  -- The blanks in front go first, and then the end is trimmed.
  rw [trimBlanks, trimBy, trimStartBy_append blankBefore, trimStartBy_cons solid]
  exact trimEndBy_append_cons solid [] rest

/-- Blanks around a text are trimmed, and nothing else. -/
theorem trimBlanks_spaced (blankBefore : ∀ c ∈ before, isBlank c = true)
    (trimmed : isTrimmed text = true) (blankAfter : ∀ c ∈ after, isBlank c = true) :
    trimBlanks (before ++ text ++ after) = text := by
  -- The first and the last character of the text stop the trimming on their sides.
  obtain ⟨c, rest, starts, solid⟩ := exists_head_of_isTrimmed trimmed
  obtain ⟨front, d, ends, closing⟩ := exists_last_of_isTrimmed trimmed
  have left : trimBlanks (before ++ text ++ after) = trimEndBy isBlank (text ++ after) := by
    rw [List.append_assoc, starts, List.cons_append, trimBlanks_append_cons blankBefore solid]
    exact (trimEndBy_append_cons solid [] (rest ++ after)).symm
  -- The last character of the text stops the trimming on the right.
  rw [left, ends, List.append_assoc, List.singleton_append, trimEndBy_append_cons closing,
    trimEndBy_of_all blankAfter]

/-- Blanks behind a trimmed text are taken off. -/
theorem trimBlanks_append (trimmed : isTrimmed text = true)
    (blankAfter : ∀ c ∈ after, isBlank c = true) : trimBlanks (text ++ after) = text := by
  -- There may be none in front.
  have spaced : trimBlanks ([] ++ text ++ after) = text :=
    trimBlanks_spaced (by simp) trimmed blankAfter
  exact spaced

/-- A trimmed text is left alone. -/
theorem trimBlanks_of_isTrimmed (trimmed : isTrimmed text = true) : trimBlanks text = text := by
  -- There may be none behind it either.
  have alone : trimBlanks (text ++ []) = text := trimBlanks_append trimmed (by simp)
  rwa [List.append_nil] at alone

end SourceAtlas
