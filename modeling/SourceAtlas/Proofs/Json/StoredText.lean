import SourceAtlas.Proofs.Json.RoundTrip
import SourceAtlas.Text.Utf8

/-! Stored text has no carriage returns, so that a file gives it back as it was written. -/

namespace SourceAtlas

/-- A text without carriage returns has its line ends in the one form. -/
theorem unifyLineEnds_eq_self {text : List Char} (noReturn : '\r' ∉ text) :
    unifyLineEnds text = text := by
  -- From the end on, no character is ever taken for the start of a line end.
  have step : ∀ text : List Char, '\r' ∉ text → (text.foldr unifyStep (false, [])).2 = text := by
    intro text
    induction text with
    | nil => simp
    | cons c text ih =>
      intro noReturn
      simp only [List.mem_cons, not_or] at noReturn
      have other : (c == '\r') = false := by simpa using Ne.symm noReturn.1
      simp [unifyStep, other, ih noReturn.2]
  exact step text noReturn

/-- A text without carriage returns is what its bytes are read as. -/
private theorem decodeText?_toUTF8 {text : String} (noReturn : '\r' ∉ text.toList) :
    decodeText? text.toUTF8 = some text := by
  -- The bytes of a text are valid, and decode to the text.
  have valid : text.toUTF8.IsValidUTF8 := text.isValidUTF8
  have decoded : String.fromUTF8? text.toUTF8 = some text := by
    rw [String.fromUTF8?, dif_pos valid]
    rfl
  rw [decodeText?, decoded, Option.map_some, unifyLineEnds_eq_self noReturn, String.ofList_toList]

namespace Json

/-- A digit is no carriage return. -/
theorem noReturn_of_digits {digits : List Char} (all : ∀ c ∈ digits, c.isDigit = true) :
    '\r' ∉ digits := by
  -- A carriage return is no digit.
  intro member
  have := all _ member
  revert this
  decide

/-- A hexadecimal digit is no carriage return. -/
private theorem noReturn_hexDigits (width value : Nat) : '\r' ∉ hexDigits width value := by
  -- The digits are written from the last place on.
  induction width generalizing value with
  | zero => simp [hexDigits]
  | succ width ih =>
    simp only [hexDigits, List.mem_append, List.mem_singleton, not_or]
    refine ⟨ih _, fun same => ?_⟩
    -- A carriage return has no value as a digit.
    have digit := hexValue?_hexDigit (Nat.mod_lt value (by decide : 16 > 0))
    rw [← same] at digit
    simp [show hexValue? '\r' = none by decide] at digit

/-- Strings are written without carriage returns. -/
theorem noReturn_quoteString (text : String) : '\r' ∉ quoteString false text := by
  -- What is written for one character has none.
  have escaped : ∀ c, '\r' ∉ escapeChar false c := by
    intro c
    -- A carriage return itself is escaped by a letter.
    unfold escapeChar
    repeat' split
    all_goals first | decide | skip
    · simpa [escapeUnit] using noReturn_hexDigits 4 c.toNat
    · simp_all
    · rename_i notReturn _ _ _ _ _
      simpa using Ne.symm (by simpa using notReturn : c ≠ '\r')
  simp only [quoteString, List.mem_cons, List.mem_append, List.mem_flatMap, not_or,
    not_exists, not_and]
  exact ⟨by decide, fun c _ => escaped c, by decide⟩

/-- Numerals are written without carriage returns. -/
private theorem noReturn_of_isNumeral {text : List Char} (numeral : IsNumeral text) :
    '\r' ∉ text := by
  -- A numeral is made of digits, a point, a sign and a letter.
  obtain ⟨whole, fraction, exponent, rfl, isWhole, isFraction, isExponent, _⟩ := numeral
  simp only [List.mem_append, not_or]
  refine ⟨?_, ?_, ?_⟩
  · rcases isWhole with rfl | ⟨_, digits⟩
    · decide
    · exact noReturn_of_digits digits
  · rcases isFraction with rfl | ⟨digits, rfl, _, all⟩
    · decide
    · simpa using noReturn_of_digits all
  · rcases isExponent with rfl | ⟨sign, digits, rfl, isSign, _, all⟩
    · decide
    · rcases isSign with rfl | rfl <;> simpa using noReturn_of_digits all

/-- Doubles are written without carriage returns. -/
private theorem noReturn_storedNumber (x : Binary64) :
    '\r' ∉ (JsonStyle.storedNumber x).toList := by
  -- A double is written as a numeral with a sign, or as a word.
  unfold JsonStyle.storedNumber
  split
  · have magnitude := noReturn_of_isNumeral (isNumeral_magnitude x)
    simp only [FloatLayout.finite, String.toList_ofList]
    split <;> simpa using magnitude
  · decide

/-- Integers are written without carriage returns. -/
private theorem noReturn_intChars (value : Int) : '\r' ∉ intChars value := by
  -- Every digit of an integer is a digit.
  have digits : '\r' ∉ Nat.toDigits 10 value.natAbs :=
    noReturn_of_digits fun c member => Nat.isDigit_of_mem_toDigits (by decide) (by decide) member
  unfold intChars
  split <;> simpa using digits

/-- Line breaks of stored files hold no carriage returns. -/
theorem noReturn_lineBreak (level : Nat) : '\r' ∉ lineBreak .stored level := by
  -- A line break is a line end and blanks.
  simp [lineBreak, JsonStyle.stored]

/-- Stored text holds no carriage returns. -/
private theorem noReturn_print (value : Json) : ∀ level, '\r' ∉ print .stored level value := by
  -- The induction is over the value, in which each text and number is written without one.
  induction value using Json.induction with
  | null => intro level; simp [print]
  | bool value => intro level; cases value <;> simp [print]
  | int value => intro level; simpa only [print] using noReturn_intChars value
  | float value =>
    intro level; simpa only [print, JsonStyle.stored] using noReturn_storedNumber value
  | str value =>
    intro level; simpa only [print, JsonStyle.stored] using noReturn_quoteString value
  | torn shown =>
    intro level; simpa only [print, JsonStyle.stored] using noReturn_quoteString shown
  | arr items ih =>
    intro level
    -- The items after the first are written one after the other, each behind a
    -- comma and a line break.
    have others : ∀ items : List Json, (∀ item ∈ items, ∀ level, '\r' ∉ print .stored level item) →
        '\r' ∉ printItems .stored (level + 1) items := by
      intro items
      induction items with
      | nil => simp [printItems]
      | cons item items inner =>
        intro clean
        simp only [List.forall_mem_cons] at clean
        simp [printItems, noReturn_lineBreak, clean.1, inner clean.2]
    cases items with
    | nil => simp [print]
    | cons item items =>
      simp only [List.forall_mem_cons] at ih
      simp [print, noReturn_lineBreak, ih.1, others items ih.2]
  | obj fields ih =>
    intro level
    have key : ∀ name, '\r' ∉ quoteString JsonStyle.stored.asciiOnly name := noReturn_quoteString
    have mark : '\r' ∉ colon .stored := by decide
    have others : ∀ fields : List (String × Json),
        (∀ entry ∈ fields, ∀ level, '\r' ∉ print .stored level entry.2) →
        '\r' ∉ printFields .stored (level + 1) fields := by
      intro fields
      induction fields with
      | nil => simp [printFields]
      | cons entry fields inner =>
        intro clean
        simp only [List.forall_mem_cons] at clean
        simp [printFields, noReturn_lineBreak, key, mark, clean.1, inner clean.2]
    cases fields with
    | nil => simp [print]
    | cons entry fields =>
      simp only [List.forall_mem_cons] at ih
      simp [print, noReturn_lineBreak, key, mark, ih.1, others fields ih.2]

/-- The file of a stored value is read as the text that was written. -/
theorem decodeText?_render (value : Json) :
    decodeText? (value.render .stored).toUTF8 = some (value.render .stored) :=
  decodeText?_toUTF8 (by simpa [render] using noReturn_print value 0)

end Json

end SourceAtlas
