import SourceAtlas.Json.Printer
import SourceAtlas.Json.Reader

/-! Written numbers are read whole, and integers read back as themselves. -/

namespace SourceAtlas.Json

/-- What may follow a value in a stored text: the end, a comma or a line end. -/
def Closes (rest : List Char) : Prop :=
  ∀ c, rest.head? = some c → c = ',' ∨ c = '\n'

/-- A text that is read as one plain value, up to whatever closes it, or not read at all. -/
def Legible (text : List Char) (readable : Bool) (value : Json) : Prop :=
  ∀ rest, Closes rest → ∀ offset, ∃ after found,
    readPlain ⟨text ++ rest, offset⟩ = if readable then .ok (value, ⟨rest, after⟩) else .error found

/-- A text of which no further character satisfies a test leaves nothing to take. -/
private theorem takeWhile_eq_nil_of_head {pass : Char → Bool} {text : List Char}
    (stops : ∀ c, text.head? = some c → pass c = false) : text.takeWhile pass = [] := by
  -- The first character decides.
  cases text with
  | nil => rfl
  | cons c text => simp [stops c rfl]

/-- A run of characters that pass is taken whole when what follows does not start with one. -/
theorem takeWhile_run {pass : Char → Bool} {run text : List Char} (all : ∀ c ∈ run, pass c = true)
    (stops : ∀ c, text.head? = some c → pass c = false) : (run ++ text).takeWhile pass = run := by
  -- Behind the run nothing passes.
  rw [List.takeWhile_append_of_pos all, takeWhile_eq_nil_of_head stops, List.append_nil]

/-- The whole part of a numeral: a single zero, or digits that do not start with one. -/
def IsWhole (text : List Char) : Prop :=
  text = ['0'] ∨ (∃ c rest, text = c :: rest ∧ c ≠ '0') ∧ ∀ c ∈ text, c.isDigit = true

/-- The fraction of a numeral, which may be missing. -/
def IsFraction (text : List Char) : Prop :=
  text = [] ∨ ∃ digits, text = '.' :: digits ∧ digits ≠ [] ∧ ∀ c ∈ digits, c.isDigit = true

/-- The exponent of a numeral, which may be missing. -/
def IsExponent (text : List Char) : Prop :=
  text = [] ∨ ∃ sign digits, text = 'e' :: (sign ++ digits) ∧ (sign = [] ∨ sign = ['-']) ∧
    digits ≠ [] ∧ ∀ c ∈ digits, c.isDigit = true

/-- A numeral that is not read: an integer of too many digits. -/
def isOversized (whole fraction exponent : List Char) : Bool :=
  fraction.isEmpty && exponent.isEmpty && decide (digitLimit < whole.length)

/-- The value of a numeral by its parts. -/
def numeralValue (sign whole fraction exponent : List Char) : Json :=
  if fraction.isEmpty && exponent.isEmpty then
    .int (if sign.isEmpty then digitsValue whole else -(digitsValue whole : Int))
  else .float ((readFloat? (sign ++ whole ++ fraction ++ exponent)).getD Binary64.nan)

/-- A whole part starts with a digit. -/
theorem IsWhole.head {text : List Char} (isWhole : IsWhole text) :
    ∃ c rest, text = c :: rest ∧ c.isDigit = true := by
  -- A zero is a digit too.
  rcases isWhole with rfl | ⟨⟨c, rest, rfl, _⟩, digits⟩
  · exact ⟨'0', [], rfl, by decide⟩
  · exact ⟨c, rest, rfl, digits c (by simp)⟩

/-- The whole part is found in front of what does not start with a digit. -/
theorem wholePart_append {whole text : List Char} (isWhole : IsWhole whole)
    (stops : ∀ c, text.head? = some c → c.isDigit = false) : wholePart (whole ++ text) = whole := by
  -- After a zero the whole part ends, whatever follows.
  rcases isWhole with rfl | ⟨⟨c, rest, rfl, nonzero⟩, digits⟩
  · rfl
  · -- A run of digits that starts with no zero is taken whole.
    unfold wholePart
    split
    · rename_i zero
      simp only [List.cons_append, List.cons.injEq] at zero
      exact absurd zero.1 nonzero
    · exact takeWhile_run digits stops

/-- The fraction is found in front of what starts with neither a point nor a digit. -/
theorem fractionPart_append {fraction text : List Char} (isFraction : IsFraction fraction)
    (stops : ∀ c, text.head? = some c → c.isDigit = false ∧ c ≠ '.') :
    fractionPart (fraction ++ text) = fraction := by
  -- Without digits behind it a point is no fraction.
  rcases isFraction with rfl | ⟨digits, rfl, nonempty, all⟩
  · unfold fractionPart
    split
    · rename_i tail point
      exact absurd rfl (stops '.' (by simpa using congrArg List.head? point)).2
    · rfl
  · have run := takeWhile_run all fun c found => (stops c found).1
    simp [fractionPart, run, nonempty]

/-- The exponent is found in front of what closes a value. -/
theorem exponentPart_append {exponent rest : List Char} (isExponent : IsExponent exponent)
    (closes : Closes rest) : exponentPart (exponent ++ rest) = exponent := by
  have stops : ∀ c, rest.head? = some c → c.isDigit = false := by
    intro c found
    rcases closes c found with rfl | rfl <;> decide
  rcases isExponent with rfl | ⟨sign, digits, rfl, isSign, nonempty, all⟩
  · -- Neither a comma nor a line end marks an exponent.
    cases rest with
    | nil => rfl
    | cons c rest => rcases closes c rfl with rfl | rfl <;> rfl
  · have run := takeWhile_run all stops
    rcases isSign with rfl | rfl
    · -- Without a sign the mark is followed by a digit at once.
      obtain ⟨d, more, rfl⟩ := List.exists_cons_of_ne_nil nonempty
      have notPlus : d ≠ '+' := by
        rintro rfl
        simpa using all '+' (by simp)
      have notMinus : d ≠ '-' := by
        rintro rfl
        simpa using all '-' (by simp)
      simp only [List.cons_append] at run
      simp [exponentPart, notPlus, notMinus, run]
    · simp [exponentPart, run, nonempty]

/-- What follows the fraction of a numeral starts with neither a digit nor a point. -/
private theorem exponentTail_head {exponent rest : List Char} (isExponent : IsExponent exponent)
    (closes : Closes rest) :
    ∀ c, (exponent ++ rest).head? = some c → c.isDigit = false ∧ c ≠ '.' := by
  -- An exponent starts with its letter, and otherwise the value is closed.
  intro c found
  rcases isExponent with rfl | ⟨sign, digits, rfl, _, _⟩
  · rcases closes c (by simpa using found) with rfl | rfl <;> decide
  · obtain rfl : c = 'e' := by simpa using found.symm
    decide

/-- What follows the whole part of a numeral starts with no digit. -/
private theorem numeralTail_head {fraction exponent rest : List Char}
    (isFraction : IsFraction fraction) (isExponent : IsExponent exponent) (closes : Closes rest) :
    ∀ c, (fraction ++ (exponent ++ rest)).head? = some c → c.isDigit = false := by
  -- A fraction starts with its point.
  intro c found
  rcases isFraction with rfl | ⟨digits, rfl, _, _⟩
  · exact (exponentTail_head isExponent closes c found).1
  · obtain rfl : c = '.' := by simpa using found.symm
    decide

/-- A numeral is read up to whatever closes it, and its value depends on its own parts only; one of
too many digits is not read at all. -/
theorem readNumber_append {sign whole fraction exponent rest : List Char}
    (isSign : sign = [] ∨ sign = ['-']) (isWhole : IsWhole whole) (isFraction : IsFraction fraction)
    (isExponent : IsExponent exponent) (closes : Closes rest) (offset : Nat) :
    ∃ after found, readNumber ⟨sign ++ (whole ++ (fraction ++ (exponent ++ rest))), offset⟩
      = if isOversized whole fraction exponent then .error found
        else .ok (numeralValue sign whole fraction exponent, ⟨rest, after⟩) := by
  -- The parts are found from left to right, each up to the start of the next.
  have wholeFound := wholePart_append isWhole (numeralTail_head isFraction isExponent closes)
  have fractionFound := fractionPart_append isFraction (exponentTail_head isExponent closes)
  have exponentFound := exponentPart_append isExponent closes
  obtain ⟨c, more, isDigits, digit⟩ := isWhole.head
  have nonempty : whole ≠ [] := by simp [isDigits]
  -- The sign is told from a digit, and with that all four parts are found.
  have signFound : signPart (sign ++ (whole ++ (fraction ++ (exponent ++ rest)))) = sign := by
    rcases isSign with rfl | rfl
    · have notMinus : c ≠ '-' := by
        rintro rfl
        simp at digit
      subst isDigits
      simp [signPart, notMinus]
    · rfl
  -- Each part is found where the parts before it end.
  have toExponent : (whole ++ (fraction ++ (exponent ++ rest))).drop
      (whole.length + fraction.length) = exponent ++ rest := by
    rw [← List.append_assoc, ← List.length_append, List.drop_left]
  have toEnd : (sign ++ (whole ++ (fraction ++ (exponent ++ rest)))).drop
      (sign.length + whole.length + fraction.length + exponent.length) = rest := by
    rw [← List.append_assoc sign, ← List.append_assoc _ fraction, ← List.append_assoc _ exponent,
      ← List.length_append, ← List.length_append, ← List.length_append, List.drop_left]
  refine ⟨offset + (sign.length + whole.length + fraction.length + exponent.length),
    ⟨.tooManyDigits whole.length, offset⟩, ?_⟩
  simp only [readNumber, signFound, List.drop_left, wholeFound, fractionFound, toExponent,
    exponentFound, List.isEmpty_iff, nonempty, if_false, Place.advance, toEnd, numeralValue,
    isOversized, Place.fault]
  -- Only an integer is measured, and then its length decides.
  by_cases isInteger : (fraction.isEmpty && exponent.isEmpty) = true
  · by_cases long : digitLimit < whole.length <;> simp [isInteger, long]
  · simp [isInteger]

/-- A text that starts with a digit, or with a minus before one, is none of the words. -/
private theorem wordValues_find?_numeral {sign : List Char} {c : Char}
    (isSign : sign = [] ∨ sign = ['-']) (digit : c.isDigit = true) (text : List Char) :
    (wordValues.find? fun word => startsWith word.1 (sign ++ c :: text)) = none := by
  -- Every word starts with a letter or a minus and a letter.
  have other : ∀ d : Char, d.isDigit = false → d ≠ c := by
    rintro d notDigit rfl
    simp [digit] at notDigit
  rcases isSign with rfl | rfl
  · simp [wordValues, startsWith, dropStart?, other 'n' (by decide), other 't' (by decide),
      other 'f' (by decide), other 'N' (by decide), other 'I' (by decide), other '-' (by decide)]
  · simp [wordValues, startsWith, dropStart?, other 'I' (by decide)]

/-- Every numeral is legible, unless it is an integer of too many digits. -/
theorem legible_numeral {sign whole fraction exponent : List Char}
    (isSign : sign = [] ∨ sign = ['-']) (isWhole : IsWhole whole) (isFraction : IsFraction fraction)
    (isExponent : IsExponent exponent) :
    Legible (sign ++ (whole ++ (fraction ++ exponent))) (!isOversized whole fraction exponent)
      (numeralValue sign whole fraction exponent) := by
  -- No word starts like a numeral, so it is read as a number.
  intro rest closes offset
  obtain ⟨after, found, read⟩ :=
    readNumber_append isSign isWhole isFraction isExponent closes offset
  obtain ⟨c, more, rfl, digit⟩ := isWhole.head
  have noWord := wordValues_find?_numeral isSign digit (more ++ (fraction ++ (exponent ++ rest)))
  refine ⟨after, found, ?_⟩
  simp only [List.append_assoc, List.cons_append] at read noWord ⊢
  simp only [readPlain, noWord, read]
  cases isOversized (c :: more) fraction exponent <;> rfl

/-- The digits of a positive number do not start with zero. -/
theorem toDigits_head_ne_zero (n : Nat) (positive : 0 < n) :
    ∃ c rest, Nat.toDigits 10 n = c :: rest ∧ c ≠ '0' := by
  induction n using Nat.base_induction 10 (by decide) with
  | single m small =>
    -- A single digit is the number itself.
    refine ⟨m.digitChar, [], Nat.toDigits_of_lt_base small, ?_⟩
    revert m
    decide
  | digit m last isDigit higher ih =>
    -- Further digits go to the end.
    obtain ⟨c, rest, digits, nonzero⟩ := ih higher
    rw [← Nat.toDigits_append_toDigits (by decide) higher isDigit, digits]
    exact ⟨c, rest ++ Nat.toDigits 10 last, rfl, nonzero⟩

/-- The digits of a number are a whole part. -/
theorem isWhole_toDigits (n : Nat) : IsWhole (Nat.toDigits 10 n) := by
  -- Zero is written as a single zero.
  rcases Nat.eq_zero_or_pos n with rfl | positive
  · exact .inl (Nat.toDigits_zero 10)
  · exact .inr ⟨toDigits_head_ne_zero n positive,
      fun c member => Nat.isDigit_of_mem_toDigits (by decide) (by decide) member⟩

/-- The digits of a number have the number as their value. -/
private theorem digitsValue_toDigits (n : Nat) : digitsValue (Nat.toDigits 10 n) = n := by
  -- Digit by digit, the value is ten times the value before and the digit.
  have same : digitsValue (Nat.toDigits 10 n) = Nat.ofDigitChars 10 (Nat.toDigits 10 n) 0 := by
    simp only [digitsValue, Nat.ofDigitChars_eq_foldl, Nat.mul_comm]
  rw [same, Nat.ofDigitChars_ten_toDigits]

/-- An integer without sign is oversized iff it has more digits than can be read. -/
private theorem isOversized_toDigits (value : Int) :
    isOversized (Nat.toDigits 10 value.natAbs) [] [] = !hasFewDigits value := by
  -- More than the limit is what is not at most the limit.
  simp only [isOversized, hasFewDigits, List.isEmpty_nil, Bool.true_and, ← decide_not, Nat.not_le]

/-- An integer reads back as itself, if it has no more digits than can be read. -/
theorem legible_intChars (value : Int) :
    Legible (intChars value) (hasFewDigits value) (.int value) := by
  -- The sign is written apart from the digits, and applied to their value.
  unfold intChars
  split
  · rename_i negative
    have legible := legible_numeral (.inr rfl) (isWhole_toDigits value.natAbs) (.inl rfl) (.inl rfl)
    have isValue : numeralValue ['-'] (Nat.toDigits 10 value.natAbs) [] [] = .int value := by
      rw [numeralValue, digitsValue_toDigits]
      exact congrArg Json.int (by omega : -(value.natAbs : Int) = value)
    rw [isValue, isOversized_toDigits, Bool.not_not] at legible
    simpa using legible
  · rename_i positive
    have legible := legible_numeral (.inl rfl) (isWhole_toDigits value.natAbs) (.inl rfl) (.inl rfl)
    have isValue : numeralValue [] (Nat.toDigits 10 value.natAbs) [] [] = .int value := by
      rw [numeralValue, digitsValue_toDigits]
      exact congrArg Json.int (by omega : (value.natAbs : Int) = value)
    rw [isValue, isOversized_toDigits, Bool.not_not] at legible
    simpa using legible

/-- The words for null and the two booleans are legible. -/
theorem legible_words : Legible "null".toList true .null ∧ Legible "true".toList true (.bool true) ∧
    Legible "false".toList true (.bool false) := by
  -- Each of them is one of the known words, and is found in front of the rest.
  refine ⟨fun rest _ offset => ⟨offset + 4, ⟨.extraData, 0⟩, ?_⟩,
    fun rest _ offset => ⟨offset + 4, ⟨.extraData, 0⟩, ?_⟩,
    fun rest _ offset => ⟨offset + 5, ⟨.extraData, 0⟩, ?_⟩⟩ <;>
    simp [readPlain, wordValues, startsWith, dropStart?, Place.advance]

end SourceAtlas.Json
