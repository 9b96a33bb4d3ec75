import SourceAtlas.Proofs.Json.Numbers

/-! Stored doubles are numerals, so a stored text that holds one can always be read again. -/

namespace SourceAtlas

namespace Binary64

/-- A nonzero finite magnitude has a nonzero significand. -/
private theorem significand_pos {x : Binary64} (nonzero : x.magnitudeBits ≠ 0) :
    0 < x.significand := by
  -- A normal double has its hidden bit, and a subnormal one the bits that are there.
  have power : Nat.pow 2 52 = 4503599627370496 := rfl
  simp only [significand, power]
  split
  · rename_i subnormal
    omega
  · omega

/-- The reals that round to a nonzero double stay away from zero. -/
private theorem interval_low_pos {x : Binary64} (nonzero : x.magnitudeBits ≠ 0) :
    0 < x.interval.low := by
  -- Even the lower end of the interval is a positive multiple of the unit.
  have := significand_pos nonzero
  simp only [interval]
  split <;> omega

namespace RoundingInterval

/-- Zero never lies in an interval that stays away from it. -/
theorem holds_zero {i : RoundingInterval} (apart : 0 < i.low) (k : Int) : i.holds 0 k = false := by
  -- The lower end is positive on every grid, so zero lies below it.
  have two : 0 < Nat.pow 2 i.unit.toNat := Nat.pow_pos (by decide)
  have ten : 0 < Nat.pow 10 (-k).toNat := Nat.pow_pos (by decide)
  have positive := Nat.mul_pos (Nat.mul_pos apart two) ten
  unfold holds
  split
  · simp only [binaryLeDecimal, Nat.zero_mul, Nat.le_zero_eq, Bool.and_eq_false_imp,
      decide_eq_true_eq]
    intro isZero
    omega
  · simp [decimalLeBinary]

/-- A chosen grid point is not zero. -/
private theorem choose?_pos {i : RoundingInterval} (apart : 0 < i.low) {k : Int} {d : Nat}
    (chosen : i.choose? k = some d) : 0 < d := by
  rcases Nat.eq_zero_or_pos d with rfl | positive
  · -- Zero could only be the grid point below, which the interval does not hold.
    have refused := holds_zero apart k
    simp only [choose?] at chosen
    split at chosen
    · rename_i below _
      split at chosen
      · simp only [Option.some.injEq] at chosen
        simp [chosen, refused] at below
      · simp at chosen
    · rename_i below _
      simp only [Option.some.injEq] at chosen
      simp [chosen, refused] at below
    · simp at chosen
    · simp at chosen
  · exact positive

/-- The search never ends at zero. -/
private theorem search_pos {i : RoundingInterval} (apart : 0 < i.low) :
    ∀ (steps : Nat) (k : Int), 0 < (i.search steps k).1 := by
  intro steps
  -- The last step takes at least one, and every other one chooses or goes on.
  induction steps with
  | zero =>
    intro k
    simp only [search]
    omega
  | succ steps ih =>
    intro k
    simp only [search]
    cases chosen : i.choose? k with
    | none => exact ih (k - 1)
    | some d => exact choose?_pos apart chosen

end RoundingInterval

/-- The shortest digits of a nonzero double are digits, of which the first is no zero. -/
private theorem shortest_digits {x : Binary64} (nonzero : x.magnitudeBits ≠ 0) :
    ∃ c rest, x.shortest.digits = c :: rest ∧ c ≠ '0' ∧ ∀ d ∈ c :: rest, d.isDigit = true := by
  -- What the search finds is positive, so its digits start with no zero.
  have positive :=
    RoundingInterval.search_pos (interval_low_pos nonzero) 17 (pointOf x.interval - 1)
  obtain ⟨c, rest, digits, first⟩ := Json.toDigits_head_ne_zero _ positive
  -- Trailing zeros are cut off from behind, and the first digit stops that.
  obtain ⟨kept, cut⟩ : ∃ kept, (rest.reverse ++ [c]).dropWhile (· == '0') = kept ++ [c] := by
    rw [List.dropWhile_append]
    split
    · exact ⟨[], by simp [first]⟩
    · exact ⟨_, rfl⟩
  have shape : x.shortest.digits = c :: kept.reverse := by
    simp only [shortest, digits, List.reverse_cons, cut, List.reverse_append, List.reverse_nil,
      List.nil_append, List.cons_append]
  refine ⟨c, kept.reverse, shape, first, ?_⟩
  intro d member
  -- Cutting keeps only digits of the number itself.
  have inside : d ∈ Nat.toDigits 10 (x.interval.search 17 (pointOf x.interval - 1)).1 := by
    have kept_sub : d ∈ kept ++ [c] := by simpa [or_comm] using member
    rw [← cut] at kept_sub
    have := (List.dropWhile_sublist _).subset kept_sub
    simpa [digits, or_comm] using this
  exact Nat.isDigit_of_mem_toDigits (by decide) (by decide) inside

end Binary64

namespace Json

/-- A numeral without a sign that is no integer: it has a fraction or an exponent. -/
def IsNumeral (text : List Char) : Prop :=
  ∃ whole fraction exponent, text = whole ++ (fraction ++ exponent) ∧ IsWhole whole ∧
    IsFraction fraction ∧ IsExponent exponent ∧ fraction ++ exponent ≠ []

/-- A numeral with a fraction or an exponent is never oversized. -/
private theorem isOversized_of_marked {fraction exponent : List Char}
    (marked : fraction ++ exponent ≠ []) (whole : List Char) :
    isOversized whole fraction exponent = false := by
  -- The fraction and the exponent are not both missing.
  have noInteger : (fraction.isEmpty && exponent.isEmpty) = false := by simpa using marked
  rw [isOversized, noInteger, Bool.false_and]

/-- An exponent that is written is not empty. -/
theorem exponentText_ne_nil (layout : FloatLayout) (exponent : Int) :
    layout.exponentText exponent ≠ [] := by
  -- The sign or the mark stands in front of the digits.
  simp only [FloatLayout.exponentText]
  split
  · simp
  · split <;> simp

/-- Digits that do not start with zero are a whole part. -/
theorem isWhole_cons {c : Char} {rest : List Char} (first : c ≠ '0')
    (digits : ∀ d ∈ c :: rest, d.isDigit = true) : IsWhole (c :: rest) :=
  .inr ⟨⟨c, rest, rfl, first⟩, digits⟩

/-- The exponent of a layout that writes no plus sign is an exponent. -/
private theorem isExponent_exponentText {layout : FloatLayout} (bare : layout.plusSign = false)
    (exponent : Int) : IsExponent (layout.exponentText exponent) := by
  -- Zeros that fill the width are digits like the others.
  have padded : ∀ d ∈ List.replicate
      (layout.exponentWidth - (Nat.toDigits 10 exponent.natAbs).length) '0' ++
      Nat.toDigits 10 exponent.natAbs, d.isDigit = true := by
    intro d member
    rcases List.mem_append.mp member with zero | digit
    · rw [(List.mem_replicate.mp zero).2]
      decide
    · exact Nat.isDigit_of_mem_toDigits (by decide) (by decide) digit
  simp only [FloatLayout.exponentText, bare]
  split
  · exact .inr ⟨['-'], _, rfl, .inr rfl, by simp [Nat.toDigits_ne_nil], padded⟩
  · exact .inr ⟨[], _, rfl, .inl rfl, by simp [Nat.toDigits_ne_nil], padded⟩

/-- Digits that do not start with zero are laid out as a numeral. -/
private theorem isNumeral_place {layout : FloatLayout} (bare : layout.plusSign = false)
    {decimal : Decimal} {c : Char} {rest : List Char} (shape : decimal.digits = c :: rest)
    (first : c ≠ '0') (digits : ∀ d ∈ c :: rest, d.isDigit = true) :
    IsNumeral (layout.place decimal) := by
  -- Zeros fill up places before and behind the point.
  have zeros : ∀ count, ∀ d ∈ List.replicate count '0', d.isDigit = true := by
    intro count d member
    rw [(List.mem_replicate.mp member).2]
    decide
  have exponent := isExponent_exponentText bare (decimal.point - 1)
  have head : IsWhole [c] := isWhole_cons first fun d member => digits d (by simp_all)
  simp only [FloatLayout.place, shape]
  split
  · split
    · -- All digits stand after the point.
      refine ⟨['0'], _, [], (by simp; rfl), .inl rfl, .inr ⟨_, rfl, by simp, ?_⟩, .inl rfl, by simp⟩
      intro d member
      rcases List.mem_append.mp member with zero | digit
      · exact zeros _ d zero
      · exact digits d digit
    split
    · -- All digits stand before the point, and zeros fill the gap.
      refine ⟨c :: (rest ++ List.replicate (decimal.point.toNat - (c :: rest).length) '0'),
        ['.', '0'], [], by simp, isWhole_cons first ?_, .inr ⟨['0'], rfl, by simp, by simp⟩,
        .inl rfl, by simp⟩
      intro d member
      rw [← List.cons_append] at member
      rcases List.mem_append.mp member with digit | zero
      · exact digits d digit
      · exact zeros _ d zero
    · -- The point stands among the digits.
      rename_i inner longer
      obtain ⟨count, isCount⟩ : ∃ count, decimal.point.toNat = count + 1 :=
        ⟨decimal.point.toNat - 1, by omega⟩
      rw [isCount] at longer ⊢
      refine ⟨c :: rest.take count, '.' :: rest.drop count, [], by simp,
        isWhole_cons first fun d member => digits d ?_,
        .inr ⟨_, rfl, ?_, fun d member => digits d ?_⟩, .inl rfl, by simp⟩
      · rcases List.mem_cons.mp member with rfl | later
        · simp
        · exact List.mem_cons_of_mem c (List.mem_of_mem_take later)
      · simp only [List.length_cons] at longer
        simp only [ne_eq, List.drop_eq_nil_iff]
        omega
      · exact List.mem_cons_of_mem c (List.mem_of_mem_drop member)
  · -- Far from the point, one digit stands before it and an exponent follows.
    cases rest with
    | nil => exact ⟨[c], [], _, by simp, head, .inl rfl, exponent, exponentText_ne_nil layout _⟩
    | cons d more =>
      refine ⟨[c], '.' :: d :: more, _, by simp, head, .inr ⟨_, rfl, by simp, ?_⟩, exponent,
        by simp⟩
      exact fun e member => digits e (List.mem_cons_of_mem c member)

/-- The magnitude of every double is written as a numeral in stored files. -/
theorem isNumeral_magnitude (x : Binary64) :
    IsNumeral (if x.magnitudeBits = 0 then ['0', '.', '0']
      else FloatLayout.stored.place x.shortest) := by
  -- Zero has digits of its own, and every other magnitude has its shortest ones.
  split
  · exact ⟨['0'], ['.', '0'], [], rfl, .inl rfl, .inr ⟨['0'], rfl, by simp, by simp⟩, .inl rfl,
      by simp⟩
  · rename_i nonzero
    obtain ⟨c, rest, shape, first, digits⟩ := Binary64.shortest_digits nonzero
    exact isNumeral_place rfl shape first digits

/-- The stored text of every double is legible. -/
private theorem exists_legible_storedNumber (x : Binary64) :
    ∃ value, Legible (JsonStyle.storedNumber x).toList true value := by
  unfold JsonStyle.storedNumber
  -- Finite doubles are a sign and a numeral, all others a word.
  split
  · obtain ⟨whole, fraction, exponent, shape, isWhole, isFraction, isExponent, marked⟩ :=
      isNumeral_magnitude x
    have readable : (!isOversized whole fraction exponent) = true := by
      rw [isOversized_of_marked marked]; rfl
    simp only [FloatLayout.finite, shape, String.toList_ofList]
    split
    · exact ⟨_, readable ▸ legible_numeral (.inr rfl) isWhole isFraction isExponent⟩
    · exact ⟨_, readable ▸ legible_numeral (.inl rfl) isWhole isFraction isExponent⟩
  · exact ⟨_, legible_words.1⟩

/-- What the stored text of a double is read as. -/
def rereadDouble (x : Binary64) : Json :=
  match readPlain ⟨(JsonStyle.storedNumber x).toList, 0⟩ with
  | .ok (value, _) => value
  | .error _ => .null

/-- The stored text of a double is read the same wherever it stands. -/
theorem legible_storedNumber (x : Binary64) :
    Legible (JsonStyle.storedNumber x).toList true (rereadDouble x) := by
  -- Read alone or in front of something, the text gives the same value.
  obtain ⟨value, legible⟩ := exists_legible_storedNumber x
  obtain ⟨after, found, read⟩ := legible [] (by simp [Closes]) 0
  rw [List.append_nil, if_pos rfl] at read
  have same : rereadDouble x = value := by simp [rereadDouble, read]
  rw [same]
  exact legible

end Json

end SourceAtlas
