import SourceAtlas.Text.Case

/-! Lower case is final: a text in lower case stays as it is. -/

namespace SourceAtlas

/-- The runs, with that of the ASCII letters. -/
def caseRuns : List LowerRun :=
  ⟨65, 90, 1, 32⟩ :: lowerRuns.toList

namespace LowerRun

/-- Whether a code point is in a run. -/
def holds (run : LowerRun) (code : Nat) : Bool :=
  run.first ≤ code && code ≤ run.last && (code - run.first) % run.step == 0

/-- The code point that one in a run goes to. -/
def target (run : LowerRun) (code : Nat) : Nat :=
  (code + run.shift).toNat

/-- Whether a run has at most every second code point between its ends. -/
def isSparse (run : LowerRun) : Bool :=
  run.step == 2 || run.first == run.last

/-- Whether the code points between two, or every second one of them, lie apart from a run
or take turns with it. -/
def avoids (low high : Nat) (alternate : Bool) (run : LowerRun) : Bool :=
  high.blt run.first || run.last.blt low ||
    (alternate && run.step == 2 && (low + run.first) % 2 == 1)

/-- Whether a run goes to characters. -/
def isProper (run : LowerRun) : Bool :=
  0 ≤ run.first + run.shift &&
    (run.target run.last < 0xD800 ||
      (0xDFFF < run.target run.first && run.target run.last < 0x110000))

end LowerRun

/-- Every run goes to characters. -/
private theorem isProper_of_mem : ∀ run ∈ caseRuns, run.isProper = true := by
  decide +kernel

/-- What any run goes to avoids all the runs. -/
private theorem all_avoids : (caseRuns.all fun run =>
    caseRuns.all (LowerRun.avoids (run.target run.first) (run.target run.last) run.isSparse))
      = true := by
  -- The table is checked as a whole, so that the ends of what a run goes to are
  -- computed once for each run.
  decide +kernel

variable {run other : LowerRun} {code : Nat}

/-- A run has the code points between its ends that are whole steps from the first. -/
theorem LowerRun.holds_iff :
    run.holds code = true ↔
      run.first ≤ code ∧ code ≤ run.last ∧ (code - run.first) % run.step = 0 := by
  simp [holds, and_assoc]

/-- What a run goes to is in no run. -/
private theorem not_holds_target (member : run ∈ caseRuns) (held : run.holds code = true)
    (another : other ∈ caseRuns) : ¬ other.holds (run.target code) = true := by
  -- The runs avoid what the run goes to, either as a whole or by turns.
  have proper := isProper_of_mem run member
  have avoids := List.all_eq_true.mp (List.all_eq_true.mp all_avoids run member) other another
  simp only [LowerRun.isProper, Bool.and_eq_true, decide_eq_true_eq] at proper
  simp only [LowerRun.avoids, LowerRun.isSparse, Nat.blt_eq, Bool.and_eq_true, Bool.or_eq_true,
    beq_iff_eq] at avoids
  rw [LowerRun.holds_iff] at held ⊢
  have nonnegative := proper.1
  simp only [LowerRun.target] at avoids ⊢
  intro taken
  rcases avoids with (apart | apart) | ⟨⟨sparse, step⟩, odd⟩
  · omega
  · omega
  · -- The other run has every second code point, and those of the run fall between them.
    rw [step] at taken
    rcases sparse with two | alone
    · rw [two] at held
      omega
    · omega

/-- What a run goes to is a character. -/
private theorem toNat_ofNat_target (member : run ∈ caseRuns) (held : run.holds code = true) :
    (Char.ofNat (run.target code)).toNat = run.target code := by
  -- The ends of the run go to characters on the same side of the surrogates.
  have proper := isProper_of_mem run member
  simp only [LowerRun.isProper, Bool.and_eq_true, Bool.or_eq_true, decide_eq_true_eq] at proper
  rw [LowerRun.holds_iff] at held
  have valid : (run.target code).isValidChar := by
    simp only [LowerRun.target, Nat.isValidChar] at proper ⊢
    omega
  rw [Char.ofNat, dif_pos valid]
  rfl

/-- Of the ASCII characters only the letters have another lower case. -/
theorem toLower_eq {c : Char} (ascii : c.toNat < 128) :
    c.toLower = if 65 ≤ c.toNat ∧ c.toNat ≤ 90 then Char.ofNat (c.toNat + 32) else c := by
  -- There are few enough of them to look at each.
  have all : ∀ code, code < 128 → (Char.ofNat code).toLower
      = if 65 ≤ code ∧ code ≤ 90 then Char.ofNat (code + 32) else Char.ofNat code := by
    decide +kernel
  simpa using all c.toNat ascii

/-- A character stays as it is, or goes where a run that has it leads. -/
theorem lowerChar_cases (c : Char) :
    lowerChar c = c ∨ ∃ run ∈ caseRuns, run.holds c.toNat = true ∧
      lowerChar c = Char.ofNat (run.target c.toNat) := by
  -- The table is asked only about characters beyond ASCII.
  rw [lowerChar]
  split
  · rename_i ascii
    rw [toLower_eq ascii]
    split
    · rename_i letter
      refine .inr ⟨⟨65, 90, 1, 32⟩, by simp [caseRuns], ?_, ?_⟩
      · simp [LowerRun.holds, letter, Nat.mod_one]
      · simp only [LowerRun.target]
        congr 1
    · exact .inl rfl
  · split
    · exact .inl rfl
    · rename_i run found
      split
      · rename_i inside
        refine .inr ⟨run, ?_, ?_, rfl⟩
        · exact List.mem_cons_of_mem _ (Array.mem_toList_iff.mpr (Array.mem_of_getElem? found))
        · simp [LowerRun.holds, inside]
      · exact .inl rfl

/-- Whether a character stays as it is wherever it stands. -/
def isLow (c : Char) : Bool :=
  c != 'Σ' && c != 'İ' && lowerChar c == c

/-- A character that no run has stays as it is. -/
theorem isLow_of_not_holds {c : Char} (free : ∀ run ∈ caseRuns, ¬ run.holds c.toNat = true) :
    isLow c = true := by
  -- The two characters of their own rules are in runs.
  have differs (other : Char) (taken : ∃ run ∈ caseRuns, run.holds other.toNat = true) :
      c ≠ other := by
    rintro rfl
    obtain ⟨run, member, held⟩ := taken
    exact free run member held
  have stays : lowerChar c = c := by
    rcases lowerChar_cases c with same | ⟨run, member, held, -⟩
    · exact same
    · exact absurd held (free run member)
  simp [isLow, stays, differs 'Σ' (by decide +kernel), differs 'İ' (by decide +kernel)]

/-- The lower case of a character stays as it is. -/
private theorem isLow_lowerChar {c : Char} (plain : c ≠ 'Σ') (undotted : c ≠ 'İ') :
    isLow (lowerChar c) = true := by
  -- A character that moves goes to one that is in no run.
  rcases lowerChar_cases c with same | ⟨run, member, held, moved⟩
  · simp [isLow, same, plain, undotted]
  · rw [moved]
    apply isLow_of_not_holds
    intro other another
    rw [toNat_ofNat_target member held]
    exact not_holds_target member held another

/-- Either lower case of a sigma stays as it is. -/
private theorem isLow_lowerSigma (before after : List Char) :
    isLow (lowerSigma before after) = true := by
  -- Neither of the two is in a run.
  rw [lowerSigma]
  split
  · exact isLow_of_not_holds (by decide +kernel)
  · exact isLow_of_not_holds (by decide +kernel)

/-- What is in lower case before the rest is read is so when all is read. -/
private theorem all_isLow_lowerFrom (before text done : List Char) (low : done.all isLow = true) :
    (lowerFrom before text done).all isLow = true := by
  -- The induction is on what is left to be read, and each case puts low characters down.
  induction text generalizing before done with
  | nil => simpa [lowerFrom] using low
  | cons c rest ih =>
    rw [lowerFrom]
    split
    · apply ih
      simp [isLow_lowerSigma, low]
    · split
      · apply ih
        have marks : isLow '\u0307' = true ∧ isLow 'i' = true :=
          ⟨isLow_of_not_holds (by decide +kernel), isLow_of_not_holds (by decide +kernel)⟩
        simp [marks, low]
      · rename_i plain undotted
        apply ih
        simp only [beq_iff_eq] at plain undotted
        simp [isLow_lowerChar plain undotted, low]

/-- Characters in lower case stay as they are. -/
private theorem lowerFrom_of_all_isLow (before text done : List Char)
    (low : text.all isLow = true) : lowerFrom before text done = done.reverse ++ text := by
  -- The induction is on what is left to be read, of which each character stays.
  induction text generalizing before done with
  | nil => simp [lowerFrom]
  | cons c rest ih =>
    simp only [List.all_cons, Bool.and_eq_true] at low
    obtain ⟨stays, others⟩ := low
    simp only [isLow, Bool.and_eq_true, bne_iff_ne, beq_iff_eq] at stays
    obtain ⟨⟨plain, undotted⟩, same⟩ := stays
    rw [lowerFrom, if_neg (by simpa using plain), if_neg (by simpa using undotted), same,
      ih _ _ others]
    simp

/-- Lower case is final. -/
@[simp] theorem lower_lower (text : String) : lower (lower text) = lower text := by
  -- All that lower case gives is low, so it stays when read again.
  have low := all_isLow_lowerFrom [] text.toList [] rfl
  simp only [lower, lowerChars, String.toList_ofList]
  rw [lowerFrom_of_all_isLow _ _ _ low]
  rfl

/-- What has been read stays in front. -/
theorem lowerFrom_eq_append (before text done : List Char) :
    lowerFrom before text done = done.reverse ++ lowerFrom before text [] := by
  -- The induction is on what is left to be read.
  induction text generalizing before done with
  | nil => simp [lowerFrom]
  | cons c rest ih =>
    simp only [lowerFrom]
    split
    · rw [ih, ih _ [_]]
      simp
    · split
      · rw [ih, ih _ [_, _]]
        simp
      · rw [ih, ih _ [_]]
        simp

/-- A dot in front stays there. -/
theorem toList_lower_of_dot {text : String} {rest : List Char}
    (starts : text.toList = '.' :: rest) : ∃ others, (lower text).toList = '.' :: others := by
  -- The dot is its own lower case.
  have dot : lowerChar '.' = '.' := by decide
  refine ⟨lowerFrom ['.'] rest [], ?_⟩
  rw [lower, String.toList_ofList, lowerChars, starts, lowerFrom, if_neg (by decide),
    if_neg (by decide), dot, lowerFrom_eq_append]
  rfl

end SourceAtlas
