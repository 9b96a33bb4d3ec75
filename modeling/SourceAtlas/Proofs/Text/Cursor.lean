import SourceAtlas.Text.Cursor

/-! What the tests of positions say of the text: a test that holds at a position is a way to
write what follows it. -/

namespace SourceAtlas.Cursor

variable {word front more rest text : List Char} {next test : Test} {pass : Char → Bool}
  {before : Option Char}

/-- The position behind a stretch of text. -/
def behind (before : Option Char) (stretch rest : List Char) : Cursor :=
  ⟨stretch.getLast?.or before, rest⟩

/-- Behind nothing the position is the same. -/
@[simp] theorem behind_nil (before : Option Char) (rest : List Char) :
    behind before [] rest = ⟨before, rest⟩ := rfl

/-- A stretch may be passed over character by character. -/
theorem behind_cons (before : Option Char) (c : Char) (stretch rest : List Char) :
    behind before (c :: stretch) rest = behind (some c) stretch rest := by
  -- The last character is that of the stretch behind the first one, if it has any.
  cases stretch with
  | nil => rfl
  | cons d stretch => simp [behind, List.getLast?_cons]

/-- Two stretches may be passed over one after the other. -/
theorem behind_append (before : Option Char) (stretch further rest : List Char) :
    behind before (stretch ++ further) rest = behind (stretch.getLast?.or before) further rest := by
  -- The last character is that of the second stretch, if it has any.
  simp [behind, List.getLast?_append, Option.or_assoc]

/-- A word is skipped where it stands. -/
theorem skip?_append (word more : List Char) (before : Option Char) :
    skip? word ⟨before, word ++ more⟩ = some (behind before word more) := by
  -- Character by character.
  induction word generalizing before with
  | nil => rfl
  | cons c word ih => simp [skip?, ih, behind_cons]

/-- What is skipped is the word. -/
private theorem eq_append_of_skip? {after : Cursor}
    (skipped : skip? word ⟨before, rest⟩ = some after) :
    ∃ more, rest = word ++ more ∧ after = behind before word more := by
  -- Both are gone through together, and part at the first difference.
  induction word generalizing before rest with
  | nil =>
    cases skipped
    exact ⟨rest, rfl, rfl⟩
  | cons c word ih =>
    cases rest with
    | nil => cases skipped
    | cons d rest =>
      rw [skip?] at skipped
      split at skipped
      · rename_i same
        obtain ⟨more, rfl, isAfter⟩ := ih skipped
        rw [← behind_cons before] at isAfter
        exact ⟨more, by simp_all, by simp_all⟩
      · cases skipped

/-- A literal text stands at a position, and the next test holds behind it. -/
theorem literal_iff : literal word next ⟨before, rest⟩ = true ↔
    ∃ more, rest = word ++ more ∧ next (behind before word more) = true := by
  -- The word is skipped, and what is left is tested.
  constructor
  · intro held
    rw [literal] at held
    split at held
    · rename_i after skipped
      obtain ⟨more, isRest, rfl⟩ := eq_append_of_skip? skipped
      exact ⟨more, isRest, held⟩
    · cases held
  · rintro ⟨more, rfl, held⟩
    rw [literal, skip?_append]
    exact held

/-- The next test holds behind a run of characters of a kind. -/
theorem passing_iff : passing pass next before rest = true ↔
    ∃ run more, rest = run ++ more ∧ (∀ c ∈ run, pass c = true) ∧
      next (behind before run more) = true := by
  -- The run grows from the left, so the character before it stays quantified over.
  induction rest generalizing before with
  | nil =>
    constructor
    · exact fun held => ⟨[], [], rfl, by simp, held⟩
    · rintro ⟨run, more, isRest, _, held⟩
      obtain ⟨rfl, rfl⟩ := List.append_eq_nil_iff.mp isRest.symm
      exact held
  | cons c rest ih =>
    rw [passing, Bool.or_eq_true, Bool.and_eq_true, ih]
    constructor
    · rintro (here | ⟨passed, run, more, rfl, all, held⟩)
      · exact ⟨[], c :: rest, rfl, by simp, here⟩
      · exact ⟨c :: run, more, rfl, by simpa using ⟨passed, all⟩, by rw [behind_cons]; exact held⟩
    · rintro ⟨run, more, isRest, all, held⟩
      cases run with
      | nil =>
        cases isRest
        exact .inl held
      | cons d run =>
        rw [List.cons_append, List.cons.injEq] at isRest
        obtain ⟨rfl, rfl⟩ := isRest
        rw [List.forall_mem_cons] at all
        rw [behind_cons] at held
        exact .inr ⟨all.1, run, more, rfl, all.2, held⟩

/-- The next test holds here or behind a run of characters of a kind. -/
theorem many_iff : many pass next ⟨before, rest⟩ = true ↔
    ∃ run more, rest = run ++ more ∧ (∀ c ∈ run, pass c = true) ∧
      next (behind before run more) = true :=
  passing_iff

/-- The next test holds behind a run of characters of a kind that is not empty. -/
theorem some_iff : some_ pass next ⟨before, rest⟩ = true ↔
    ∃ run more, rest = run ++ more ∧ run ≠ [] ∧ (∀ c ∈ run, pass c = true) ∧
      next (behind before run more) = true := by
  -- The first character has to pass, and the others may.
  cases rest with
  | nil => simp [some_]
  | cons c rest =>
    rw [some_, Bool.and_eq_true, passing_iff]
    constructor
    · rintro ⟨passed, run, more, rfl, all, held⟩
      exact ⟨c :: run, more, rfl, by simp, by simpa using ⟨passed, all⟩,
        by rw [behind_cons]; exact held⟩
    · rintro ⟨run, more, isRest, nonempty, all, held⟩
      obtain ⟨d, run, rfl⟩ := List.exists_cons_of_ne_nil nonempty
      rw [List.cons_append, List.cons.injEq] at isRest
      obtain ⟨rfl, rfl⟩ := isRest
      rw [List.forall_mem_cons] at all
      rw [behind_cons] at held
      exact ⟨all.1, run, more, rfl, all.2, held⟩

/-- A test holds in a text if the text can be cut so that it holds at the cut. -/
theorem holdsIn_iff : holdsIn test text = true ↔
    ∃ front more, text = front ++ more ∧ test (behind none front more) = true := by
  -- From the start of the text, any stretch may be passed over.
  simp [holdsIn, passing_iff]

end SourceAtlas.Cursor
