import SourceAtlas.Proofs.Language.Splitting

/-! Lists in which angles are operators: all brackets share one count, so an angle that closes no
group of its own closes another one, and an angle that opens none keeps the list from being cut. -/

namespace SourceAtlas

/-- The characters of a text outside of quotations, where the text starts
inside of one or outside. -/
def outside : Option Char → List Char → List Char
  | _, [] => []
  | some mark, c :: rest => outside (if c == mark then none else some mark) rest
  | none, c :: rest => if isQuoteMark c then outside (some c) rest else c :: outside none rest

/-- Some stretch at the end of a text opens more groups than it closes. -/
def IsDeep (text : List Char) : Prop :=
  ∃ stretch, stretch <:+ text ∧ stretch.countP isCloser < stretch.countP isOpener

variable {text front rest : List Char} {nesting : Nesting} {depth : Nat}
  {quote : Option Char} {c : Char}

/-! ## What stands outside of quotations -/

/-- No quotation mark stands outside of quotations. -/
private theorem isQuoteMark_of_mem_outside (member : c ∈ outside quote text) :
    isQuoteMark c = false := by
  -- A mark outside of quotations opens one, and is left out.
  induction text generalizing quote with
  | nil => cases quote <;> cases member
  | cons d text ih =>
    cases quote with
    | some mark => exact ih member
    | none =>
      rw [outside] at member
      split at member
      · exact ih member
      · rename_i noMark
        rcases List.mem_cons.mp member with rfl | later
        · simpa using noMark
        · exact ih later

/-- A character that is no mark stands outside. -/
theorem outside_cons (noMark : isQuoteMark c = false) (rest : List Char) :
    outside none (c :: rest) = c :: outside none rest := by
  -- Only marks are left out.
  simp [outside, noMark]

/-- Of a quotation nothing stands outside. -/
private theorem outside_quoted {mark : Char} {content : List Char}
    (isMark : isQuoteMark mark = true) (free : mark ∉ content) (rest : List Char) :
    outside none (mark :: content ++ mark :: rest) = outside none rest := by
  -- The second mark ends the quotation, and none of the content does.
  rw [List.cons_append, outside, if_pos isMark]
  induction content with
  | nil => simp [outside]
  | cons c content ih =>
    simp only [List.mem_cons, not_or] at free
    have goesOn : (c == mark) = false := beq_eq_false_iff_ne.mpr (Ne.symm free.1)
    rw [List.cons_append, outside, goesOn]
    exact ih free.2

/-- The characters outside of quotations go on from where the front ends. -/
theorem outside_append (nesting : Nesting) (front rest : List Char) :
    outside nesting.quote (front ++ rest)
      = outside nesting.quote front ++ outside (nesting.behind front).quote rest := by
  -- The induction is on the front, along which the quotation opens and closes.
  induction front generalizing nesting with
  | nil => cases quoted : nesting.quote <;> simp [outside, quoted]
  | cons c front ih =>
    have next := ih (nesting.step c)
    cases quoted : nesting.quote with
    | some mark =>
      -- Inside of a quotation the step decides only whether it goes on.
      have isNext : (nesting.step c).quote = if c == mark then none else some mark := by
        simp [Nesting.step, quoted]
      rw [isNext] at next
      simpa [outside, isNext] using next
    | none =>
      by_cases isMark : isQuoteMark c = true
      · have isNext : (nesting.step c).quote = some c := by simp [Nesting.step, quoted, isMark]
        rw [isNext] at next
        simpa [outside, isMark] using next
      · have isNext : (nesting.step c).quote = none :=
          Nesting.quote_step quoted (by simpa using isMark)
        rw [isNext] at next
        simpa [outside, isMark] using next

/-- Depths and cuts are up to the characters outside of quotations. -/
private theorem behind_outside (depth : Nat) (quote : Option Char) (text : List Char) :
    ((⟨depth, quote⟩ : Nesting).behind text).depth
        = ((⟨depth, none⟩ : Nesting).behind (outside quote text)).depth ∧
      (⟨depth, quote⟩ : Nesting).keeps text
        = (⟨depth, none⟩ : Nesting).keeps (outside quote text) := by
  -- The induction is on the text, along which the quotation opens and closes.
  induction text generalizing depth quote with
  | nil => cases quote <;> exact ⟨rfl, rfl⟩
  | cons c text ih =>
    cases quote with
    | some mark =>
      -- A character of a quotation changes no depth and is never cut at.
      have next := ih depth (if c == mark then none else some mark)
      have kept : (⟨depth, some mark⟩ : Nesting).keeps (c :: text)
          = (⟨depth, if c == mark then none else some mark⟩ : Nesting).keeps text := by
        simp [Nesting.keeps, Nesting.step, Nesting.top]
      exact ⟨next.1, kept.trans next.2⟩
    | none =>
      by_cases isMark : isQuoteMark c = true
      · have opened := Nesting.step_of_isQuoteMark isMark depth
        have noComma : c ≠ ',' := by
          rintro rfl
          cases isMark
        have kept : (⟨depth, none⟩ : Nesting).keeps (c :: text)
            = (⟨depth, some c⟩ : Nesting).keeps text := by
          simp [Nesting.keeps, opened, beq_eq_false_iff_ne.mpr noComma]
        rw [outside, if_pos isMark, Nesting.behind_cons, opened, kept]
        exact ih depth (some c)
      · -- A character outside of quotations is read on both sides.
        have unquoted := @Nesting.quote_step ⟨depth, none⟩ c rfl (by simpa using isMark)
        obtain ⟨deeper, isNext⟩ : ∃ deeper, (⟨depth, none⟩ : Nesting).step c = ⟨deeper, none⟩ :=
          ⟨_, Nesting.ext rfl unquoted⟩
        have next := ih deeper none
        rw [outside, if_neg isMark, Nesting.behind_cons, Nesting.behind_cons, Nesting.keeps,
          Nesting.keeps, isNext, next.1, next.2]
        exact ⟨rfl, rfl⟩

/-! ## Depths as counts -/

/-- A text is deep as a whole or behind its first character. -/
theorem isDeep_cons_iff : IsDeep (c :: text) ↔
    (c :: text).countP isCloser < (c :: text).countP isOpener ∨ IsDeep text := by
  -- A stretch at the end is the whole text, or lies behind its first character.
  simp only [IsDeep, List.suffix_cons_iff]
  grind

/-- A text that opens more than it closes is deep. -/
private theorem isDeep_of_lt (more : text.countP isCloser < text.countP isOpener) : IsDeep text :=
  ⟨text, List.suffix_refl text, more⟩

/-- Behind a text without quotation marks a group is open if some stretch at its end opens more
groups than it closes, or the whole text closes fewer than it opens and were open before it. -/
theorem depth_behind_pos_iff (unmarked : ∀ c ∈ text, isQuoteMark c = false) :
    0 < ((⟨depth, none⟩ : Nesting).behind text).depth ↔
      IsDeep text ∨ text.countP isCloser < depth + text.countP isOpener := by
  -- The induction is on the text, and its first character opens, closes or does neither.
  induction text generalizing depth with
  | nil => simp [IsDeep]
  | cons c text ih =>
    rw [List.forall_mem_cons] at unmarked
    rw [Nesting.behind_cons, isDeep_cons_iff]
    obtain ⟨next, isNext⟩ : ∃ next, (⟨depth, none⟩ : Nesting).step c = ⟨next, none⟩ :=
      ⟨_, Nesting.ext rfl (Nesting.quote_step rfl unmarked.1)⟩
    rw [isNext, ih unmarked.2]
    by_cases deep : IsDeep text
    · simp only [deep, true_or, or_true]
    · -- Without a deep stretch behind the character, the rest of the text opens no more groups
      -- than it closes.
      have balanced : ¬ text.countP isCloser < text.countP isOpener :=
        fun more => deep (isDeep_of_lt more)
      simp only [deep, false_or, or_false, List.countP_cons]
      by_cases opens : isOpener c = true
      · have noCloser : isCloser c = false := by
          rw [← Bool.not_eq_true]
          intro closes
          rw [(Nesting.isQuoteMark_of_isCloser closes).2.1] at opens
          cases opens
        rw [Nesting.step_of_isOpener opens, Nesting.mk.injEq] at isNext
        simp only [opens, noCloser, if_true, Bool.false_eq_true, if_false]
        omega
      · by_cases closes : isCloser c = true
        · rw [Nesting.step_of_isCloser closes, Nesting.mk.injEq] at isNext
          simp only [opens, closes, if_true, Bool.false_eq_true, if_false]
          omega
        · have stays : (⟨depth, none⟩ : Nesting).step c = ⟨depth, none⟩ := by
            simp [Nesting.step, unmarked.1, opens, closes]
          rw [stays, Nesting.mk.injEq] at isNext
          simp only [opens, closes, Bool.false_eq_true, if_false]
          omega

/-- Behind a text without quotation marks that starts at the top, a group is open
exactly if the text is deep. -/
theorem depth_behind_top_pos_iff (unmarked : ∀ c ∈ text, isQuoteMark c = false) :
    0 < (Nesting.top.behind text).depth ↔ IsDeep text := by
  -- At the top nothing is open before the text.
  rw [Nesting.top, depth_behind_pos_iff unmarked, Nat.zero_add]
  exact ⟨fun either => either.elim id isDeep_of_lt, .inl⟩

/-- A text ends at the top exactly if it is not deep outside of its quotations. -/
theorem depth_behind_eq_zero_iff (text : List Char) :
    (Nesting.top.behind text).depth = 0 ↔ ¬ IsDeep (outside none text) := by
  -- What stands in quotations counts for nothing.
  have same : (Nesting.top.behind text).depth = (Nesting.top.behind (outside none text)).depth :=
    (behind_outside 0 none text).1
  rw [← depth_behind_top_pos_iff fun c => isQuoteMark_of_mem_outside, same]
  omega

/-- A text is kept exactly if it is deep before each of its commas outside of quotations. -/
private theorem keeps_iff_isDeep (text : List Char) : Nesting.top.keeps text = true ↔
    ∀ front rest, outside none text = front ++ ',' :: rest → IsDeep front := by
  -- What stands in quotations is never cut at.
  have same : Nesting.top.keeps text = Nesting.top.keeps (outside none text) :=
    (behind_outside 0 none text).2
  have unmarked := fun c => @isQuoteMark_of_mem_outside text none c
  rw [same]
  generalize outside none text = bare at unmarked
  have counted (front rest : List Char) (isBare : bare = front ++ ',' :: rest) :
      0 < (Nesting.top.behind front).depth ↔ IsDeep front :=
    depth_behind_top_pos_iff fun c member => unmarked c (by simp [isBare, member])
  constructor
  · intro kept front rest isBare
    rw [← counted front rest isBare]
    -- Without quotation marks, a place at depth zero is the top, and there the
    -- comma would be cut at.
    have unquoted : (Nesting.top.behind front).quote = none :=
      Nesting.quote_behind rfl fun c member => unmarked c (by simp [isBare, member])
    rw [isBare, Nesting.keeps_append, Nesting.keeps_cons] at kept
    have below : (Nesting.top.behind front).depth ≠ 0 :=
      fun zero => kept.2.1 ⟨rfl, Nesting.ext zero unquoted⟩
    omega
  · intro deep
    rw [← Bool.not_eq_false]
    intro cut
    obtain ⟨front, rest, isBare, _, atTop⟩ := Nesting.exists_cut cut
    have positive := (counted front rest isBare).mpr (deep front rest isBare)
    rw [atTop] at positive
    exact absurd positive (by simp)

/-! ## Lists with angles as operators -/

/-- A character that is no bracket and no angle is plain in the wider sense too. -/
private theorem isPlain_mixed_of_matched (plain : Brackets.matched.isPlain c = true)
    (noOpener : c ≠ '<') (noCloser : c ≠ '>') : Brackets.mixed.isPlain c = true := by
  -- Angles are the only brackets of the one that the other does not have.
  rw [Nesting.isPlain_mixed_iff]
  simp only [Brackets.isPlain, Brackets.matched, List.all_cons, List.all_nil, Bool.and_eq_true,
    Bool.not_eq_true', bne_iff_ne] at plain
  simp [isOpener, isCloser, plain, noOpener, noCloser]

/-- Without angles outside of quotations, a text closed with brackets that match is closed
with brackets of any kind. -/
theorem IsClosed.mixed_of_matched {commas : Bool} (closed : IsClosed .matched commas text)
    (noOpener : '<' ∉ outside none text) (noCloser : '>' ∉ outside none text) :
    IsClosed .mixed commas text := by
  -- The induction follows the rules, and each part of the text has no angle either.
  have known : Brackets.matched.isKnown = true := by decide
  induction closed with
  | nil => exact .nil
  | @plain _ c rest isPlain _ ih =>
    have noMark : isQuoteMark c = false := by
      simp only [Brackets.isPlain, Bool.and_eq_true, Bool.not_eq_true'] at isPlain
      exact isPlain.1.2
    simp only [outside_cons noMark, List.mem_cons, not_or] at noOpener noCloser
    exact .plain (isPlain_mixed_of_matched isPlain (Ne.symm noOpener.1) (Ne.symm noCloser.1))
      (ih noOpener.2 noCloser.2)
  | comma _ ih =>
    simp only [outside_cons (show isQuoteMark ',' = false from rfl), List.mem_cons,
      not_or] at noOpener noCloser
    exact .comma (ih noOpener.2 noCloser.2)
  | quoted mark content isMark free _ ih =>
    rw [outside_quoted isMark free] at noOpener noCloser
    exact .quoted mark content isMark free (ih noOpener noCloser)
  | @group _ opener closer inner rest pair inside _ ihInner ih =>
    have listed : ∀ pair ∈ Brackets.matched, pair ∈ Brackets.mixed := by decide
    have marks : ∀ pair ∈ Brackets.matched,
        isQuoteMark pair.1 = false ∧ isQuoteMark pair.2 = false := by decide
    obtain ⟨noMark, noMarkEither⟩ := marks _ pair
    -- The inner text closes its quotations, so the closing bracket stands outside of them.
    have parts : outside none (opener :: inner ++ closer :: rest)
        = opener :: outside none inner ++ closer :: outside none rest := by
      have unquoted := inside.quote_behind known (Nesting.quote_step Nesting.top_quote noMark)
      have cut := outside_append .top (opener :: inner) (closer :: rest)
      rw [Nesting.behind_cons, unquoted, Nesting.top_quote, outside_cons noMark,
        outside_cons noMarkEither] at cut
      exact cut
    rw [parts] at noOpener noCloser
    simp only [List.cons_append, List.mem_cons, List.mem_append, not_or] at noOpener noCloser
    exact .group opener closer (listed _ pair) (ihInner noOpener.2.1 noCloser.2.1)
      (ih noOpener.2.2.2 noCloser.2.2.2)

/-- A list whose parameters are closed with brackets that match is split into its parameters exactly
if each parameter is deep before each of its commas, and none but the last is deep at its end, with
angles counted as brackets. It is so where no angle stands outside of quotations. -/
theorem splitParameters_whole_iff (list : List (SpacedFragment .matched)) :
    (splitParameters (parenthesized (list.map (·.written))) = list.map (·.text) ↔
      (∀ parameter ∈ list, ∀ front rest, outside none parameter.text = front ++ ',' :: rest →
        IsDeep front) ∧
        ∀ parameter ∈ list.dropLast, ¬ IsDeep (outside none parameter.text)) ∧
    ((∀ parameter ∈ list, '<' ∉ outside none parameter.text ∧ '>' ∉ outside none parameter.text) →
      splitParameters (parenthesized (list.map (·.written))) = list.map (·.text)) := by
  -- Both halves are about keeping each parameter and about where it ends.
  have known : Brackets.matched.isKnown = true := by decide
  refine ⟨?_, fun angleless => ?_⟩
  · rw [splitParameters_eq_iff_keeps known]
    simp only [keeps_iff_isDeep, depth_behind_eq_zero_iff]
  · -- Without angles the parameters are fragments with brackets of any kind.
    rw [splitParameters_eq_iff_keeps known]
    have read (parameter : SpacedFragment .matched) (member : parameter ∈ list) :=
      (parameter.closed.mixed_of_matched (angleless parameter member).1
        (angleless parameter member).2).behind_mixed 0 (by simp)
    refine ⟨fun parameter member => (read parameter member).2, fun parameter member => ?_⟩
    exact congrArg Nesting.depth (read parameter ((List.dropLast_sublist list).mem member)).1

/-- The arrow of a function in an object closes the object early, and the object is cut at its
comma. A comparison before a comma between parameters keeps the list from being cut there. -/
theorem arrow_cuts_object :
    IsClosed .matched false "a = \x7bx: () => 1, y: 2\x7d".toList ∧
      IsClosed .matched false "a = m < n".toList ∧ IsClosed .matched false "b".toList ∧
      splitParameters "(a = \x7bx: () => 1, y: 2\x7d, b)".toList
        = ["a = \x7bx: () => 1".toList, "y: 2\x7d".toList, "b".toList] ∧
      splitParameters "(a = m < n, b)".toList = ["a = m < n, b".toList] := by
  refine ⟨?_, .plains "a = m < n".toList (by decide) .nil, .plain (by decide) .nil, by decide,
    by decide⟩
  -- The object holds a value, a comma and another value, and the first value
  -- has a group of its own.
  exact .plains "a = ".toList (by decide) <|
    .group '\x7b' '\x7d' (by decide)
      (.plains "x: ".toList (by decide) <|
        .group '(' ')' (by decide) .nil <|
          .plains " => 1".toList (by decide) <| .comma <|
            .plains " y: 2".toList (by decide) .nil)
      .nil

end SourceAtlas
