import SourceAtlas.Language.Parameters
import SourceAtlas.Proofs.Text.Blanks

/-! Splitting a list of parameters gives back what was joined. A text is read with its
nesting, and is cut at the commas that are met at the top; fragments are texts whose
quotations and groups are closed. -/

namespace SourceAtlas

/-- How deep a place in a text lies: how many groups are open there, and which mark
opened a quotation, if any. -/
@[ext] structure Nesting where
  depth : Nat
  quote : Option Char
deriving DecidableEq

namespace Nesting

/-- Outside of all groups and quotations. -/
def top : Nesting := ⟨0, none⟩

/-- At the top no group is open. -/
@[simp] theorem top_depth : top.depth = 0 := rfl

/-- At the top no quotation is open. -/
@[simp] theorem top_quote : top.quote = none := rfl

/-- The nesting behind a character; a closing bracket with no group to close changes nothing. -/
def step (nesting : Nesting) (c : Char) : Nesting :=
  match nesting.quote with
  | some mark => { nesting with quote := if c == mark then none else some mark }
  | none =>
    if isQuoteMark c then { nesting with quote := some c }
    else if isOpener c then { nesting with depth := nesting.depth + 1 }
    else if isCloser c then { nesting with depth := nesting.depth - 1 }
    else nesting

/-- The nesting behind a text. -/
def behind (nesting : Nesting) (text : List Char) : Nesting :=
  text.foldl step nesting

/-- Whether none of the commas of a text is met at the top. -/
def keeps : Nesting → List Char → Bool
  | _, [] => true
  | nesting, c :: rest => !(c == ',' && nesting == top) && keeps (nesting.step c) rest

variable {nesting : Nesting} {text front rest : List Char} {c : Char}

/-- Nothing changes behind an empty text. -/
@[simp] theorem behind_nil (nesting : Nesting) : nesting.behind [] = nesting := rfl

/-- A text is read from its first character on. -/
@[simp] theorem behind_cons (nesting : Nesting) (c : Char) (rest : List Char) :
    nesting.behind (c :: rest) = (nesting.step c).behind rest := rfl

/-- A text is read on from where its front ends. -/
@[simp] theorem behind_append (nesting : Nesting) (front rest : List Char) :
    nesting.behind (front ++ rest) = (nesting.behind front).behind rest :=
  List.foldl_append

/-- An empty text has no commas. -/
@[simp] theorem keeps_nil (nesting : Nesting) : nesting.keeps [] = true := rfl

/-- A text is kept when its first character is no comma at the top and the rest is kept. -/
theorem keeps_cons : nesting.keeps (c :: rest) = true ↔
    ¬ (c = ',' ∧ nesting = top) ∧ (nesting.step c).keeps rest = true := by
  -- The test for a comma is one of booleans.
  rw [keeps, Bool.and_eq_true, Bool.not_eq_true', ← Bool.not_eq_true, Bool.and_eq_true, beq_iff_eq,
    beq_iff_eq]

/-- A text is kept when its front is, and its rest from where the front ends. -/
theorem keeps_append : nesting.keeps (front ++ rest) = true ↔
    nesting.keeps front = true ∧ (nesting.behind front).keeps rest = true := by
  -- The nesting moves along the front, so it stays quantified over.
  induction front generalizing nesting with
  | nil => simp
  | cons c front ih => simp only [List.cons_append, keeps_cons, ih, behind_cons, and_assoc]

/-- A text with a comma at the top has a first one. -/
theorem exists_cut (cuts : nesting.keeps text = false) :
    ∃ front rest, text = front ++ ',' :: rest ∧ nesting.keeps front = true ∧
      nesting.behind front = top := by
  -- The induction is on the text, along which the nesting moves.
  induction text generalizing nesting with
  | nil => cases cuts
  | cons c text ih =>
    by_cases here : c = ',' ∧ nesting = top
    · obtain ⟨rfl, rfl⟩ := here
      exact ⟨[], text, rfl, rfl, rfl⟩
    · -- The first character is passed over, and the cut lies further on.
      have later : (nesting.step c).keeps text = false := by
        rw [← Bool.not_eq_true] at cuts ⊢
        exact fun kept => cuts (keeps_cons.mpr ⟨here, kept⟩)
      obtain ⟨front, rest, rfl, kept, atTop⟩ := ih later
      exact ⟨c :: front, rest, rfl, keeps_cons.mpr ⟨here, kept⟩, atTop⟩

end Nesting

/-! ## The scanner cuts at the top -/

section Scanner

variable {nesting : Nesting} {text current : List Char}

/-- One step of the splitting: a comma at the top ends the part, and
everything else goes on with it. -/
theorem splitCommas_cons (nesting : Nesting) (current : List Char) (c : Char) (rest : List Char) :
    splitCommas nesting.depth nesting.quote current (c :: rest)
      = if c = ',' ∧ nesting = Nesting.top then current.reverse :: splitCommas 0 none [] rest
        else splitCommas (nesting.step c).depth (nesting.step c).quote (c :: current) rest := by
  -- Inside of a quotation every character goes on with the part.
  obtain ⟨depth, quote⟩ := nesting
  cases quote with
  | some mark => simp [splitCommas, Nesting.step, Nesting.top]
  | none =>
    simp only [splitCommas, Nesting.step, Nesting.top, Nesting.mk.injEq, and_true]
    by_cases isComma : c = ','
    · -- A comma passes all tests but its own.
      subst isComma
      by_cases zero : depth = 0 <;> simp [isQuoteMark, isOpener, isCloser, zero]
    · -- The tests are made in the same order on both sides; at depth zero a closing bracket fails
      -- the test for one.
      cases isQuoteMark c <;> cases isOpener c <;> cases isCloser c <;> cases depth <;>
        simp [isComma]

/-- A text without a comma at the top goes to the current part as a whole. -/
theorem splitCommas_append (kept : nesting.keeps text = true) (current rest : List Char) :
    splitCommas nesting.depth nesting.quote current (text ++ rest)
      = splitCommas (nesting.behind text).depth (nesting.behind text).quote
        (text.reverse ++ current) rest := by
  -- The induction is on the text, along which the nesting moves and the part grows.
  induction text generalizing nesting current with
  | nil => rfl
  | cons c text ih =>
    rw [Nesting.keeps_cons] at kept
    rw [List.cons_append, splitCommas_cons, if_neg kept.1, ih kept.2, Nesting.behind_cons,
      List.reverse_cons, List.append_assoc, List.singleton_append]

/-- A comma at the top ends the part. -/
private theorem splitCommas_comma (current rest : List Char) :
    splitCommas 0 none current (',' :: rest) = current.reverse :: splitCommas 0 none [] rest := rfl

/-- A comma in a group goes on with the part. -/
private theorem splitCommas_comma_of_ne {depth : Nat} (deep : depth ≠ 0)
    (current rest : List Char) :
    splitCommas depth none current (',' :: rest)
      = splitCommas depth none (',' :: current) rest := by
  -- A comma is no mark and no bracket, and the depth is not zero.
  simp [splitCommas, isQuoteMark, isOpener, isCloser, deep]

/-- The first part starts with what is there of it. -/
theorem exists_splitCommas_eq (nesting : Nesting) (current text : List Char) :
    ∃ more parts, splitCommas nesting.depth nesting.quote current text
      = (current.reverse ++ more) :: parts := by
  -- The part only grows until a comma at the top ends it.
  induction text generalizing nesting current with
  | nil => exact ⟨[], [], by simp [splitCommas]⟩
  | cons c text ih =>
    rw [splitCommas_cons]
    split
    · exact ⟨[], _, by rw [List.append_nil]⟩
    · obtain ⟨more, parts, isSplit⟩ := ih (nesting.step c) (c :: current)
      exact ⟨c :: more, parts, by simpa using isSplit⟩

end Scanner

/-! ## Fragments -/

/-- Pairs of an opening and a closing bracket. -/
abbrev Brackets := List (Char × Char)

namespace Brackets

/-- Each opening bracket with each closing one, whether or not they are of a kind. -/
def mixed : Brackets :=
  ['(', '[', '\x7b', '<'].flatMap fun opener =>
    [')', ']', '\x7d', '>'].map fun closer => (opener, closer)

/-- Round, square and curly brackets, each with its own kind; angles are no brackets. -/
def matched : Brackets :=
  [('(', ')'), ('[', ']'), ('\x7b', '\x7d')]

/-- Whether a character is neither a comma nor a quotation mark nor a bracket. -/
def isPlain (brackets : Brackets) (c : Char) : Bool :=
  c != ',' && !isQuoteMark c && brackets.all fun pair => c != pair.1 && c != pair.2

/-- Whether the brackets are brackets of the reader, so that none of them is a
comma or a quotation mark. -/
def isKnown (brackets : Brackets) : Bool :=
  brackets.all fun pair => isOpener pair.1 && isCloser pair.2

end Brackets

/-- Texts in which every quotation and every group is closed. Commas stand inside of groups, and
outside of them only where `commas` says so. -/
inductive IsClosed (brackets : Brackets) : (commas : Bool) → List Char → Prop
  | nil {commas : Bool} : IsClosed brackets commas []
  | plain {commas : Bool} {c : Char} {rest : List Char} : brackets.isPlain c = true →
      IsClosed brackets commas rest → IsClosed brackets commas (c :: rest)
  | comma {rest : List Char} : IsClosed brackets true rest → IsClosed brackets true (',' :: rest)
  | quoted {commas : Bool} (mark : Char) (content : List Char) {rest : List Char} :
      isQuoteMark mark = true → mark ∉ content → IsClosed brackets commas rest →
      IsClosed brackets commas (mark :: content ++ mark :: rest)
  | group {commas : Bool} (opener closer : Char) {inner rest : List Char} :
      (opener, closer) ∈ brackets → IsClosed brackets true inner →
      IsClosed brackets commas rest →
      IsClosed brackets commas (opener :: inner ++ closer :: rest)

/-- A closed text without commas outside of groups that neither starts nor ends with a blank. -/
structure Fragment (brackets : Brackets) where
  text : List Char
  closed : IsClosed brackets false text
  trimmed : isTrimmed text = true

/-- A fragment and the blanks that are written around it. -/
structure SpacedFragment (brackets : Brackets) extends Fragment brackets where
  before : List Char
  after : List Char
  blankBefore : ∀ c ∈ before, isBlank c = true
  blankAfter : ∀ c ∈ after, isBlank c = true

/-- A fragment as it is written. -/
def SpacedFragment.written {brackets : Brackets} (fragment : SpacedFragment brackets) : List Char :=
  fragment.before ++ fragment.text ++ fragment.after

/-- Texts in parentheses, with a comma between each two. -/
def parenthesized (parts : List (List Char)) : List Char :=
  '(' :: List.intercalate [','] parts ++ [')']

namespace IsClosed

variable {brackets : Brackets} {commas : Bool} {text rest : List Char}

/-- Plain characters may stand in front of a closed text. -/
theorem plains (text : List Char) (plain : text.all brackets.isPlain = true)
    (closed : IsClosed brackets commas rest) : IsClosed brackets commas (text ++ rest) := by
  -- One after the other.
  induction text with
  | nil => exact closed
  | cons c text ih =>
    rw [List.all_cons, Bool.and_eq_true] at plain
    exact .plain plain.1 (ih plain.2)

/-- Two closed texts make one. -/
theorem append (closed : IsClosed brackets commas text) (more : IsClosed brackets commas rest) :
    IsClosed brackets commas (text ++ rest) := by
  -- What follows is quantified over in each rule, so it is taken over rule by rule.
  induction closed with
  | nil => exact more
  | plain isPlain _ ih => exact .plain isPlain (ih more)
  | comma _ ih => exact .comma (ih more)
  | quoted mark content isMark free _ ih =>
    simpa using IsClosed.quoted mark content isMark free (ih more)
  | group opener closer pair inner _ _ ih =>
    simpa using IsClosed.group opener closer pair inner (ih more)

end IsClosed

namespace Nesting

variable {nesting : Nesting} {c : Char}

/-- A plain character is no comma, no mark, no opener and no closer. -/
theorem isPlain_mixed_iff : Brackets.mixed.isPlain c = true ↔
    c ≠ ',' ∧ isQuoteMark c = false ∧ isOpener c = false ∧ isCloser c = false := by
  -- Every opener and every closer is in some pair.
  have pairs : (∀ pair ∈ Brackets.mixed, c ≠ pair.1 ∧ c ≠ pair.2) ↔
      isOpener c = false ∧ isCloser c = false := by
    simp only [Brackets.mixed, List.flatMap_cons, List.flatMap_nil, List.map_cons, List.map_nil,
      List.cons_append, List.nil_append, List.forall_mem_cons, isOpener, isCloser,
      Bool.or_eq_false_iff, beq_eq_false_iff_ne]
    grind
  rw [← pairs]
  simp [Brackets.isPlain, and_assoc]

/-- A plain character outside of quotations changes nothing. -/
theorem step_of_isPlain (unquoted : nesting.quote = none)
    (plain : Brackets.mixed.isPlain c = true) : nesting.step c = nesting := by
  -- None of the tests of a step succeeds.
  obtain ⟨_, noMark, noOpener, noCloser⟩ := isPlain_mixed_iff.mp plain
  simp [step, unquoted, noMark, noOpener, noCloser]

/-- Plain characters outside of quotations change nothing. -/
theorem behind_of_isPlain {text : List Char} (unquoted : nesting.quote = none)
    (plain : ∀ c ∈ text, Brackets.mixed.isPlain c = true) :
    nesting.behind text = nesting ∧ nesting.keeps text = true := by
  -- The induction is on the text, all of which is read at one nesting.
  induction text with
  | nil => exact ⟨rfl, rfl⟩
  | cons c text ih =>
    simp only [List.forall_mem_cons] at plain
    obtain ⟨same, kept⟩ := ih plain.2
    have stays := step_of_isPlain unquoted plain.1
    refine ⟨by rw [behind_cons, stays, same], ?_⟩
    rw [keeps_cons, stays]
    exact ⟨fun cut => (isPlain_mixed_iff.mp plain.1).1 cut.1, kept⟩

/-- Characters of a kind that no comma, quotation mark or bracket is of are plain. -/
theorem isPlain_of_lacks {kind : Char → Bool} (held : kind c = true)
    (lacks : [',', '"', '\'', '\x60', '(', '[', '\x7b', '<', ')', ']', '\x7d', '>'].any kind
      = false) :
    Brackets.mixed.isPlain c = true := by
  -- The character is none of those that are listed.
  have other : ∀ sign ∈ [',', '"', '\'', '\x60', '(', '[', '\x7b', '<', ')', ']', '\x7d', '>'],
      c ≠ sign := by
    rintro sign member rfl
    exact List.any_eq_false.mp lacks c member held
  simp only [List.forall_mem_cons] at other
  rw [isPlain_mixed_iff]
  simp [isQuoteMark, isOpener, isCloser, other]

/-- Blanks are plain. -/
theorem isPlain_of_isBlank (blank : isBlank c = true) : Brackets.mixed.isPlain c = true :=
  isPlain_of_lacks blank (by decide)

/-- Up to its closing mark a quotation is kept whatever it holds, and behind it
the nesting is as before. -/
private theorem behind_quotation {mark : Char} {content : List Char} (depth : Nat)
    (free : mark ∉ content) :
    (⟨depth, some mark⟩ : Nesting).behind (content ++ [mark]) = ⟨depth, none⟩ ∧
      (⟨depth, some mark⟩ : Nesting).keeps (content ++ [mark]) = true := by
  -- The induction is on the content, in which the mark does not occur.
  induction content with
  | nil => simp [step, keeps, top]
  | cons c content ih =>
    simp only [List.mem_cons, not_or] at free
    -- Another character leaves the quotation open.
    have inside : (⟨depth, some mark⟩ : Nesting).step c = ⟨depth, some mark⟩ := by
      simp [step, Ne.symm free.1]
    rw [List.cons_append, behind_cons, keeps_cons, inside]
    exact ⟨(ih free.2).1, by simp [top], (ih free.2).2⟩

/-- A mark outside of quotations opens one. -/
theorem step_of_isQuoteMark {mark : Char} (isMark : isQuoteMark mark = true) (depth : Nat) :
    (⟨depth, none⟩ : Nesting).step mark = ⟨depth, some mark⟩ := by
  -- Marks are tested first.
  simp [step, isMark]

/-- A quotation with its marks is kept and leaves the nesting as it is. -/
private theorem behind_quoted {mark : Char} {content : List Char} (unquoted : nesting.quote = none)
    (isMark : isQuoteMark mark = true) (free : mark ∉ content) (rest : List Char) :
    nesting.behind (mark :: content ++ mark :: rest) = nesting.behind rest ∧
      (nesting.keeps (mark :: content ++ mark :: rest) = true ↔ nesting.keeps rest = true) := by
  obtain ⟨depth, quote⟩ := nesting
  cases unquoted
  obtain ⟨closes, kept⟩ := behind_quotation depth free
  have regroup : mark :: content ++ mark :: rest = mark :: (content ++ [mark] ++ rest) := by simp
  have noComma : mark ≠ ',' := by
    rintro rfl
    cases isMark
  -- The opening mark is no comma, and the closing one leads back to where the quotation started.
  rw [regroup, behind_cons, step_of_isQuoteMark isMark, behind_append, closes, keeps_cons,
    step_of_isQuoteMark isMark, keeps_append, closes]
  simp [kept, noComma]

/-- An opening bracket is no mark and no comma. -/
theorem isQuoteMark_of_isOpener (opens : isOpener c = true) : isQuoteMark c = false ∧ c ≠ ',' := by
  -- There are four of them.
  simp only [isOpener, Bool.or_eq_true, beq_iff_eq] at opens
  obtain ((rfl | rfl) | rfl) | rfl := opens <;> decide

/-- A closing bracket is no mark, no opening bracket and no comma. -/
theorem isQuoteMark_of_isCloser (closes : isCloser c = true) :
    isQuoteMark c = false ∧ isOpener c = false ∧ c ≠ ',' := by
  -- There are four of them.
  simp only [isCloser, Bool.or_eq_true, beq_iff_eq] at closes
  obtain ((rfl | rfl) | rfl) | rfl := closes <;> decide

/-- An opening bracket goes one level down. -/
theorem step_of_isOpener (opens : isOpener c = true) (depth : Nat) :
    (⟨depth, none⟩ : Nesting).step c = ⟨depth + 1, none⟩ := by
  -- It is no mark.
  simp [step, isQuoteMark_of_isOpener opens, opens]

/-- A closing bracket goes one level up. -/
theorem step_of_isCloser (closes : isCloser c = true) (depth : Nat) :
    (⟨depth, none⟩ : Nesting).step c = ⟨depth - 1, none⟩ := by
  -- It is no mark and no opening bracket.
  simp [step, isQuoteMark_of_isCloser closes, closes]

/-- Only a quotation mark opens a quotation. -/
theorem quote_step (unquoted : nesting.quote = none) (noMark : isQuoteMark c = false) :
    (nesting.step c).quote = none := by
  -- Every other step keeps the quotation as it is.
  simp only [step, unquoted, noMark]
  grind

/-- Without marks no quotation is opened. -/
theorem quote_behind {text : List Char} (unquoted : nesting.quote = none)
    (unmarked : ∀ c ∈ text, isQuoteMark c = false) : (nesting.behind text).quote = none := by
  -- The induction is on the text, along which the depth may change.
  induction text generalizing nesting with
  | nil => exact unquoted
  | cons c text ih =>
    rw [List.forall_mem_cons] at unmarked
    exact ih (quote_step unquoted unmarked.1) unmarked.2

end Nesting

namespace IsClosed

variable {brackets : Brackets} {commas : Bool} {text : List Char}

/-- A closed text ends outside of quotations if it starts outside of them. -/
theorem quote_behind (known : brackets.isKnown = true) (closed : IsClosed brackets commas text)
    {nesting : Nesting} (unquoted : nesting.quote = none) : (nesting.behind text).quote = none := by
  -- Brackets, and characters that are plain only here, may change the depth, so the nesting
  -- stays quantified over.
  induction closed generalizing nesting with
  | nil => exact unquoted
  | plain isPlain _ ih =>
    simp only [Brackets.isPlain, Bool.and_eq_true, Bool.not_eq_true'] at isPlain
    exact ih (Nesting.quote_step unquoted isPlain.1.2)
  | comma _ ih => exact ih (Nesting.quote_step unquoted rfl)
  | quoted mark content isMark free _ ih =>
    rw [(Nesting.behind_quoted unquoted isMark free _).1]
    exact ih unquoted
  | group opener closer pair _ _ ihInner ih =>
    simp only [Brackets.isKnown, List.all_eq_true, Bool.and_eq_true] at known
    obtain ⟨opens, closes⟩ := known _ pair
    rw [Nesting.behind_append]
    have opened := ihInner (Nesting.quote_step unquoted (Nesting.isQuoteMark_of_isOpener opens).1)
    exact ih (Nesting.quote_step opened (Nesting.isQuoteMark_of_isCloser closes).1)

/-- A closed text without commas of its own does not start with one. -/
private theorem head?_ne_comma (known : brackets.isKnown = true)
    (closed : IsClosed brackets false text) : text.head? ≠ some ',' := by
  -- Outside of groups a text starts with a plain character, a quotation or a group.
  cases closed with
  | nil => simp
  | plain isPlain _ =>
    simp only [Brackets.isPlain, Bool.and_eq_true, bne_iff_ne] at isPlain
    simpa using isPlain.1.1
  | quoted mark content isMark free _ =>
    intro starts
    cases Option.some.inj starts
    cases isMark
  | group opener closer pair _ _ =>
    simp only [Brackets.isKnown, List.all_eq_true, Bool.and_eq_true] at known
    simpa using (Nesting.isQuoteMark_of_isOpener (known _ pair).1).2

/-- A text closed with brackets of any kind is kept, and the nesting behind it is the nesting before
it. Where it has commas outside of its own groups, a group around it must be open. -/
theorem behind_mixed (closed : IsClosed .mixed commas text) (depth : Nat)
    (deep : commas = true → depth ≠ 0) :
    (⟨depth, none⟩ : Nesting).behind text = ⟨depth, none⟩ ∧
      (⟨depth, none⟩ : Nesting).keeps text = true := by
  -- The induction follows the rules, at the depth where the text stands.
  induction closed generalizing depth with
  | nil => exact ⟨rfl, rfl⟩
  | @plain _ c rest isPlain _ ih =>
    obtain ⟨same, kept⟩ := ih depth deep
    have stays : (⟨depth, none⟩ : Nesting).step c = ⟨depth, none⟩ :=
      Nesting.step_of_isPlain rfl isPlain
    rw [Nesting.behind_cons, Nesting.keeps_cons, stays]
    exact ⟨same, fun cut => (Nesting.isPlain_mixed_iff.mp isPlain).1 cut.1, kept⟩
  | comma _ ih =>
    obtain ⟨same, kept⟩ := ih depth deep
    -- A comma changes nothing, and here it is not at the top.
    refine ⟨same, Nesting.keeps_cons.mpr ⟨?_, kept⟩⟩
    simpa [Nesting.top] using deep rfl
  | quoted mark content isMark free _ ih =>
    have passes := @Nesting.behind_quoted ⟨depth, none⟩ _ _ rfl isMark free
    rw [(passes _).1, (passes _).2]
    exact ih depth deep
  | group opener closer pair _ _ ihInner ih =>
    obtain ⟨same, kept⟩ := ih depth deep
    obtain ⟨sameInner, keptInner⟩ := ihInner (depth + 1) (by simp)
    have known : Brackets.mixed.isKnown = true := by decide
    simp only [Brackets.isKnown, List.all_eq_true, Bool.and_eq_true] at known
    obtain ⟨opens, closes⟩ : isOpener opener = true ∧ isCloser closer = true := known _ pair
    -- The opening bracket goes down one level, the inner text stays there, and the
    -- closing one comes back.
    have opened := Nesting.step_of_isOpener opens depth
    have closed := Nesting.step_of_isCloser closes (depth + 1)
    rw [Nat.add_sub_cancel] at closed
    rw [Nesting.behind_append, Nesting.behind_cons, Nesting.behind_cons, Nesting.keeps_append,
      Nesting.keeps_cons, Nesting.behind_cons, Nesting.keeps_cons, opened, sameInner, closed]
    have noComma := (Nesting.isQuoteMark_of_isOpener opens).2
    have noCommaEither := (Nesting.isQuoteMark_of_isCloser closes).2.2
    exact ⟨same, ⟨fun cut => noComma cut.1, keptInner⟩, fun cut => noCommaEither cut.1, kept⟩

end IsClosed

/-! ## Parts between the commas at the top -/

/-- The trimmed parts of a text between the commas at its top, without empty ones. -/
def topParts (text : List Char) : List (List Char) :=
  ((splitCommas 0 none [] text).map trimBlanks).filter (· ≠ [])

/-- Parentheses around a text are taken off. -/
private theorem splitParameters_parenthesized (parts : List (List Char)) :
    splitParameters (parenthesized parts) = topParts (List.intercalate [','] parts) := by
  -- The parentheses are not blank, so the text is trimmed already.
  have trimmed : isTrimmed (parenthesized parts) = true := by
    simp [isTrimmed, parenthesized, List.getLast?_cons]
    decide
  have inner : dropParentheses (parenthesized parts) = List.intercalate [','] parts := by
    simp [dropParentheses, parenthesized, List.getLast?_cons]
  rw [splitParameters, trimBlanks_of_isTrimmed trimmed, inner]
  rfl

namespace SpacedFragment

variable {brackets : Brackets} {fragment : SpacedFragment brackets}

/-- Trimming takes off the blanks around a fragment. -/
private theorem trimBlanks_written (fragment : SpacedFragment brackets) :
    trimBlanks fragment.written = fragment.text :=
  trimBlanks_spaced fragment.blankBefore fragment.trimmed fragment.blankAfter

/-- The blanks around a fragment change nothing. -/
private theorem behind_written (known : brackets.isKnown = true)
    (fragment : SpacedFragment brackets) :
    Nesting.top.behind fragment.written = Nesting.top.behind fragment.text ∧
      Nesting.top.keeps fragment.written = Nesting.top.keeps fragment.text := by
  -- Blanks are plain, so outside of quotations they are passed over.
  have plainBefore := fun c member => Nesting.isPlain_of_isBlank (fragment.blankBefore c member)
  have plainAfter := fun c member => Nesting.isPlain_of_isBlank (fragment.blankAfter c member)
  obtain ⟨sameBefore, keptBefore⟩ := Nesting.behind_of_isPlain Nesting.top_quote plainBefore
  -- Behind the fragment no quotation is open, so the blanks there are read as blanks.
  obtain ⟨sameAfter, keptAfter⟩ :=
    Nesting.behind_of_isPlain (fragment.closed.quote_behind known Nesting.top_quote) plainAfter
  refine ⟨by rw [written, Nesting.behind_append, Nesting.behind_append, sameBefore, sameAfter], ?_⟩
  rw [Bool.eq_iff_iff, written, Nesting.keeps_append, Nesting.keeps_append, Nesting.behind_append,
    sameBefore]
  simp [keptBefore, keptAfter]

/-- A fragment that is kept goes to the first part as a whole. -/
theorem splitCommas_written (known : brackets.isKnown = true)
    (kept : Nesting.top.keeps fragment.text = true) (rest : List Char) :
    splitCommas 0 none [] (fragment.written ++ rest)
      = splitCommas (Nesting.top.behind fragment.text).depth none fragment.written.reverse
        rest := by
  -- The blanks around it are kept with it.
  obtain ⟨sameBehind, sameKeeps⟩ := behind_written known fragment
  have whole := splitCommas_append (sameKeeps.trans kept) [] rest
  rw [sameBehind, fragment.closed.quote_behind known Nesting.top_quote, List.append_nil] at whole
  exact whole

/-- A fragment is not empty. -/
theorem text_ne_nil (fragment : SpacedFragment brackets) : fragment.text ≠ [] := by
  -- It has a first character that is no blank.
  obtain ⟨c, rest, starts, _⟩ := exists_head_of_isTrimmed fragment.trimmed
  simp [starts]

/-- A fragment that is kept is the only part of itself. -/
private theorem topParts_written (known : brackets.isKnown = true)
    (kept : Nesting.top.keeps fragment.text = true) :
    topParts fragment.written = [fragment.text] := by
  -- Nothing follows, so the part ends with the text.
  have whole := splitCommas_written known kept []
  rw [List.append_nil, splitCommas, List.reverse_reverse] at whole
  rw [topParts, whole, List.map_singleton, trimBlanks_written,
    List.filter_cons_of_pos (by simpa using text_ne_nil _), List.filter_nil]

/-- A fragment that is kept and ends at the top is cut off at the comma behind it. -/
private theorem topParts_written_comma (known : brackets.isKnown = true)
    (kept : Nesting.top.keeps fragment.text = true)
    (level : (Nesting.top.behind fragment.text).depth = 0) (rest : List Char) :
    topParts (fragment.written ++ ',' :: rest) = fragment.text :: topParts rest := by
  -- Behind the fragment nothing is open, so the comma ends its part.
  rw [topParts, splitCommas_written known kept, level, splitCommas_comma, List.reverse_reverse,
    List.map_cons, trimBlanks_written, List.filter_cons_of_pos (by simpa using text_ne_nil _)]
  rfl

/-- A fragment that is kept but leaves a group open is not cut off at the comma behind it. -/
private theorem topParts_written_ne (known : brackets.isKnown = true)
    (kept : Nesting.top.keeps fragment.text = true)
    (deep : (Nesting.top.behind fragment.text).depth ≠ 0) (rest : List Char)
    (others : List (List Char)) :
    topParts (fragment.written ++ ',' :: rest) ≠ fragment.text :: others := by
  -- The part goes on behind the comma.
  obtain ⟨more, parts, isSplit⟩ :=
    exists_splitCommas_eq ⟨(Nesting.top.behind fragment.text).depth, none⟩
      (',' :: fragment.written.reverse) rest
  rw [List.reverse_cons, List.reverse_reverse, List.append_assoc, List.singleton_append] at isSplit
  have whole : splitCommas 0 none [] (fragment.written ++ ',' :: rest)
      = (fragment.written ++ ',' :: more) :: parts := by
    rw [splitCommas_written known kept, splitCommas_comma_of_ne deep, isSplit]
  -- The comma goes to the first part, which is longer than the fragment for it.
  obtain ⟨c, tail, starts, solid⟩ := exists_head_of_isTrimmed fragment.trimmed
  have first : trimBlanks (fragment.written ++ ',' :: more)
      = fragment.text ++ fragment.after ++ ',' :: trimEndBy isBlank more := by
    have regroup : fragment.written ++ ',' :: more
        = fragment.before ++ c :: (tail ++ fragment.after ++ ',' :: more) := by
      simp [written, starts]
    rw [regroup, trimBlanks_append_cons fragment.blankBefore solid,
      trimEndBy_append_cons (by decide), starts]
    simp
  rw [topParts, whole, List.map_cons, first, List.filter_cons_of_pos (by simp)]
  intro same
  have lengths := congrArg List.length (List.cons.inj same).1
  simp only [List.length_append, List.length_cons] at lengths
  omega

/-- A fragment that is not kept is cut short. -/
private theorem topParts_cut (known : brackets.isKnown = true)
    (cut : Nesting.top.keeps fragment.text = false) (rest : List Char) (others : List (List Char)) :
    topParts (fragment.written ++ rest) ≠ fragment.text :: others := by
  -- The first comma at the top ends the first part.
  obtain ⟨front, back, isText, kept, atTop⟩ := Nesting.exists_cut cut
  obtain ⟨c, tail, starts, solid⟩ := exists_head_of_isTrimmed fragment.trimmed
  -- The text does not start with the comma, so something of it stands before the cut.
  have headed := fragment.closed.head?_ne_comma known
  obtain ⟨start, rfl⟩ : ∃ start, front = c :: start := by
    cases front with
    | nil => simp [isText] at headed
    | cons d start =>
      rw [isText, List.cons_append, List.cons.injEq] at starts
      exact ⟨start, by rw [starts.1]⟩
  have plainBefore := fun c member => Nesting.isPlain_of_isBlank (fragment.blankBefore c member)
  obtain ⟨sameBefore, keptBefore⟩ := Nesting.behind_of_isPlain Nesting.top_quote plainBefore
  have keptFront : Nesting.top.keeps (fragment.before ++ c :: start) = true := by
    rw [Nesting.keeps_append, sameBefore]
    exact ⟨keptBefore, kept⟩
  have regroup : fragment.written ++ rest
      = (fragment.before ++ c :: start) ++ ',' :: (back ++ fragment.after ++ rest) := by
    simp [written, isText]
  have whole := splitCommas_append keptFront [] (',' :: (back ++ fragment.after ++ rest))
  rw [Nesting.behind_append, sameBefore, atTop, Nesting.top, splitCommas_comma] at whole
  have isFirst : topParts (fragment.written ++ rest)
      = (c :: trimEndBy isBlank start) :: topParts (back ++ fragment.after ++ rest) := by
    rw [topParts, regroup, whole, List.append_nil, List.reverse_reverse, List.map_cons,
      trimBlanks_append_cons fragment.blankBefore solid, List.filter_cons_of_pos (by simp)]
    rfl
  rw [isFirst]
  intro same
  have lengths := congrArg List.length (List.cons.inj same).1
  have shorter := length_trimEndBy_le isBlank start
  rw [isText] at lengths
  simp at lengths
  omega

end SpacedFragment

variable {brackets : Brackets}

/-- A list is split into its fragments exactly if each of them is kept and each but
the last ends at the top. -/
theorem splitParameters_eq_iff_keeps (known : brackets.isKnown = true)
    (list : List (SpacedFragment brackets)) :
    splitParameters (parenthesized (list.map (·.written))) = list.map (·.text) ↔
      (∀ fragment ∈ list, Nesting.top.keeps fragment.text = true) ∧
        ∀ fragment ∈ list.dropLast, (Nesting.top.behind fragment.text).depth = 0 := by
  rw [splitParameters_parenthesized]
  -- Each fragment starts at the top again once those before it have been cut off.
  induction list with
  | nil => simp [topParts, splitCommas, trimBlanks, trimBy, trimStartBy, trimEndBy]
  | cons fragment list ih =>
    cases list with
    | nil =>
      cases kept : Nesting.top.keeps fragment.text with
      | true => simp [SpacedFragment.topParts_written known kept, kept]
      | false =>
        have differs := SpacedFragment.topParts_cut known kept [] []
        simpa [kept] using differs
    | cons next list =>
      have joined : List.intercalate [','] ((fragment :: next :: list).map (·.written))
          = fragment.written ++ ',' :: List.intercalate [','] ((next :: list).map (·.written)) := by
        simp [List.intercalate_cons_cons]
      have texts : (fragment :: next :: list).map (·.text)
          = fragment.text :: (next :: list).map (·.text) := rfl
      rw [joined, texts, List.dropLast_cons_of_ne_nil (by simp)]
      simp only [List.forall_mem_cons (a := fragment)]
      cases kept : Nesting.top.keeps fragment.text with
      | false => simpa using SpacedFragment.topParts_cut known kept _ _
      | true =>
        by_cases level : (Nesting.top.behind fragment.text).depth = 0
        · rw [SpacedFragment.topParts_written_comma known kept level, List.cons.injEq, ih]
          simp [level]
        · simpa [level] using SpacedFragment.topParts_written_ne known kept level _ _

/-- A fragment with brackets of any kind is kept and ends at the top. -/
theorem Fragment.keeps_top (fragment : Fragment .mixed) :
    Nesting.top.keeps fragment.text = true ∧ (Nesting.top.behind fragment.text).depth = 0 := by
  -- With no commas outside of its groups, it may stand at the top.
  obtain ⟨same, kept⟩ := fragment.closed.behind_mixed 0 (by simp)
  exact ⟨kept, congrArg Nesting.depth same⟩

/-- Splitting inverts joining: a list is split into the fragments that it was joined from, with
any blanks around them. -/
theorem splitParameters_of_fragments (list : List (SpacedFragment .mixed)) :
    splitParameters (parenthesized (list.map (·.written))) = list.map (·.text) := by
  -- Every fragment is kept and ends at the top.
  rw [splitParameters_eq_iff_keeps (by decide)]
  exact ⟨fun fragment _ => fragment.keeps_top.1, fun fragment _ => fragment.keeps_top.2⟩

/-- Brackets of different kinds close each other, and a quotation holds brackets and a comma. -/
theorem splitParameters_of_fragments_nested :
    splitParameters "( a ,b: Map<K, (V]> = '),(')".toList
      = ["a".toList, "b: Map<K, (V]> = '),('".toList] := by
  -- A type with a group of brackets that do not match, and a quotation.
  have name : IsClosed .mixed false "a".toList := .plain (by decide) .nil
  have typed : IsClosed .mixed false "b: Map<K, (V]> = '),('".toList :=
    .plains "b: Map".toList (by decide) <|
      .group '<' '>' (by decide)
        (.plain (by decide) <| .comma <| .plain (by decide) <|
          .group '(' ']' (by decide) (.plain (by decide) .nil) .nil) <|
      .plains " = ".toList (by decide) <| .quoted '\'' "),(".toList (by decide) (by decide) .nil
  exact splitParameters_of_fragments
    [⟨⟨_, name, by decide⟩, [' '], [' '], List.all_eq_true.mp rfl, List.all_eq_true.mp rfl⟩,
      ⟨⟨_, typed, by decide⟩, [], [], by simp, by simp⟩]

end SourceAtlas
