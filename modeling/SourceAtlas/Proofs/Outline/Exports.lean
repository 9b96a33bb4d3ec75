import SourceAtlas.Proofs.Index.Growth
import SourceAtlas.Proofs.Text.Cursor
import SourceAtlas.Proofs.Text.Joining

/-! Two ways to tell that a name is exported: by the line that declares it, and by the forms of
export in the whole text. They agree on a line that starts with the export keyword and declares a
function, a class or a constant. -/

namespace SourceAtlas

open Cursor

variable {keyword : String} {line text rest back name tail : List Char} {next : Test}

/-! ## Keywords -/

/-- A text starts with another one exactly where it goes on from it. -/
theorem dropStart?_eq_some_iff {start : List Char} :
    dropStart? start text = some rest ↔ text = start ++ rest := by
  -- The two texts are gone through together, and part at the first difference.
  induction start generalizing text with
  | nil => simp [dropStart?, eq_comm]
  | cons c start ih =>
    cases text with
    | nil => simp [dropStart?]
    | cons d text =>
      by_cases same : c = d
      · simp [dropStart?, same, ih]
      · simp [dropStart?, same, Ne.symm same]

/-- A text occurs in every text that starts with it. -/
theorem occursIn_append (part rest : List Char) : occursIn part (part ++ rest) = true := by
  -- The search looks at the start first, and the empty text has its own case there.
  have starts : startsWith part (part ++ rest) = true := by
    rw [startsWith, dropStart?_eq_some_iff.mpr rfl, Option.isSome_some]
  cases whole : part ++ rest with
  | nil =>
    obtain ⟨rfl, rfl⟩ := List.append_eq_nil_iff.mp whole
    rfl
  | cons c more =>
    rw [whole] at starts
    rw [occursIn, starts, Bool.true_or]

/-- A string occurs in another exactly where that one goes on from some front with it. -/
theorem hasPart_iff {part whole : String} :
    hasPart part whole = true ↔ ∃ front back, whole.toList = front ++ (part.toList ++ back) := by
  rw [hasPart]
  generalize whole.toList = whole
  -- The search goes on from place to place, and the front is what it has passed.
  induction whole with
  | nil => simp [occursIn]
  | cons c rest ih =>
    rw [occursIn, Bool.or_eq_true, ih, startsWith, Option.isSome_iff_exists]
    constructor
    · rintro (⟨back, starts⟩ | ⟨front, back, rfl⟩)
      · exact ⟨[], back, by rw [dropStart?_eq_some_iff.mp starts, List.nil_append]⟩
      · exact ⟨c :: front, back, rfl⟩
    · rintro ⟨front, back, isWhole⟩
      cases front with
      | nil => exact .inl ⟨back, dropStart?_eq_some_iff.mpr isWhole⟩
      | cons d front => exact .inr ⟨front, back, (List.cons.inj isWhole).2⟩

/-- A keyword is told from what follows by a run of blanks. -/
theorem exists_blanks_of_afterKeyword? (follows : afterKeyword? keyword text = some rest) :
    ∃ blanks, text = keyword.toList ++ (blanks ++ rest) ∧ blanks ≠ [] ∧
      ∀ c ∈ blanks, isBlank c = true := by
  obtain ⟨behind, isBehind, isGap⟩ := Option.bind_eq_some_iff.mp follows
  obtain rfl := dropStart?_eq_some_iff.mp isBehind
  cases behind with
  | nil => cases isGap
  | cons c more =>
    obtain ⟨blank, isRest⟩ := Option.ite_none_right_eq_some.mp isGap
    obtain rfl := Option.some.inj isRest
    -- The first blank is asked for, and the others are all those that stand behind it.
    refine ⟨c :: more.takeWhile isBlank, by simp, by simp, ?_⟩
    exact List.forall_mem_cons.mpr ⟨blank, List.all_eq_true.mp List.all_takeWhile⟩

/-- A text that a keyword leads holds the keyword. -/
private theorem hasPart_of_afterKeyword? (follows : afterKeyword? keyword text = some rest) :
    hasPart keyword (String.ofList text) = true := by
  -- The keyword stands at the start.
  obtain ⟨blanks, rfl, _⟩ := exists_blanks_of_afterKeyword? follows
  rw [hasPart, String.toList_ofList]
  exact occursIn_append keyword.toList (blanks ++ rest)

/-- A test for a keyword and blanks holds where the keyword is read, if what is
asked next holds behind it. -/
theorem literal_of_afterKeyword? (follows : afterKeyword? keyword text = some rest)
    (held : ∀ before, next ⟨before, rest ++ back⟩ = true) (before : Option Char) :
    (literal keyword.toList <| some_ isBlank next) ⟨before, text ++ back⟩ = true := by
  -- Behind the keyword the blanks are passed over.
  obtain ⟨blanks, rfl, nonempty, all⟩ := exists_blanks_of_afterKeyword? follows
  refine literal_iff.mpr ⟨blanks ++ (rest ++ back), by simp, ?_⟩
  exact some_iff.mpr ⟨blanks, rest ++ back, rfl, nonempty, all, held _⟩

/-! ## Declared names -/

/-- A word in front of a text that does not go on with it. -/
structure IsWordBefore (word rest : List Char) : Prop where
  nonempty : word ≠ []
  isWord : ∀ c ∈ word, isWordChar c = true
  ended : ∀ c ∈ rest.head?, isWordChar c = false

/-- The end of the line ends a word as well. -/
theorem IsWordBefore.append (isName : IsWordBefore name tail) (ended : ∀ c ∈ back.head?, c = '\n') :
    IsWordBefore name (tail ++ back) := by
  refine ⟨isName.nonempty, isName.isWord, ?_⟩
  -- What follows the word is the rest of its line, or a line end where there is none.
  cases tail with
  | nil =>
    intro c first
    rw [ended c first]
    decide
  | cons d tail => exact isName.ended

/-- A test for a word up to its end holds in front of it. -/
theorem IsWordBefore.literal_edge (isName : IsWordBefore name tail) (before : Option Char) :
    (literal name <| edge done) ⟨before, name ++ tail⟩ = true := by
  refine literal_iff.mpr ⟨tail, rfl, ?_⟩
  -- The last character of the word stands on one side of the edge, and no word
  -- character on the other.
  obtain ⟨c, last⟩ :=
    Option.ne_none_iff_exists'.mp (mt List.getLast?_eq_none_iff.mp isName.nonempty)
  have inside : isWordEdge (some c) = true := isName.isWord c (List.mem_of_getLast? last)
  have outside : isWordEdge tail.head? = false := by
    cases first : tail.head? with
    | none => rfl
    | some d => exact isName.ended d first
  simp [edge, done, atWordEdge, behind, last, inside, outside]

/-- A form declares the word behind its keyword. -/
theorem DeclarationForm.exists_tail_of_name? {form : DeclarationForm}
    (declared : form.name? line = some name) (led : skipKeyword "export" line = text) :
    ∃ tail, IsWordBefore name tail ∧
      afterKeyword? form.keyword (if form.mayBeAsync then skipKeyword "async" text else text)
        = some (name ++ tail) := by
  -- The form reads the word that stands behind its keyword.
  simp only [name?, led, Option.bind_eq_some_iff, Option.ite_none_left_eq_some, Option.some.injEq,
    Bool.or_eq_true, not_or, List.isEmpty_iff] at declared
  obtain ⟨rest, follows, ⟨nonempty, _⟩, rfl⟩ := declared
  -- The name is all that can be taken as a word, so what is left starts with no word character.
  refine ⟨rest.dropWhile isWordChar, ⟨nonempty, List.all_eq_true.mp List.all_takeWhile, ?_⟩, ?_⟩
  · intro c first
    have stops := List.head?_dropWhile_not isWordChar rest
    rw [Option.mem_def.mp first] at stops
    simpa using stops
  · rw [List.takeWhile_append_dropWhile]
    exact follows

/-- A declaration of a text stands in the line of its number, in one of the forms. -/
theorem exists_line_of_mem_declarationsIn {content : String} {found : DeclarationLine}
    (listed : found ∈ declarationsIn content) :
    ∃ form ∈ DeclarationForm.all, ∃ line name,
      (textLines content.toList)[found.line - 1]? = some line ∧
      form.name? line = some name ∧ found.name = String.ofList name ∧
      found.text = String.ofList line := by
  -- The declaration comes from a numbered line, in which some form finds a name.
  simp only [declarationsIn, List.mem_flatMap, declarationsInLine, List.mem_filterMap] at listed
  obtain ⟨⟨line, number⟩, numbered, form, known, declared⟩ := listed
  obtain ⟨name, isName, rfl⟩ := Option.map_eq_some_iff.mp declared
  have here := (List.mem_zipIdx_iff_le_and_getElem?_sub.mp numbered).2
  exact ⟨form, known, line, name, here, isName, rfl, rfl⟩

/-- What the lines of a file add to a draft are the symbols of its declarations. -/
theorem Draft.exists_declaration_of_addLines {draft : Draft} {file content : String}
    {language : Option Language} {symbol : Symbol}
    (stored : symbol ∈ (draft.addLines file content language).symbols)
    (new : symbol ∉ draft.symbols) :
    ∃ found ∈ declarationsIn content, symbol = found.toSymbol file language := by
  -- Each declaration adds its own symbol or nothing, and imports add none.
  have grows : draft.Grows
      (fun symbol => ∃ found ∈ declarationsIn content, symbol = found.toSymbol file language)
      (fun _ => True) (draft.addLines file content language) := by
    refine (grows_foldl (fun found listed draft => ?_) draft).trans
      (grows_addReferences _ fun _ _ => trivial)
    exact draft.grows_addSymbol ⟨found, listed, rfl⟩
  obtain ⟨added, isAfter, declared⟩ := grows.symbols
  rw [isAfter, List.mem_append] at stored
  exact declared symbol (stored.resolve_left new)

/-! ## Marked lines -/

/-- Whether a line starts with the export keyword, and declares no interface
and no type behind it. -/
def marksExport (line : List Char) : Bool :=
  (afterKeyword? "export" line).any fun rest =>
    (afterKeyword? "interface" rest).isNone && (afterKeyword? "type" rest).isNone

/-- A marked line has the keyword, and neither of the two others behind it. -/
theorem marksExport_iff :
    marksExport line = true ↔
      ∃ rest, afterKeyword? "export" line = some rest ∧
        afterKeyword? "interface" rest = none ∧ afterKeyword? "type" rest = none := by
  simp [marksExport, Option.any_eq_true]

/-- A keyword of the list is a declarator. -/
theorem declarator_of_literal (known : keyword ∈ ["const", "let", "var", "function", "class"])
    {cursor : Cursor} (held : literal keyword.toList next cursor = true) :
    declarator next cursor = true := by
  -- It is looked for among the keywords.
  rw [declarator, Bool.or_eq_true, List.any_eq_true]
  exact .inl ⟨keyword, known, held⟩

/-- Behind the export keyword, the declarator and the name of a form are found, unless it is
an interface or a type. -/
private theorem declarator_of_name? {form : DeclarationForm} (known : form ∈ DeclarationForm.all)
    (declared : form.name? line = some name) (led : afterKeyword? "export" line = some rest)
    (noInterface : afterKeyword? "interface" rest = none)
    (noType : afterKeyword? "type" rest = none) (ended : ∀ c ∈ back.head?, c = '\n')
    (before : Option Char) :
    (declarator <| some_ isBlank <| literal name <| edge done) ⟨before, rest ++ back⟩ = true := by
  -- Behind the keyword, the line is read as its form says.
  have skipped : skipKeyword "export" line = rest := by rw [skipKeyword, led, Option.getD_some]
  obtain ⟨tail, isName, follows⟩ := form.exists_tail_of_name? declared skipped
  have named : ∀ before, (literal name <| edge done) ⟨before, (name ++ tail) ++ back⟩ = true := by
    intro before
    rw [List.append_assoc]
    exact (isName.append ended).literal_edge before
  simp only [DeclarationForm.all, List.mem_cons, List.not_mem_nil, or_false] at known
  rcases known with rfl | rfl | rfl | rfl | rfl
  · -- Only a function may have another keyword in front of its own.
    cases async : afterKeyword? "async" rest with
    | none =>
      rw [if_pos rfl, skipKeyword, async, Option.getD_none] at follows
      exact declarator_of_literal (by decide) (literal_of_afterKeyword? follows named before)
    | some inner =>
      rw [if_pos rfl, skipKeyword, async, Option.getD_some] at follows
      have marked := literal_of_afterKeyword? async (literal_of_afterKeyword? follows named) before
      rw [declarator, marked, Bool.or_true]
  · exact declarator_of_literal (by decide) (literal_of_afterKeyword? follows named before)
  · exact declarator_of_literal (by decide) (literal_of_afterKeyword? follows named before)
  · cases noInterface.symm.trans follows
  · cases noType.symm.trans follows

/-- What the lines of a file add to a draft from a marked line is taken for exported, and the whole
text exports its name as well. -/
theorem exported_and_isExported_of_marksExport {draft : Draft} {file content : String}
    {language : Option Language} {symbol : Symbol}
    (stored : symbol ∈ (draft.addLines file content language).symbols)
    (new : symbol ∉ draft.symbols)
    (stands : (textLines content.toList)[(symbol.startLine - 1).toNat]? = some line)
    (marked : marksExport line = true) :
    symbol.exported = true ∧ isExported symbol.name content = true := by
  -- The symbol is that of a declaration in the marked line.
  obtain ⟨found, listed, rfl⟩ := Draft.exists_declaration_of_addLines stored new
  obtain ⟨form, known, own, name, isOwn, declared, isName, isText⟩ :=
    exists_line_of_mem_declarationsIn listed
  obtain rfl : own = line := by
    -- The number of the line is a natural one, so its index can be taken there.
    have sameIndex : ((found.line : Int) - 1).toNat = found.line - 1 := by omega
    rw [← sameIndex] at isOwn
    exact Option.some.inj (isOwn.symm.trans stands)
  obtain ⟨rest, led, noInterface, noType⟩ := marksExport_iff.mp marked
  constructor
  · -- The line starts with the word that is looked for in it.
    show hasPart "export" found.text = true
    rw [isText]
    exact hasPart_of_afterKeyword? led
  · -- The form is found where the line starts, whatever stands in front of it and in the lines
    -- behind it.
    obtain ⟨front, back, around, ended⟩ :=
      exists_around_of_mem_splitAtChar (List.mem_of_getElem? stands)
    have held : holdsIn (exportsDeclared name) content.toList = true := by
      refine holdsIn_iff.mpr ⟨front, own ++ back, around, ?_⟩
      exact literal_of_afterKeyword? led
        (declarator_of_name? known declared led noInterface noType ended) _
    show isExported found.name content = true
    rw [isName, isExported, String.toList_ofList, List.any_eq_true]
    exact ⟨exportsDeclared name, by simp [exportForms], held⟩

/-- A marked line behind another one, with a keyword between its mark and its declarator. -/
theorem exported_and_isExported_of_marked_async :
    let content := "let x\nexport  async function run() \x7b\x7d"
    let symbol :=
      DeclarationLine.toSymbol ⟨2, "run", "function",
        "export  async function run() \x7b\x7d"⟩ "a.js" none
    symbol ∈ (Draft.addLines {} "a.js" content none).symbols ∧ symbol.exported = true ∧
      isExported symbol.name content = true := by
  -- The text declares nothing else.
  intro content symbol
  have only : (Draft.addLines {} "a.js" content none).symbols = [symbol] := by
    unfold content symbol
    rfl
  have stored : symbol ∈ (Draft.addLines {} "a.js" content none).symbols :=
    only ▸ List.mem_singleton_self symbol
  have stands : (textLines content.toList)[(symbol.startLine - 1).toNat]?
      = some "export  async function run() \x7b\x7d".toList := by decide
  exact ⟨stored,
    exported_and_isExported_of_marksExport stored (List.not_mem_nil) stands (by decide)⟩

/-- A line may hold the export keyword elsewhere, for another name, and an interface has no form in
the whole text: both names are taken for exported by their lines, and the text exports neither. -/
theorem exported_of_line_not_isExported :
    let content := "const a = 1; export \x7b b \x7d;\nexport interface Shape \x7b\x7d"
    (Draft.addLines {} "a.ts" content none).symbols.map
        (fun symbol => (symbol.name, symbol.exported, isExported symbol.name content))
      = [("a", true, false), ("Shape", true, false)] := by
  decide

end SourceAtlas
