import SourceAtlas.Proofs.Outline.ExportForms
import SourceAtlas.Proofs.Text.Blanks

/-! What single lines declare and import is found once: no line declares in two forms, and no line
imports statically in two ways. -/

namespace SourceAtlas

variable {keyword other : String} {line text rest more name : List Char}

/-! ## Lists that are gone through once -/

/-- Of elements that are never found together, at most one is found. -/
theorem length_filterMap_le_one {α β : Type} {find : α → Option β} {items : List α}
    (apart : items.Pairwise fun item other => find item = none ∨ find other = none) :
    (items.filterMap find).length ≤ 1 := by
  -- The induction is on the elements, of which the first found is the last.
  induction items with
  | nil => simp
  | cons item items ih =>
    obtain ⟨first, others⟩ := List.pairwise_cons.mp apart
    cases found : find item with
    | none =>
      rw [List.filterMap_cons_none found]
      exact ih others
    | some value =>
      -- What is found first leaves nothing for the others.
      have none : items.filterMap find = [] :=
        List.filterMap_eq_nil_iff.mpr fun item inside =>
          (first item inside).resolve_left (by simp [found])
      simp [List.filterMap_cons_some found, none]

/-- Where each line reports at most one thing and numbers it, the numbers rise along the lines. -/
private theorem pairwise_reports {β : Type} {report : Nat → List Char → List β} {numberOf : β → Nat}
    (single : ∀ number line, (report number line).length ≤ 1)
    (numbered : ∀ number line, ∀ found ∈ report number line, numberOf found = number)
    (lines : List (List Char)) (start : Nat) :
    ((lines.zipIdx start).flatMap fun entry => report entry.2 entry.1).Pairwise
      fun found later => numberOf found < numberOf later := by
  -- Inside of a line there is nothing to compare, and the lines are numbered in order.
  refine List.pairwise_flatMap.mpr ⟨fun entry _ => ?_, ?_⟩
  · -- A list of one element has no two to compare.
    have short := single entry.2 entry.1
    cases isReport : report entry.2 entry.1 with
    | nil => exact .nil
    | cons found others =>
      rw [isReport] at short
      obtain rfl : others = [] := by simpa using short
      exact List.pairwise_singleton _ _
  · have rising : (lines.zipIdx start).Pairwise fun entry later => entry.2 < later.2 := by
      rw [← List.pairwise_map (f := Prod.snd), List.zipIdx_map_snd]
      exact List.pairwise_lt_range'
    refine rising.imp fun {entry later} below found inside after later => ?_
    rw [numbered _ _ _ inside, numbered _ _ _ later]
    exact below

/-! ## Declarations -/

/-- Of two keywords that lead one text, one is the start of the other. -/
private theorem prefix_of_afterKeyword? (first : afterKeyword? keyword text = some rest)
    (second : afterKeyword? other text = some more) :
    keyword.toList <+: other.toList ∨ other.toList <+: keyword.toList := by
  -- Both are starts of the text.
  obtain ⟨blanks, isText, _⟩ := exists_blanks_of_afterKeyword? first
  obtain ⟨others, sameText, _⟩ := exists_blanks_of_afterKeyword? second
  exact List.prefix_or_prefix_of_prefix ⟨_, isText.symm⟩ ⟨_, sameText.symm⟩

/-- What is left behind an optional keyword is the end of the text. -/
private theorem exists_front_of_skipKeyword (keyword : String) (text : List Char) :
    ∃ front, text = front ++ skipKeyword keyword text := by
  -- Without the keyword nothing is left out.
  rw [skipKeyword]
  cases led : afterKeyword? keyword text with
  | none => exact ⟨[], rfl⟩
  | some rest =>
    obtain ⟨blanks, isText, _⟩ := exists_blanks_of_afterKeyword? led
    exact ⟨keyword.toList ++ blanks, by simpa using isText⟩

namespace DeclarationForm

variable {form : DeclarationForm}

/-- The keywords that may lead a line of a form, behind the export keyword if there is one. -/
def openers (form : DeclarationForm) : List String :=
  if form.mayBeAsync then ["async", form.keyword] else [form.keyword]

/-- A line that declares a name is led by one of the keywords of its form. -/
private theorem exists_opener_of_name? (declared : form.name? line = some name) :
    ∃ opener ∈ form.openers, ∃ rest,
      afterKeyword? opener (skipKeyword "export" line) = some rest := by
  -- The keyword stands at the start, or behind the mark.
  obtain ⟨tail, _, follows⟩ := form.exists_tail_of_name? declared rfl
  cases async : form.mayBeAsync with
  | false =>
    rw [async, if_neg Bool.false_ne_true] at follows
    exact ⟨form.keyword, by simp [openers, async], _, follows⟩
  | true =>
    -- Either the mark leads the line, or there is none and the keyword does.
    rw [async, if_pos rfl, skipKeyword] at follows
    cases marked : afterKeyword? "async" (skipKeyword "export" line) with
    | some rest => exact ⟨"async", by simp [openers, async], rest, marked⟩
    | none =>
      rw [marked] at follows
      exact ⟨form.keyword, by simp [openers, async], _, follows⟩

/-- No keyword of one form starts a keyword of another one. -/
private theorem openers_apart :
    all.Pairwise fun form other => ∀ opener ∈ form.openers, ∀ second ∈ other.openers,
      ¬ opener.toList <+: second.toList ∧ ¬ second.toList <+: opener.toList := by
  decide

/-- No line declares in two forms. -/
private theorem forms_apart (line : List Char) :
    all.Pairwise fun form other => form.name? line = none ∨ other.name? line = none := by
  -- A line in two forms would start with keywords of both.
  refine openers_apart.imp fun {form other} apart => ?_
  cases declared : form.name? line with
  | none => exact .inl rfl
  | some name =>
    cases again : other.name? line with
    | none => exact .inr rfl
    | some second =>
      obtain ⟨opener, listed, _, leads⟩ := exists_opener_of_name? declared
      obtain ⟨another, alsoListed, _, alsoLeads⟩ := exists_opener_of_name? again
      obtain ⟨notFirst, notSecond⟩ := apart opener listed another alsoListed
      exact ((prefix_of_afterKeyword? leads alsoLeads).elim notFirst notSecond).elim

/-- The name that a form declares is a whole word of the line. -/
theorem namesWhole_of_name? (declared : form.name? line = some name) : NamesWhole name line [] := by
  -- The name stands behind the keyword, and ends where the word does.
  obtain ⟨tail, isName, follows⟩ := form.exists_tail_of_name? declared rfl
  obtain ⟨blanks, isText, nonempty, blank⟩ := exists_blanks_of_afterKeyword? follows
  obtain ⟨front, isLine⟩ := exists_front_of_skipKeyword "export" line
  -- What the keyword leads is the end of the line, with or without a mark in front of it.
  obtain ⟨mark, isRest⟩ : ∃ mark, skipKeyword "export" line
      = mark ++ (if form.mayBeAsync then skipKeyword "async" (skipKeyword "export" line)
        else skipKeyword "export" line) := by
    split
    · exact exists_front_of_skipKeyword "async" _
    · exact ⟨[], rfl⟩
  rw [isRest, isText] at isLine
  refine ⟨front ++ (mark ++ (form.keyword.toList ++ blanks)), tail, by simpa using isLine,
    fun c last => ?_, ?_⟩
  · -- The name stands behind a blank.
    obtain ⟨d, isLast⟩ := Option.ne_none_iff_exists'.mp (mt List.getLast?_eq_none_iff.mp nonempty)
    have same : c = d := by
      simp [List.getLast?_append, isLast] at last
      exact last.symm
    have isGap := blank d (List.mem_of_getLast? isLast)
    rw [same, ← Bool.not_eq_true]
    intro word
    rw [isBlank_of_isWordChar word] at isGap
    cases isGap
  · rw [List.append_nil]
    exact isName

end DeclarationForm

/-- A line has at most one declaration. -/
theorem length_declarationsInLine_le (number : Nat) (line : List Char) :
    (declarationsInLine number line).length ≤ 1 := by
  -- The forms are tried one by one, and no two of them find a name.
  refine length_filterMap_le_one
    ((DeclarationForm.forms_apart line).imp fun {form other} apart => ?_)
  rwa [Option.map_eq_none_iff, Option.map_eq_none_iff]

/-! ## Imports -/

/-- A quote is no blank. -/
private theorem isBlank_of_isQuote {c : Char} (quote : isQuote c = true) : isBlank c = false := by
  simp only [isQuote, Bool.or_eq_true, beq_iff_eq] at quote
  rcases quote with rfl | rfl <;> decide

/-- A quote is no character of a module name. -/
private theorem isModuleChar_of_isQuote {c : Char} (quote : isQuote c = true) :
    isModuleChar c = false := by
  simp only [isQuote, Bool.or_eq_true, beq_iff_eq] at quote
  rcases quote with rfl | rfl <;> decide

/-- A character of a module name is no blank. -/
private theorem isBlank_of_isModuleChar {c : Char} (inName : isModuleChar c = true) :
    isBlank c = false := by
  -- It is a word character or a dot.
  simp only [isModuleChar, Bool.or_eq_true, beq_iff_eq] at inName
  rcases inName with word | rfl
  · exact isBlank_of_isWordChar word
  · decide

/-- Blanks in front of what is not blank are dropped, and those that stand in front of
them are all that is left. -/
private theorem dropWhile_append_of_solid {c : Char} {front more : List Char}
    (solid : isBlank c = false) :
    (front ++ c :: more).dropWhile isBlank = front.dropWhile isBlank ++ c :: more := by
  -- The solid character stops the dropping at the latest.
  rw [List.dropWhile_append]
  split
  · rename_i gone
    rw [List.isEmpty_iff.mp gone, List.dropWhile_cons_of_neg (by simp [solid]), List.nil_append]
  · rfl

/-- A text has the word before a quoted module name, if that stands behind
blanks or at the start. -/
private theorem importsQuoted_of_from {front gap more : List Char} {c : Char}
    (apart : ∀ d ∈ front.getLast?, isBlank d = true) (nonempty : gap ≠ []) (blank : AllBlank gap)
    (quote : isQuote c = true) :
    importsQuoted (front ++ ("from".toList ++ (gap ++ c :: more))) = true := by
  -- The word is looked for at every place, and stands behind the front.
  refine Cursor.holdsIn_iff.mpr ⟨front, _, rfl, ?_⟩
  rw [Cursor.edge, Bool.and_eq_true]
  constructor
  · -- Nothing of a word stands on the left, and the first letter of the word on the right.
    have outside : isWordEdge front.getLast? = false := by
      refine isWordEdge_eq_false_iff.mpr fun d last => ?_
      rw [← Bool.not_eq_true]
      intro word
      have gap := apart d last
      rw [isBlank_of_isWordChar word] at gap
      cases gap
    have inside : isWordEdge (some 'f') = true := by decide
    simp [Cursor.atWordEdge, Cursor.behind, outside, inside]
  · refine Cursor.literal_iff.mpr ⟨_, rfl, Cursor.some_iff.mpr ⟨gap, _, rfl, nonempty, blank, ?_⟩⟩
    simpa [Cursor.behind] using quote

/-- What stands between the import keyword and a quoted module name is blank, or ends in a word
of its own and blanks. -/
theorem isImportHead_cases {head : List Char} (isHead : isImportHead head = true) :
    AllBlank head ∨ ∃ front gap, head = front ++ ("from".toList ++ gap) ∧
      (∀ d ∈ front.getLast?, isBlank d = true) ∧ gap ≠ [] ∧ AllBlank gap := by
  -- The head is read from its end, so the blanks there come first and the clause in
  -- front of them is backwards.
  have cut : head = (head.reverse.dropWhile isBlank).reverse ++
      (head.reverse.takeWhile isBlank).reverse := by
    rw [← List.reverse_append, List.takeWhile_append_dropWhile, List.reverse_reverse]
  have blank : AllBlank (head.reverse.takeWhile isBlank).reverse := by
    intro c inside
    exact List.all_eq_true.mp List.all_takeWhile c (List.mem_reverse.mp inside)
  simp only [isImportHead, Bool.if_false_left, Bool.if_true_left, Bool.and_eq_true, Bool.or_eq_true,
    decide_eq_true_eq, List.isEmpty_iff] at isHead
  obtain ⟨_, allBlank | ⟨ended, isClause⟩⟩ := isHead
  · left
    rw [allBlank, List.reverse_nil, List.nil_append] at cut
    rw [cut]
    exact blank
  · right
    split at isClause
    · rename_i clause isStart
      rw [dropStart?_eq_some_iff.mp isStart, List.reverse_append] at cut
      refine ⟨clause.reverse, _, by simpa using cut, ?_, ?_, blank⟩
      · -- The clause starts with a blank when it is read backwards.
        simp only [Bool.and_eq_true, Option.any_eq_true] at isClause
        obtain ⟨⟨⟨_, c, first, isGap⟩, _⟩, _⟩ := isClause
        intro d last
        rw [List.getLast?_reverse, first] at last
        rwa [← Option.some.inj last]
      · simp only [Option.any_eq_true] at ended
        obtain ⟨c, last, isGap⟩ := ended
        obtain ⟨more, isReverse⟩ := List.head?_eq_some_iff.mp (List.head?_reverse ▸ last)
        simp [isReverse, isGap]
    · cases isClause

/-- A line that imports a quoted name has the keyword behind its leading blanks, and a
quote behind the head. -/
private theorem exists_head_of_quotedImport? {module : List Char}
    (found : quotedImport? line = some module) :
    ∃ head c more, line.dropWhile isBlank = "import".toList ++ (head ++ c :: more) ∧
      isImportHead head = true ∧ isQuote c = true := by
  -- The keyword, the head and the quoted name are read one after the other.
  simp only [quotedImport?, Option.bind_eq_bind, Option.bind_eq_some_iff] at found
  obtain ⟨rest, isRest, quoted, isQuoted, found⟩ := found
  obtain ⟨isHead, _⟩ := Option.ite_none_right_eq_some.mp found
  have cut : rest = rest.takeWhile (fun c => !isQuote c) ++ rest.dropWhile fun c => !isQuote c :=
    List.takeWhile_append_dropWhile.symm
  cases isTail : rest.dropWhile fun c => !isQuote c with
  | nil => simp [isTail, quotedModule?] at isQuoted
  | cons c more =>
    -- The head is all that stands in front of the first quote.
    have quote : isQuote c = true := by
      have stops := List.head?_dropWhile_not (fun c => !isQuote c) rest
      simpa [isTail] using stops
    rw [isTail] at cut
    exact ⟨_, c, more, by rw [dropStart?_eq_some_iff.mp isRest, ← cut], isHead, quote⟩

/-- A line that imports a dotted name starts with the keyword and has the name behind
blanks, and no quoted name. -/
private theorem exists_rest_of_dottedImport? {module : List Char}
    (found : dottedImport? line = some module) :
    ∃ blanks c more, line = "import".toList ++ (blanks ++ c :: more) ∧ AllBlank blanks ∧
      isModuleChar c = true ∧ importsQuoted (c :: more) = false := by
  -- Behind the keyword and blanks, a module name has to start.
  simp only [dottedImport?, Option.bind_eq_bind, Option.bind_eq_some_iff] at found
  obtain ⟨rest, follows, found⟩ := found
  obtain ⟨unquoted, _⟩ := Option.ite_none_left_eq_some.mp found
  obtain ⟨blanks, isLine, _, blank⟩ := exists_blanks_of_afterKeyword? follows
  simp only [Bool.or_eq_true, not_or, List.isEmpty_iff, Bool.not_eq_true] at unquoted
  cases rest with
  | nil => exact absurd rfl unquoted.1
  | cons c more =>
    refine ⟨blanks, c, more, isLine, blank, ?_, unquoted.2⟩
    cases first : isModuleChar c with
    | true => rfl
    | false => simp [first] at unquoted

/-- A line that imports a dotted name imports no quoted one. -/
private theorem quotedImport?_of_dottedImport? {module : List Char}
    (found : dottedImport? line = some module) : quotedImport? line = none := by
  -- A line that imports both ways would be read twice from the same keyword on.
  obtain ⟨blanks, c, more, rfl, blank, inName, unquoted⟩ := exists_rest_of_dottedImport? found
  refine Option.eq_none_iff_forall_ne_some.mpr fun quoted isQuoted => ?_
  obtain ⟨head, d, after, isLine, isHead, quote⟩ := exists_head_of_quotedImport? isQuoted
  -- Both read the same text behind the keyword, one of them from its first
  -- character on that is not blank.
  have same : blanks ++ c :: more = head ++ d :: after := by
    have solid : ("import".toList ++ (blanks ++ c :: more)).dropWhile isBlank
        = "import".toList ++ (blanks ++ c :: more) := List.dropWhile_cons_of_neg (by decide)
    exact List.append_cancel_left (solid.symm.trans isLine)
  have rest : c :: more = (head ++ d :: after).dropWhile isBlank := by
    rw [← same, List.dropWhile_append_of_pos blank,
      List.dropWhile_cons_of_neg (by simp [isBlank_of_isModuleChar inName])]
  rcases isImportHead_cases isHead with headBlank | ⟨front, gap, rfl, apart, nonempty, gapBlank⟩
  · -- Only blanks stand in front of the quote, so the name would start with it.
    rw [List.dropWhile_append_of_pos headBlank,
      List.dropWhile_cons_of_neg (by simp [isBlank_of_isQuote quote]), List.cons.injEq] at rest
    rw [rest.1, isModuleChar_of_isQuote quote] at inName
    cases inName
  · -- The word in front of the quote is still there when the leading blanks are dropped.
    rw [List.append_assoc, List.append_assoc] at rest
    have cut : (front ++ ("from".toList ++ (gap ++ d :: after))).dropWhile isBlank
        = front.dropWhile isBlank ++ ("from".toList ++ (gap ++ d :: after)) :=
      dropWhile_append_of_solid (by decide)
    have stillApart : ∀ d ∈ (front.dropWhile isBlank).getLast?, isBlank d = true := by
      intro d last
      refine apart d ?_
      rw [← List.takeWhile_append_dropWhile (p := isBlank) (l := front), List.getLast?_append,
        Option.mem_def.mp last]
      rfl
    rw [rest, cut, importsQuoted_of_from stillApart nonempty gapBlank quote] at unquoted
    cases unquoted

/-- A line that imports from a dotted name imports neither a quoted nor a dotted one. -/
private theorem otherImports_of_fromImport? {module : List Char}
    (found : fromImport? line = some module) :
    quotedImport? line = none ∧ dottedImport? line = none := by
  -- The line starts with another keyword.
  simp only [fromImport?, Option.bind_eq_bind, Option.bind_eq_some_iff] at found
  obtain ⟨rest, follows, _⟩ := found
  obtain ⟨blanks, rfl, _⟩ := exists_blanks_of_afterKeyword? follows
  constructor
  · -- The line starts with no blank and with another letter.
    refine Option.eq_none_iff_forall_ne_some.mpr fun quoted isQuoted => ?_
    obtain ⟨head, c, more, isLine, _⟩ := exists_head_of_quotedImport? isQuoted
    have solid : ("from".toList ++ (blanks ++ rest)).dropWhile isBlank
        = "from".toList ++ (blanks ++ rest) :=
      List.dropWhile_cons_of_neg (by decide)
    rw [solid] at isLine
    simp at isLine
  · refine Option.eq_none_iff_forall_ne_some.mpr fun dotted isDotted => ?_
    obtain ⟨blanks, c, more, isLine, _⟩ := exists_rest_of_dottedImport? isDotted
    simp at isLine

/-- The types of the imports that are statements of their own. -/
def staticTypes : List String :=
  ["importDeclaration", "importStatement", "fromImport"]

/-- Whether an import is a statement of its own. -/
def ImportLine.isStatic (found : ImportLine) : Bool :=
  staticTypes.contains found.type

/-- Imports of one type in one line. -/
def importsOfType (number : Nat) (type : String) (modules : List (List Char)) : List ImportLine :=
  modules.map fun name => ⟨number, type, String.ofList name⟩

/-- The imports of a line, by the five ways to find them. -/
theorem importsInLine_eq (number : Nat) (line : List Char) :
    importsInLine number line =
      importsOfType number "require" (callModules "require" none 0 line) ++
        importsOfType number "importDeclaration" (quotedImport? line).toList ++
        importsOfType number "dynamicImport" (callModules "import" none 0 line) ++
        importsOfType number "importStatement" (dottedImport? line).toList ++
        importsOfType number "fromImport" (fromImport? line).toList :=
  rfl

/-- What is imported by one type is static or not as a whole. -/
theorem length_staticImports_ofType (number : Nat) (type : String) (modules : List (List Char)) :
    ((importsOfType number type modules).filter ImportLine.isStatic).length
      = if staticTypes.contains type then modules.length else 0 := by
  -- All of them have the one type.
  have same : ∀ found ∈ importsOfType number type modules,
      found.isStatic = staticTypes.contains type := by
    intro found listed
    obtain ⟨_, _, rfl⟩ := List.mem_map.mp listed
    rfl
  split
  · rename_i isStatic
    rw [List.filter_eq_self.mpr fun found listed => (same found listed).trans isStatic]
    exact List.length_map _
  · rename_i isCall
    rw [List.filter_eq_nil_iff.mpr fun found listed => same found listed ▸ isCall]
    rfl

/-- Calls are no statements, so the static imports of a line are those of the
three kinds of statements. -/
theorem length_staticImports (number : Nat) (line : List Char) :
    ((importsInLine number line).filter ImportLine.isStatic).length
      = (quotedImport? line).toList.length + (dottedImport? line).toList.length
        + (fromImport? line).toList.length := by
  -- Of the five types three are static.
  simp only [importsInLine_eq, List.filter_append, List.length_append, length_staticImports_ofType]
  simp [staticTypes]

/-- A line has at most one static import. -/
theorem length_staticImports_le (number : Nat) (line : List Char) :
    ((importsInLine number line).filter ImportLine.isStatic).length ≤ 1 := by
  rw [length_staticImports]
  -- Whichever kind of statement the line is, the other two are excluded.
  cases isFrom : fromImport? line with
  | some module =>
    obtain ⟨noQuoted, noDotted⟩ := otherImports_of_fromImport? isFrom
    simp [noQuoted, noDotted]
  | none =>
    cases isDotted : dottedImport? line with
    | some module => simp [quotedImport?_of_dottedImport? isDotted]
    | none => cases quotedImport? line <;> simp

/-- A declaration bears the number of its line. -/
private theorem line_of_mem_declarationsInLine {number : Nat} {found : DeclarationLine}
    (listed : found ∈ declarationsInLine number line) : found.line = number := by
  -- It was made from the line with its number.
  simp only [declarationsInLine, List.mem_filterMap, Option.map_eq_some_iff] at listed
  obtain ⟨_, _, _, _, rfl⟩ := listed
  rfl

/-- An import bears the number of its line. -/
private theorem line_of_mem_importsInLine {number : Nat} {found : ImportLine}
    (listed : found ∈ importsInLine number line) : found.line = number := by
  -- Whichever way it is found, it was made with the number.
  have ofType : ∀ {type modules}, found ∈ importsOfType number type modules →
      found.line = number := by
    intro type modules inside
    obtain ⟨_, _, rfl⟩ := List.mem_map.mp inside
    rfl
  simp only [importsInLine_eq, List.mem_append] at listed
  rcases listed with (((call | quoted) | dynamic) | dotted) | fromDotted
  · exact ofType call
  · exact ofType quoted
  · exact ofType dynamic
  · exact ofType dotted
  · exact ofType fromDotted

/-- Every declaration and every static import of a text is reported once: along the reports the line
numbers rise, since no line declares in two forms or has two static imports. What is declared is a
whole word of the line of its number. -/
theorem lines_report_once (content : String) :
    ((declarationsIn content).Pairwise fun found later => found.line < later.line) ∧
    (∀ line, DeclarationForm.all.Pairwise fun form other =>
      form.name? line = none ∨ other.name? line = none) ∧
    (∀ found ∈ declarationsIn content, 1 ≤ found.line ∧
      (textLines content.toList)[found.line - 1]? = some found.text.toList ∧
      NamesWhole found.name.toList found.text.toList []) ∧
    ((importsIn content).filter ImportLine.isStatic).Pairwise fun found later =>
      found.line < later.line := by
  -- Each line reports once, and numbers rise from line to line.
  refine ⟨?_, DeclarationForm.forms_apart, fun found listed => ?_, ?_⟩
  · exact pairwise_reports length_declarationsInLine_le
      (fun _ _ _ => line_of_mem_declarationsInLine) _ 1
  · obtain ⟨form, _, line, name, isLine, declared, isName, isText⟩ :=
      exists_line_of_mem_declarationsIn listed
    refine ⟨(declarationsIn_shape listed).2, ?_, ?_⟩
    · rw [isText, String.toList_ofList]
      exact isLine
    · rw [isName, isText, String.toList_ofList, String.toList_ofList]
      exact form.namesWhole_of_name? declared
  · rw [importsIn, List.filter_flatMap]
    refine pairwise_reports length_staticImports_le (fun number line found listed => ?_) _ 1
    exact line_of_mem_importsInLine (List.mem_filter.mp listed).1

/-- A name that is a keyword of another form, and an import whose name is the word
that a clause ends with. -/
theorem lines_report_once_keywords :
    let content := "export const function = type =\nimport from from 'm'\nimport os"
    let found : DeclarationLine := ⟨1, "function", "constant", "export const function = type ="⟩
    declarationsIn content = [found] ∧ NamesWhole "function".toList found.text.toList [] ∧
      ((importsIn content).filter ImportLine.isStatic).map (fun found => (found.line, found.type))
        = [(2, "importDeclaration"), (3, "importStatement")] ∧
      ((importsIn content).filter ImportLine.isStatic).Pairwise fun found later =>
        found.line < later.line := by
  -- The first line declares, and the two others import.
  intro content found
  have only : declarationsIn content = [found] := by
    unfold content found
    rfl
  obtain ⟨_, _, declared, imported⟩ := lines_report_once content
  refine ⟨only, (declared found (only ▸ List.mem_singleton_self found)).2.2, ?_, imported⟩
  unfold content
  decide +kernel

end SourceAtlas
