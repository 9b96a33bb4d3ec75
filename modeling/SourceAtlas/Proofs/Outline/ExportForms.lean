import SourceAtlas.Proofs.Outline.Exports

/-! The forms of export as ways to write a text. A text exports a name iff one of them
stands in it, wherever that is and whatever stands around it, so lines that are added to a
text take no export away. -/

namespace SourceAtlas

open Cursor

/-! ## Ways to write an export -/

/-- A text of blanks, or an empty one. -/
def AllBlank (gap : List Char) : Prop :=
  ∀ c ∈ gap, isBlank c = true

/-- A name is a whole word of a text, if `back` follows the text. -/
def NamesWhole (name text back : List Char) : Prop :=
  ∃ front tail, text = front ++ (name ++ tail) ∧ (∀ c ∈ front.getLast?, isWordChar c = false) ∧
    IsWordBefore name (tail ++ back)

/-- What may stand between the export keyword and a name. -/
inductive IsDeclarator : List Char → Prop
  | keyword {word : String} (known : word ∈ ["const", "let", "var", "function", "class"]) :
      IsDeclarator word.toList
  | asynchronous {gap : List Char} (nonempty : gap ≠ []) (blank : AllBlank gap) :
      IsDeclarator ("async".toList ++ (gap ++ "function".toList))

/-- A text exports a name by the way it is written, if `back` follows it. -/
inductive WritesExport (name : List Char) : List Char → List Char → Prop
  | declared {gap space word back : List Char} (nonempty : gap ≠ []) (blank : AllBlank gap)
      (declares : IsDeclarator word) (spaceNonempty : space ≠ []) (spaceBlank : AllBlank space)
      (whole : IsWordBefore name back) :
      WritesExport name ("export".toList ++ (gap ++ (word ++ (space ++ name)))) back
  | listed {gap list back : List Char} (blank : AllBlank gap) (unclosed : '\x7d' ∉ list)
      (named : NamesWhole name list ('\x7d' :: back)) :
      WritesExport name ("export".toList ++ (gap ++ (['\x7b'] ++ (list ++ ['\x7d'])))) back
  | byDefault {gap space back : List Char} (nonempty : gap ≠ []) (blank : AllBlank gap)
      (spaceNonempty : space ≠ []) (spaceBlank : AllBlank space)
      (whole : IsWordBefore name back) :
      WritesExport name ("export".toList ++ (gap ++ ("default".toList ++ (space ++ name)))) back
  | object {gap space list back : List Char} (blank : AllBlank gap) (spaceBlank : AllBlank space)
      (unclosed : '\x7d' ∉ list) (named : NamesWhole name list back) :
      WritesExport name
        ("module.exports".toList ++ (gap ++ (['='] ++ (space ++ (['\x7b'] ++ list))))) back
  | member {gap back : List Char} (blank : AllBlank gap) :
      WritesExport name ("module.exports.".toList ++ (name ++ (gap ++ ['=']))) back
  | short {gap back : List Char} (blank : AllBlank gap) :
      WritesExport name ("exports.".toList ++ (name ++ (gap ++ ['=']))) back

/-! ## What the tests find -/

variable {name text front written rest back after gap : List Char}
  {before : Option Char} {next : Test}

/-- A neighbour that is no edge of a word is missing or no word character. -/
theorem isWordEdge_eq_false_iff {neighbour : Option Char} :
    isWordEdge neighbour = false ↔ ∀ c ∈ neighbour, isWordChar c = false := by
  -- A missing neighbour belongs to no word.
  cases neighbour <;> simp [isWordEdge]

/-- A word is read up to its end. -/
theorem literal_edge_iff (nonempty : name ≠ []) (isWord : ∀ c ∈ name, isWordChar c = true) :
    (literal name <| edge next) ⟨before, rest⟩ = true ↔
      ∃ back, rest = name ++ back ∧ IsWordBefore name back ∧
        next (behind before name back) = true := by
  -- The word stands there, and its end is an edge.
  rw [literal_iff]
  refine exists_congr fun back => and_congr_right fun _ => ?_
  -- The last character of the name is on the left of the edge, so none of a
  -- word may be on its right.
  obtain ⟨c, last⟩ := Option.ne_none_iff_exists'.mp (mt List.getLast?_eq_none_iff.mp nonempty)
  have inside : isWordEdge (behind before name back).before = true := by
    rw [behind, last]
    exact isWord c (List.mem_of_getLast? last)
  rw [edge, Bool.and_eq_true, atWordEdge, inside]
  have ended : IsWordBefore name back ↔ isWordEdge back.head? = false :=
    ⟨fun whole => isWordEdge_eq_false_iff.mpr whole.ended,
      fun outside => ⟨nonempty, isWord, isWordEdge_eq_false_iff.mp outside⟩⟩
  rw [ended]
  simp [behind]

/-- A whole word is read between its two edges. -/
theorem edge_literal_edge_iff (nonempty : name ≠ []) (isWord : ∀ c ∈ name, isWordChar c = true) :
    (edge <| literal name <| edge next) ⟨before, rest⟩ = true ↔
      (∀ c ∈ before, isWordChar c = false) ∧
      ∃ back, rest = name ++ back ∧ IsWordBefore name back ∧
        next (behind before name back) = true := by
  -- Both edges of the word are asked for.
  rw [edge, Bool.and_eq_true, literal_edge_iff nonempty isWord]
  refine and_congr_left fun held => ?_
  -- The first character of the name is on the right of the edge.
  obtain ⟨back, isRest, _⟩ := held
  obtain ⟨c, more, rfl⟩ := List.exists_cons_of_ne_nil nonempty
  have inside : isWordEdge rest.head? = true := by
    rw [isRest]
    exact isWord c (List.mem_cons_self ..)
  rw [atWordEdge, inside, ← isWordEdge_eq_false_iff]
  simp

/-- The declarators are the texts that the test for one reads. -/
theorem declarator_iff : declarator next ⟨before, rest⟩ = true ↔
    ∃ word more, rest = word ++ more ∧ IsDeclarator word ∧
      next (behind before word more) = true := by
  -- A keyword of the list, or the two of the marked function.
  rw [declarator, Bool.or_eq_true, List.any_eq_true, literal_iff]
  constructor
  · rintro (⟨word, known, held⟩ | ⟨more, rfl, held⟩)
    · obtain ⟨more, isRest, held⟩ := literal_iff.mp held
      exact ⟨word.toList, more, isRest, .keyword known, held⟩
    · -- The marked function has blanks between its two keywords.
      obtain ⟨gap, more, rfl, nonempty, blank, held⟩ := some_iff.mp held
      obtain ⟨more, rfl, held⟩ := literal_iff.mp held
      refine ⟨_, more, by simp, .asynchronous nonempty blank, ?_⟩
      rw [behind_append, behind_append]
      exact held
  · rintro ⟨word, more, rfl, declares, held⟩
    cases declares with
    | keyword known => exact .inl ⟨_, known, literal_iff.mpr ⟨more, rfl, held⟩⟩
    | @asynchronous gap nonempty blank =>
      refine .inr ⟨gap ++ ("function".toList ++ more), by simp, ?_⟩
      rw [behind_append, behind_append] at held
      exact some_iff.mpr ⟨gap, _, rfl, nonempty, blank, literal_iff.mpr ⟨more, rfl, held⟩⟩

/-- What an export of a declaration ends with: blanks and the name. -/
theorem spaced_name_iff (nonempty : name ≠ []) (isWord : ∀ c ∈ name, isWordChar c = true) :
    (some_ isBlank <| literal name <| edge done) ⟨before, rest⟩ = true ↔
      ∃ space back, rest = space ++ (name ++ back) ∧ space ≠ [] ∧ AllBlank space ∧
        IsWordBefore name back := by
  -- The blanks come first, and then the whole word.
  constructor
  · intro held
    obtain ⟨space, _, rfl, spaceNonempty, blank, held⟩ := some_iff.mp held
    obtain ⟨back, rfl, whole, _⟩ := (literal_edge_iff nonempty isWord).mp held
    exact ⟨space, back, rfl, spaceNonempty, blank, whole⟩
  · rintro ⟨space, back, rfl, spaceNonempty, blank, whole⟩
    refine some_iff.mpr ⟨space, _, rfl, spaceNonempty, blank, ?_⟩
    exact (literal_edge_iff nonempty isWord).mpr ⟨back, rfl, whole, rfl⟩

/-- What an export by assignment ends with: the equals sign. -/
theorem assigned_iff : (many isBlank <| literal ['='] done) ⟨before, rest⟩ = true ↔
    ∃ gap back, rest = gap ++ (['='] ++ back) ∧ AllBlank gap := by
  -- The blanks come first, and then the sign.
  constructor
  · intro held
    obtain ⟨gap, _, rfl, blank, held⟩ := many_iff.mp held
    obtain ⟨back, rfl, _⟩ := literal_iff.mp held
    exact ⟨gap, back, rfl, blank⟩
  · rintro ⟨gap, back, rfl, blank⟩
    exact many_iff.mpr ⟨gap, _, rfl, blank, literal_iff.mpr ⟨back, rfl, rfl⟩⟩

/-- The characters of a list are all but its closing brace. -/
theorem forall_isListChar_iff : (∀ c ∈ text, isListChar c = true) ↔ '\x7d' ∉ text := by
  -- Only the brace is none.
  simp only [isListChar, bne_iff_ne]
  exact ⟨fun unclosed inside => unclosed _ inside rfl,
    fun free c inside same => free (same ▸ inside)⟩

/-- Behind the start of a list, the test for a whole word goes over a part of the
list and reads the name. -/
theorem name_in_list_iff (nonempty : name ≠ []) (isWord : ∀ c ∈ name, isWordChar c = true) :
    (many isListChar <| edge <| literal name <| edge next) ⟨some '\x7b', rest⟩ = true ↔
      ∃ front back, rest = front ++ (name ++ back) ∧ '\x7d' ∉ front ∧
        (∀ c ∈ front.getLast?, isWordChar c = false) ∧
        IsWordBefore name back ∧ next (behind (some '\x7b') (front ++ name) back) = true := by
  -- The part in front of the name is anything that does not close the list.
  rw [many_iff]
  -- Where nothing stands in front of the name, the brace does, and it belongs to no word.
  have edges : ∀ front : List Char, (∀ c ∈ front.getLast?.or (some '\x7b'), isWordChar c = false) ↔
      ∀ c ∈ front.getLast?, isWordChar c = false := by
    intro front
    have brace : isWordChar '\x7b' = false := by decide
    cases front.getLast? <;> simp [brace]
  constructor
  · rintro ⟨front, _, rfl, unclosed, held⟩
    obtain ⟨apart, back, rfl, whole, held⟩ := (edge_literal_edge_iff nonempty isWord).mp held
    refine ⟨front, back, rfl, forall_isListChar_iff.mp unclosed, (edges front).mp apart, whole, ?_⟩
    rw [behind_append]
    exact held
  · rintro ⟨front, back, rfl, unclosed, apart, whole, held⟩
    refine ⟨front, name ++ back, rfl, forall_isListChar_iff.mpr unclosed, ?_⟩
    rw [behind_append] at held
    exact (edge_literal_edge_iff nonempty isWord).mpr
      ⟨(edges front).mpr apart, back, rfl, whole, held⟩

/-! ## What a text exports -/

/-- A test for an export finds a way to write one. -/
private theorem exists_writesExport (nonempty : name ≠ [])
    (isWord : ∀ c ∈ name, isWordChar c = true) {form : Test} (listed : form ∈ exportForms name)
    (held : form ⟨before, rest⟩ = true) :
    ∃ written back, rest = written ++ back ∧ WritesExport name written back := by
  -- Each test is taken apart from left to right, and what it reads is put together again.
  have unclosedName : '\x7d' ∉ name := fun inside => absurd (isWord _ inside) (by decide)
  simp only [exportForms, List.mem_cons, List.not_mem_nil, or_false] at listed
  rcases listed with rfl | rfl | rfl | rfl | rfl | rfl
  · obtain ⟨_, rfl, inner⟩ := literal_iff.mp held
    obtain ⟨gap, _, rfl, gapNonempty, blank, inner⟩ := some_iff.mp inner
    obtain ⟨word, _, rfl, declares, inner⟩ := declarator_iff.mp inner
    obtain ⟨space, back, rfl, spaceNonempty, spaceBlank, whole⟩ :=
      (spaced_name_iff nonempty isWord).mp inner
    exact ⟨_, back, by simp, .declared gapNonempty blank declares spaceNonempty spaceBlank whole⟩
  · obtain ⟨_, rfl, inner⟩ := literal_iff.mp held
    obtain ⟨gap, _, rfl, blank, inner⟩ := many_iff.mp inner
    obtain ⟨_, rfl, inner⟩ := literal_iff.mp inner
    obtain ⟨front, _, rfl, unclosed, apart, whole, inner⟩ :=
      (name_in_list_iff nonempty isWord).mp inner
    -- The list goes on behind the name, up to its end.
    obtain ⟨tail, _, rfl, tailUnclosed, inner⟩ := many_iff.mp inner
    obtain ⟨back, rfl, _⟩ := literal_iff.mp inner
    have free : '\x7d' ∉ front ++ (name ++ tail) := by
      simp [unclosed, unclosedName, forall_isListChar_iff.mp tailUnclosed]
    exact ⟨_, back, by simp, .listed blank free ⟨front, tail, rfl, apart, whole⟩⟩
  · obtain ⟨_, rfl, inner⟩ := literal_iff.mp held
    obtain ⟨gap, _, rfl, gapNonempty, blank, inner⟩ := some_iff.mp inner
    obtain ⟨_, rfl, inner⟩ := literal_iff.mp inner
    obtain ⟨space, back, rfl, spaceNonempty, spaceBlank, whole⟩ :=
      (spaced_name_iff nonempty isWord).mp inner
    exact ⟨_, back, by simp, .byDefault gapNonempty blank spaceNonempty spaceBlank whole⟩
  · obtain ⟨_, rfl, inner⟩ := literal_iff.mp held
    obtain ⟨gap, _, rfl, blank, inner⟩ := many_iff.mp inner
    obtain ⟨_, rfl, inner⟩ := literal_iff.mp inner
    obtain ⟨space, _, rfl, spaceBlank, inner⟩ := many_iff.mp inner
    obtain ⟨_, rfl, inner⟩ := literal_iff.mp inner
    obtain ⟨front, back, rfl, unclosed, apart, whole, _⟩ :=
      (name_in_list_iff nonempty isWord).mp inner
    have free : '\x7d' ∉ front ++ (name ++ []) := by simp [unclosed, unclosedName]
    exact ⟨_, back, by simp, .object blank spaceBlank free ⟨front, [], rfl, apart, whole⟩⟩
  · obtain ⟨_, rfl, inner⟩ := literal_iff.mp held
    obtain ⟨_, rfl, assigned⟩ := literal_iff.mp inner
    obtain ⟨gap, back, rfl, blank⟩ := assigned_iff.mp assigned
    exact ⟨_, back, by simp, .member blank⟩
  · obtain ⟨_, rfl, inner⟩ := literal_iff.mp held
    obtain ⟨_, rfl, assigned⟩ := literal_iff.mp inner
    obtain ⟨gap, back, rfl, blank⟩ := assigned_iff.mp assigned
    exact ⟨_, back, by simp, .short blank⟩

/-- Every way to write an export is found by one of the tests, whatever stands in front of it. -/
theorem WritesExport.exists_form (nonempty : name ≠ []) (isWord : ∀ c ∈ name, isWordChar c = true)
    (writes : WritesExport name written back) :
    ∃ form ∈ exportForms name, ∀ before, form ⟨before, written ++ back⟩ = true := by
  -- Each constructor is read by the test of its own name, from left to right.
  cases writes with
  | declared gapNonempty blank declares spaceNonempty spaceBlank whole =>
    refine ⟨exportsDeclared name, by simp [exportForms], fun before => ?_⟩
    simp only [List.append_assoc]
    refine literal_iff.mpr ⟨_, rfl, some_iff.mpr ⟨_, _, rfl, gapNonempty, blank, ?_⟩⟩
    refine declarator_iff.mpr ⟨_, _, rfl, declares, ?_⟩
    exact (spaced_name_iff nonempty isWord).mpr ⟨_, _, rfl, spaceNonempty, spaceBlank, whole⟩
  | listed blank unclosed named =>
    obtain ⟨front, tail, rfl, apart, whole⟩ := named
    obtain ⟨frontUnclosed, _, tailUnclosed⟩ : '\x7d' ∉ front ∧ '\x7d' ∉ name ∧ '\x7d' ∉ tail := by
      simpa using unclosed
    refine ⟨exportsListed name, by simp [exportForms], fun before => ?_⟩
    simp only [List.append_assoc]
    refine literal_iff.mpr ⟨_, rfl, many_iff.mpr ⟨_, _, rfl, blank, literal_iff.mpr ⟨_, rfl, ?_⟩⟩⟩
    refine (name_in_list_iff nonempty isWord).mpr ⟨front, _, rfl, frontUnclosed, apart, whole, ?_⟩
    exact many_iff.mpr ⟨tail, _, rfl, forall_isListChar_iff.mpr tailUnclosed,
      literal_iff.mpr ⟨back, rfl, rfl⟩⟩
  | byDefault gapNonempty blank spaceNonempty spaceBlank whole =>
    refine ⟨exportsDefault name, by simp [exportForms], fun before => ?_⟩
    simp only [List.append_assoc]
    refine literal_iff.mpr ⟨_, rfl, some_iff.mpr
      ⟨_, _, rfl, gapNonempty, blank, literal_iff.mpr ⟨_, rfl, ?_⟩⟩⟩
    exact (spaced_name_iff nonempty isWord).mpr ⟨_, _, rfl, spaceNonempty, spaceBlank, whole⟩
  | object blank spaceBlank unclosed named =>
    obtain ⟨front, tail, rfl, apart, whole⟩ := named
    have frontUnclosed : '\x7d' ∉ front := fun inside => unclosed (List.mem_append_left _ inside)
    refine ⟨exportsObject name, by simp [exportForms], fun before => ?_⟩
    simp only [List.append_assoc]
    refine literal_iff.mpr ⟨_, rfl, many_iff.mpr ⟨_, _, rfl, blank, literal_iff.mpr ⟨_, rfl, ?_⟩⟩⟩
    refine many_iff.mpr ⟨_, _, rfl, spaceBlank, literal_iff.mpr ⟨_, rfl, ?_⟩⟩
    exact (name_in_list_iff nonempty isWord).mpr ⟨front, _, rfl, frontUnclosed, apart, whole, rfl⟩
  | member blank =>
    refine ⟨exportsMember name, by simp [exportForms], fun before => ?_⟩
    simp only [List.append_assoc]
    refine literal_iff.mpr ⟨_, rfl, literal_iff.mpr ⟨_, rfl, ?_⟩⟩
    exact assigned_iff.mpr ⟨_, _, rfl, blank⟩
  | short blank =>
    refine ⟨exportsShort name, by simp [exportForms], fun before => ?_⟩
    simp only [List.append_assoc]
    refine literal_iff.mpr ⟨_, rfl, literal_iff.mpr ⟨_, rfl, ?_⟩⟩
    exact assigned_iff.mpr ⟨_, _, rfl, blank⟩

/-- A text exports a name iff a way to write that stands somewhere in it. -/
theorem isExported_iff {name content : String} (nonempty : name.toList ≠ [])
    (isWord : ∀ c ∈ name.toList, isWordChar c = true) :
    isExported name content = true ↔
      ∃ front written back, content.toList = front ++ (written ++ back) ∧
        WritesExport name.toList written back := by
  -- The tests look for the same forms at every place.
  rw [isExported, List.any_eq_true]
  constructor
  · rintro ⟨form, listed, held⟩
    obtain ⟨front, _, isContent, held⟩ := holdsIn_iff.mp held
    obtain ⟨written, back, rfl, writes⟩ := exists_writesExport nonempty isWord listed held
    exact ⟨front, written, back, isContent, writes⟩
  · rintro ⟨front, written, back, isContent, writes⟩
    obtain ⟨form, listed, held⟩ := writes.exists_form nonempty isWord
    exact ⟨form, listed, holdsIn_iff.mpr ⟨front, written ++ back, isContent, held _⟩⟩

/-! ## Lines around a text -/

/-- Where one text follows another, a line ends or nothing is added. -/
def MeetsAtLineEnd (text after : List Char) : Prop :=
  (∀ c ∈ text.getLast?, c = '\n') ∨ ∀ c ∈ after.head?, c = '\n'

/-- A word that is whole in a text stays so in front of further lines. -/
theorem IsWordBefore.append_lines (whole : IsWordBefore name back)
    (meets : MeetsAtLineEnd (front ++ (name ++ back)) after) :
    IsWordBefore name (back ++ after) := by
  -- Either the text ends a line or what follows starts one.
  rcases meets with closed | opened
  · -- The text ends with its last line, so it does not end with the word.
    cases back with
    | nil =>
      obtain ⟨c, last⟩ :=
        Option.ne_none_iff_exists'.mp (mt List.getLast?_eq_none_iff.mp whole.nonempty)
      have isEnd : c = '\n' := closed c (by simp [List.getLast?_append, last])
      have inside := whole.isWord c (List.mem_of_getLast? last)
      rw [isEnd] at inside
      exact absurd inside (by decide)
    | cons c back => exact ⟨whole.nonempty, whole.isWord, whole.ended⟩
  · exact whole.append opened

/-- Further lines leave a written export as it is. -/
theorem WritesExport.append_lines (writes : WritesExport name written back)
    (meets : MeetsAtLineEnd (front ++ (written ++ back)) after) :
    WritesExport name written (back ++ after) := by
  -- A form that ends with the name looks at what follows, and the others do not.
  cases writes with
  | @declared gap space word _ gapNonempty blank declares spaceNonempty spaceBlank whole =>
    refine .declared gapNonempty blank declares spaceNonempty spaceBlank ?_
    exact @IsWordBefore.append_lines _ (front ++ ("export".toList ++ (gap ++ (word ++ space)))) _ _
      whole (by simpa using meets)
  | @listed gap _ _ blank unclosed named =>
    obtain ⟨start, tail, rfl, apart, whole⟩ := named
    refine .listed blank unclosed ⟨start, tail, rfl, apart, ?_⟩
    have more :=
      @IsWordBefore.append_lines _ (front ++ ("export".toList ++ (gap ++ (['\x7b'] ++ start)))) _ _
        whole (by simpa using meets)
    simpa using more
  | @byDefault gap space _ gapNonempty blank spaceNonempty spaceBlank whole =>
    refine .byDefault gapNonempty blank spaceNonempty spaceBlank ?_
    exact @IsWordBefore.append_lines _
      (front ++ ("export".toList ++ (gap ++ ("default".toList ++ space)))) _ _ whole
      (by simpa using meets)
  | @object gap space _ _ blank spaceBlank unclosed named =>
    obtain ⟨start, tail, rfl, apart, whole⟩ := named
    refine .object blank spaceBlank unclosed ⟨start, tail, rfl, apart, ?_⟩
    have more := @IsWordBefore.append_lines _
      (front ++ ("module.exports".toList ++ (gap ++ (['='] ++ (space ++ (['\x7b'] ++ start))))))
      _ _ whole (by simpa using meets)
    simpa using more
  | member blank => exact .member blank
  | short blank => exact .short blank

/-- A text exports a name iff one of the forms is written in it, wherever that is and whatever
stands in front of it and behind it; and it goes on to do so with any text in front of it and with
further lines behind it. -/
theorem isExported_iff_written {name content : String} (nonempty : name ≠ "")
    (isWord : ∀ c ∈ name.toList, isWordChar c = true) :
    (isExported name content = true ↔
      ∃ front written back, content.toList = front ++ (written ++ back) ∧
        WritesExport name.toList written back) ∧
    ∀ before after : String, MeetsAtLineEnd content.toList after.toList →
      isExported name content = true → isExported name (before ++ content ++ after) = true := by
  -- The form is still there, with more in front of it and lines behind it.
  have someName : name.toList ≠ [] := by simpa using nonempty
  refine ⟨isExported_iff someName isWord, fun before after meets exported => ?_⟩
  obtain ⟨front, written, back, isContent, writes⟩ := (isExported_iff someName isWord).mp exported
  rw [isContent] at meets
  refine (isExported_iff someName isWord).mpr
    ⟨before.toList ++ front, written, back ++ after.toList, ?_, ?_⟩
  · simp [isContent]
  · exact writes.append_lines meets

/-- The name stands in a list behind a longer word that starts with it, and a list that is not
closed is put in front. -/
theorem isExported_iff_written_in_list :
    let content := "export \x7b abc,\n ab as d \x7d"
    isExported "ab" content = true ∧
      isExported "ab" ("export \x7b ab;\n" ++ content ++ "\nab()") = true := by
  -- The name is the second one in the list of the text.
  intro content
  obtain ⟨written, kept⟩ :=
    @isExported_iff_written "ab" content (by decide) (List.all_eq_true.mp rfl)
  have whole : IsWordBefore "ab".toList (" as d ".toList ++ ['\x7d']) :=
    ⟨by decide, List.all_eq_true.mp rfl, fun c first => by
      rw [← Option.some.inj first]
      decide⟩
  have named : NamesWhole "ab".toList " abc,\n ab as d ".toList ['\x7d'] :=
    ⟨" abc,\n ".toList, " as d ".toList, rfl, fun c last => by
      rw [← Option.some.inj last]
      decide, whole⟩
  have listed :=
    @WritesExport.listed _ [' '] " abc,\n ab as d ".toList [] (List.all_eq_true.mp rfl)
      (by decide) named
  have exported : isExported "ab" content = true := written.mpr ⟨[], _, [], by decide, listed⟩
  refine ⟨exported, kept _ _ (.inr fun c first => ?_) exported⟩
  exact (Option.some.inj first).symm

end SourceAtlas
