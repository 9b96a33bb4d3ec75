import SourceAtlas.Language.Python
import SourceAtlas.Proofs.Language.Splitting

/-! The names of Python parameters are recovered from the list that declares them, whatever their
annotations and default values hold. -/

namespace SourceAtlas.Language.Python

/-! ## Declarations of parameters -/

/-- A name of word characters. -/
structure Identifier where
  text : List Char
  nonempty : text ≠ []
  isWord : ∀ c ∈ text, isWordChar c = true

/-- A default value, behind an equals sign with or without blanks around it. -/
structure Default where
  spaced : Bool
  value : Fragment .mixed

/-- A parameter as it is declared. -/
inductive Parameter where
  /-- The marker behind which parameters are passed by name. -/
  | star
  /-- The marker before which parameters are passed by position. -/
  | slash
  /-- A name behind up to two stars, with an annotation and a default value where it has them. -/
  | named (stars : Fin 3) (name : Identifier) (hint : Option (Fragment .mixed))
      (default_ : Option Default)

/-- An annotation as it is written behind a name. -/
def annotationText : Option (Fragment .mixed) → List Char
  | none => []
  | some hint => ':' :: ' ' :: hint.text

/-- A default value as it is written behind a name or an annotation. -/
def defaultText : Option Default → List Char
  | none => []
  | some ⟨true, value⟩ => ' ' :: '=' :: ' ' :: value.text
  | some ⟨false, value⟩ => '=' :: value.text

namespace Parameter

/-- A parameter as it is written. -/
def written : Parameter → List Char
  | star => ['*']
  | slash => ['/']
  | named stars name hint default_ =>
    List.replicate stars '*' ++ name.text ++ annotationText hint ++ defaultText default_

/-- The name of a parameter; markers have none. -/
def name? : Parameter → Option (List Char)
  | named _ name _ _ => some name.text
  | _ => none

end Parameter

/-- Whether a name is that of the object or the class that a method is called on. -/
def isReceiver (name : List Char) : Bool :=
  name == "self".toList || name == "cls".toList

/-- A list of parameters as it is declared: in parentheses, with a comma and a
blank between each two. -/
def declared (parameters : List Parameter) : List Char :=
  '(' :: List.intercalate [',', ' '] (parameters.map Parameter.written) ++ [')']

/-! ## Parameters are fragments -/

/-- A word character is no comma, mark or bracket. -/
private theorem isPlain_of_isWordChar {c : Char} (word : isWordChar c = true) :
    Brackets.mixed.isPlain c = true :=
  Nesting.isPlain_of_lacks word (by decide)

variable {stars : Nat} {name : Identifier} {front : List Char}

/-- No character of a name, or of the stars before it, is blank or sets off an
annotation or a default value. -/
theorem solid_of_mem {c : Char} (member : c ∈ List.replicate stars '*' ++ name.text) :
    Brackets.mixed.isPlain c = true ∧ isBlank c = false ∧ c ≠ '=' ∧ c ≠ ':' := by
  -- A star is solid, and so is each word character.
  rcases List.mem_append.mp member with isStar | inName
  · rw [(List.mem_replicate.mp isStar).2]
    decide
  · have word := name.isWord c inName
    refine ⟨isPlain_of_isWordChar word, isBlank_of_isWordChar word, ?_, ?_⟩
    · rintro rfl
      cases word
    · rintro rfl
      cases word

/-- An annotation is closed. -/
private theorem closed_annotationText (hint : Option (Fragment .mixed)) :
    IsClosed .mixed false (annotationText hint) := by
  -- A colon and a blank are plain.
  cases hint with
  | none => exact .nil
  | some hint => exact .plain (by decide) (.plain (by decide) hint.closed)

/-- A default value is closed. -/
private theorem closed_defaultText (default_ : Option Default) :
    IsClosed .mixed false (defaultText default_) := by
  -- An equals sign and the blanks around it are plain.
  match default_ with
  | none => exact .nil
  | some ⟨true, value⟩ => exact .plains [' ', '=', ' '] (by decide) value.closed
  | some ⟨false, value⟩ => exact .plain (by decide) value.closed

/-- An annotation at the end leaves a text trimmed. -/
private theorem isTrimmed_append_annotationText (starts : isTrimmed front = true)
    (hint : Option (Fragment .mixed)) : isTrimmed (front ++ annotationText hint) = true := by
  -- It ends with its own fragment, which is trimmed.
  cases hint with
  | none => simpa [annotationText] using starts
  | some hint => simpa [annotationText] using isTrimmed_append starts hint.trimmed [':', ' ']

/-- A default value at the end leaves a text trimmed. -/
private theorem isTrimmed_append_defaultText (starts : isTrimmed front = true)
    (default_ : Option Default) : isTrimmed (front ++ defaultText default_) = true := by
  -- It ends with its own fragment, which is trimmed.
  match default_ with
  | none => simpa [defaultText] using starts
  | some ⟨true, value⟩ =>
    simpa [defaultText] using isTrimmed_append starts value.trimmed [' ', '=', ' ']
  | some ⟨false, value⟩ => simpa [defaultText] using isTrimmed_append starts value.trimmed ['=']

/-- Stars and a name are trimmed. -/
theorem isTrimmed_head (stars : Nat) (name : Identifier) :
    isTrimmed (List.replicate stars '*' ++ name.text) = true := by
  -- Neither the stars nor the characters of the name are blank.
  apply isTrimmed_of_forall
  · simp [name.nonempty]
  · exact fun c member => (solid_of_mem member).2.1

namespace Parameter

/-- A parameter is closed as it is written. -/
private theorem closed_written (parameter : Parameter) :
    IsClosed .mixed false parameter.written := by
  -- The name is plain, and what follows it is closed.
  cases parameter with
  | star => exact .plain (by decide) .nil
  | slash => exact .plain (by decide) .nil
  | named stars name hint default_ =>
    have tail := (closed_annotationText hint).append (closed_defaultText default_)
    rw [written, List.append_assoc]
    exact .plains _ (List.all_eq_true.mpr fun c member => (solid_of_mem member).1) tail

/-- A parameter is trimmed as it is written. -/
private theorem trimmed_written (parameter : Parameter) : isTrimmed parameter.written = true := by
  cases parameter with
  | star => decide
  | slash => decide
  | named stars name hint default_ =>
    -- What may follow the name ends with a fragment, so it is trimmed at its end.
    apply isTrimmed_append_defaultText
    apply isTrimmed_append_annotationText
    exact isTrimmed_head stars name

/-- A parameter as a fragment. -/
def fragment (parameter : Parameter) : Fragment .mixed :=
  ⟨parameter.written, parameter.closed_written, parameter.trimmed_written⟩

/-- A parameter behind some blanks. -/
def spaced (blanks : Nat) (parameter : Parameter) : SpacedFragment .mixed where
  toFragment := parameter.fragment
  before := List.replicate blanks ' '
  after := []
  blankBefore := by simp +contextual [isBlank]
  blankAfter := by simp

/-- A parameter behind some blanks is written behind them. -/
private theorem written_spaced (blanks : Nat) (parameter : Parameter) :
    (parameter.spaced blanks).written = List.replicate blanks ' ' ++ parameter.written := by
  -- Nothing stands behind it.
  simp [spaced, fragment, SpacedFragment.written]

end Parameter

/-- A blank behind each comma is a blank before each text but the first. -/
private theorem intercalate_blank (first : List Char) (others : List (List Char)) :
    List.intercalate [',', ' '] (first :: others)
      = List.intercalate [','] (first :: others.map (' ' :: ·)) := by
  -- Each further text takes the blank from the comma before it.
  induction others generalizing first with
  | nil => simp
  | cons next others ih =>
    have blank : List.intercalate [','] ((' ' :: next) :: others.map (' ' :: ·))
        = ' ' :: List.intercalate [','] (next :: others.map (' ' :: ·)) := by
      cases others <;> simp [List.intercalate_cons_cons]
    rw [List.intercalate_cons_cons, ih next, List.map_cons, List.intercalate_cons_cons, blank]
    simp

/-- A declared list is split into its parameters. -/
private theorem splitParameters_declared (parameters : List Parameter) :
    splitParameters (declared parameters) = parameters.map Parameter.written := by
  -- Each parameter but the first has a blank before it.
  obtain ⟨list, joined, texts⟩ : ∃ list : List (SpacedFragment .mixed),
      declared parameters = parenthesized (list.map (·.written)) ∧
        list.map (·.text) = parameters.map Parameter.written := by
    cases parameters with
    | nil => exact ⟨[], rfl, rfl⟩
    | cons first others =>
      refine ⟨first.spaced 0 :: others.map (Parameter.spaced 1), ?_, ?_⟩
      · have rest : (others.map (Parameter.spaced 1)).map (·.written)
            = (others.map Parameter.written).map (' ' :: ·) := by
          simp [Parameter.written_spaced]
        rw [declared, parenthesized, List.map_cons, List.map_cons, rest, intercalate_blank,
          Parameter.written_spaced]
        rfl
      · simp [Parameter.spaced, Parameter.fragment, Function.comp_def]
  rw [joined, ← texts, splitParameters_eq_iff_keeps (by decide)]
  exact ⟨fun fragment _ => fragment.keeps_top.1, fun fragment _ => fragment.keeps_top.2⟩

/-! ## Names before annotations and default values -/

/-- What stands before a mark is kept, and so is what follows up to the mark. -/
theorem cutBefore_append {mark : Char} (nonempty : front ≠ []) (free : ∀ c ∈ front, c ≠ mark)
    (rest : List Char) :
    cutBefore mark (front ++ rest) = front ++ beforeFirst mark rest := by
  -- No character of the front is the mark.
  have before : beforeFirst mark (front ++ rest) = front ++ beforeFirst mark rest :=
    List.takeWhile_append_of_pos fun c member => by simpa using free c member
  simp [cutBefore, before, nonempty]

/-- The name of a parameter is what is left of it before an equals sign and a colon. -/
theorem parameterName_append (nonempty : front ≠ []) (free : ∀ c ∈ front, c ≠ '=' ∧ c ≠ ':')
    (rest : List Char) :
    parameterName (front ++ rest)
      = trimBlanks (front ++ beforeFirst ':' (beforeFirst '=' rest)) := by
  -- The default value is cut off first, and then the annotation.
  rw [parameterName, cutBefore_append nonempty fun c member => (free c member).1,
    cutBefore_append nonempty fun c member => (free c member).2]

/-- Of an annotation and a default value only blanks are left once they are cut off. -/
private theorem blank_of_mem_cut (hint : Option (Fragment .mixed)) (default_ : Option Default) :
    ∀ c ∈ beforeFirst ':' (beforeFirst '=' (annotationText hint ++ defaultText default_)),
      isBlank c = true := by
  -- An equals sign in the annotation is met behind its colon, so the colon is there to be cut at.
  cases hint with
  | some hint => simp [annotationText, beforeFirst]
  | none =>
    match default_ with
    | none => simp [annotationText, defaultText, beforeFirst]
    | some ⟨true, value⟩ => simp [annotationText, defaultText, beforeFirst]; decide
    | some ⟨false, value⟩ => simp [annotationText, defaultText, beforeFirst]

/-- The rule for a single parameter finds its name, unless it is that of a receiver. -/
private theorem parameter_written (declaration : Parameter) :
    parameter declaration.written
      = declaration.name?.filter fun name => !isReceiver name := by
  -- Markers have no name, and a name is left when its annotation and default value are cut off.
  cases declaration with
  | star => decide
  | slash => decide
  | named stars name hint default_ =>
    have named : parameterName (Parameter.named stars name hint default_).written
        = List.replicate stars '*' ++ name.text := by
      have cut :=
        @parameterName_append (List.replicate stars '*' ++ name.text) (by simp [name.nonempty])
          (fun c member => (solid_of_mem member).2.2) (annotationText hint ++ defaultText default_)
      rw [Parameter.written, List.append_assoc, cut]
      exact trimBlanks_append (isTrimmed_head stars name) (blank_of_mem_cut hint default_)
    -- The stars go, and the name starts with none.
    have unstarred : trimStartBy (· == '*') (List.replicate stars '*' ++ name.text)
        = name.text := by
      obtain ⟨c, rest, starts⟩ := List.exists_cons_of_ne_nil name.nonempty
      have noStar : (c == '*') = false := by
        rw [beq_eq_false_iff_ne]
        rintro rfl
        cases name.isWord '*' (by simp [starts])
      rw [trimStartBy_append (by simp), starts]
      exact @trimStartBy_cons (· == '*') c noStar rest
    have trimmed : trimBlanks name.text = name.text :=
      trimBlanks_of_isTrimmed (by simpa using isTrimmed_head 0 name)
    have noSlash : name.text ≠ ['/'] := by
      intro isSlash
      cases name.isWord '/' (by simp [isSlash])
    have decided : parameter (Parameter.named stars name hint default_).written
        = if isReceiver name.text then none else some name.text := by
      simp [parameter, named, unstarred, trimmed, name.nonempty, noSlash, isReceiver]
    rw [decided, Parameter.name?, Option.filter_some]
    cases isReceiver name.text <;> rfl

/-- The names of parameters are recovered from the list that declares them, in order, without those
of receivers and without the markers. -/
theorem parameterNames_declared (parameters : List Parameter) :
    python.parameterNames (String.ofList (declared parameters))
      = ((parameters.filterMap Parameter.name?).filter fun name => !isReceiver name).map
        String.ofList := by
  -- The rule for one parameter is applied to each.
  have each : parameter ∘ Parameter.written
      = fun declaration => declaration.name?.filter fun name => !isReceiver name := by
    funext declaration
    rw [Function.comp_apply, parameter_written]
  simp only [python, names, namesBy, String.toList_ofList, splitParameters_declared,
    List.filterMap_map, List.filter_filterMap, each]

/-- The annotation has an equals sign, and the default values have a colon, commas and brackets. -/
theorem parameterNames_declared_annotated :
    python.parameterNames "(cls, key: Literal['a=b'] = \x7b'x': (1, 2)\x7d, /, *, **rest=',')"
      = ["key", "rest"] := by
  -- Both default values and the annotation are closed, whatever they hold.
  have literal : IsClosed .mixed false "Literal['a=b']".toList :=
    .plains "Literal".toList (by decide) <|
      .group '[' ']' (by decide) (.quoted '\'' "a=b".toList (by decide) (by decide) .nil) .nil
  have mapping : IsClosed .mixed false "\x7b'x': (1, 2)\x7d".toList :=
    .group '\x7b' '\x7d' (by decide)
      (.quoted '\'' ['x'] (by decide) (by decide) <| .plains ": ".toList (by decide) <|
        .group '(' ')' (by decide) (.plain (by decide) <| .comma <|
          .plains " 2".toList (by decide) .nil) .nil)
      .nil
  have comma : IsClosed .mixed false "','".toList := .quoted '\'' [','] (by decide) (by decide) .nil
  exact parameterNames_declared
    [.named 0 ⟨"cls".toList, by decide, List.all_eq_true.mp rfl⟩ none none,
      .named 0 ⟨"key".toList, by decide, List.all_eq_true.mp rfl⟩ (some ⟨_, literal, by decide⟩)
        (some ⟨true, _, mapping, by decide⟩),
      .slash, .star, .named 2 ⟨"rest".toList, by decide, List.all_eq_true.mp rfl⟩
        none (some ⟨false, _, comma, by decide⟩)]

end SourceAtlas.Language.Python
