import SourceAtlas.Index.Scan
import SourceAtlas.Proofs.Schema.Checked
import SourceAtlas.Proofs.Snapshot.RoundTrip

/-! What reading one file can add to a draft. -/

namespace SourceAtlas

/-- Two drafts, the second of which continues the first with symbols and references of a sort. -/
structure Draft.Grows (isSymbol : Symbol → Prop) (isReference : Reference → Prop)
    (draft after : Draft) : Prop where
  symbols : ∃ added, after.symbols = draft.symbols ++ added ∧ ∀ symbol ∈ added, isSymbol symbol
  references : ∃ added, after.references = draft.references ++ added ∧
    ∀ reference ∈ added, isReference reference
  fileHashes : after.fileHashes = draft.fileHashes
  distinct : (draft.symbols.map Symbol.id).Nodup → (after.symbols.map Symbol.id).Nodup

namespace Draft

variable {isSymbol : Symbol → Prop} {isReference : Reference → Prop}

/-- A draft continues itself with nothing. -/
theorem Grows.refl (draft : Draft) : Grows isSymbol isReference draft draft :=
  ⟨⟨[], by simp⟩, ⟨[], by simp⟩, rfl, id⟩

/-- A draft may grow in two goes. -/
theorem Grows.trans {draft middle after : Draft} (first : Grows isSymbol isReference draft middle)
    (second : Grows isSymbol isReference middle after) :
    Grows isSymbol isReference draft after := by
  -- What is added first stands before what is added later.
  obtain ⟨early, isMiddle, earlyOk⟩ := first.symbols
  obtain ⟨late, isAfter, lateOk⟩ := second.symbols
  obtain ⟨earlyRefs, isMiddleRefs, earlyRefsOk⟩ := first.references
  obtain ⟨lateRefs, isAfterRefs, lateRefsOk⟩ := second.references
  refine ⟨⟨early ++ late, by simp [isAfter, isMiddle], ?_⟩,
    ⟨earlyRefs ++ lateRefs, by simp [isAfterRefs, isMiddleRefs], ?_⟩,
    second.fileHashes.trans first.fileHashes, second.distinct ∘ first.distinct⟩
  · exact List.forall_mem_append.mpr ⟨earlyOk, lateOk⟩
  · exact List.forall_mem_append.mpr ⟨earlyRefsOk, lateRefsOk⟩

/-- An identifier is taken iff a symbol has it. -/
theorem has_iff {draft : Draft} {id : String} :
    draft.has id = true ↔ id ∈ draft.symbols.map Symbol.id := by
  simp [has]

/-- A symbol is added once. -/
theorem grows_addSymbol (draft : Draft) {symbol : Symbol} (ok : isSymbol symbol) :
    Grows isSymbol isReference draft (draft.addSymbol symbol) := by
  -- A symbol whose identifier is taken is left out.
  unfold addSymbol
  split
  · exact Grows.refl draft
  · -- The identifier is new, so it keeps the others distinct.
    rename_i fresh
    refine ⟨⟨[symbol], rfl, by simpa using ok⟩, ⟨[], by simp⟩, rfl, fun distinct => ?_⟩
    rw [has_iff] at fresh
    simp only [List.map_append, List.map_cons, List.map_nil]
    refine List.nodup_append.mpr ⟨distinct, by simp, ?_⟩
    rintro id member other isLast rfl
    simp only [List.mem_singleton] at isLast
    exact fresh (isLast ▸ member)

/-- References are added as they are. -/
theorem grows_addReferences (draft : Draft) {references : List Reference}
    (ok : ∀ reference ∈ references, isReference reference) :
    Grows isSymbol isReference draft (draft.addReferences references) :=
  ⟨⟨[], by simp [addReferences]⟩, ⟨references, rfl, ok⟩, rfl, id⟩

/-- A run of steps each of which grows a draft grows it. -/
theorem grows_foldl {α : Type} {step : Draft → α → Draft} {items : List α}
    (one : ∀ item ∈ items, ∀ draft, Grows isSymbol isReference draft (step draft item))
    (draft : Draft) :
    Grows isSymbol isReference draft (items.foldl step draft) := by
  -- The induction is on the items, over a draft that grows.
  induction items generalizing draft with
  | nil => exact Grows.refl draft
  | cons item items ih =>
    simp only [List.forall_mem_cons] at one
    exact (one.1 draft).trans (ih one.2 _)

/-- Matches each of which grows a draft grow it, also when one of them ends the pattern. -/
private theorem grows_takeMatches {add? : Draft → StructuralMatch → Option Draft}
    {found : List StructuralMatch}
    (one : ∀ item ∈ found, ∀ draft next, add? draft item = some next →
      Grows isSymbol isReference draft next) (draft : Draft) :
    Grows isSymbol isReference draft (takeMatches add? draft found) := by
  -- The first match that ends the pattern leaves the draft as it is.
  induction found generalizing draft with
  | nil => exact Grows.refl draft
  | cons item found ih =>
    simp only [List.forall_mem_cons] at one
    unfold takeMatches
    split
    · rename_i next added
      exact (one.1 draft next added).trans (ih one.2 next)
    · exact Grows.refl draft

end Draft

/-- A declaration line has a name without colons, and its number counts from one. -/
theorem declarationsIn_shape {content : String} {found : DeclarationLine}
    (listed : found ∈ declarationsIn content) :
    (found.name ≠ "" ∧ ':' ∉ found.name.toList) ∧ 1 ≤ found.line := by
  -- The line matches a form, and the number is its place.
  simp only [declarationsIn, List.mem_flatMap, declarationsInLine, List.mem_filterMap] at listed
  obtain ⟨⟨line, number⟩, numbered, form, _, declared⟩ := listed
  obtain ⟨name, isName, rfl⟩ := Option.map_eq_some_iff.mp declared
  have positive := (List.mem_zipIdx numbered).1
  refine ⟨?_, positive⟩
  -- A name is a run of word characters that is not empty.
  simp only [DeclarationForm.name?, Option.bind_eq_some_iff, Option.ite_none_left_eq_some,
    Option.some.injEq, Bool.or_eq_true, not_or] at isName
  obtain ⟨rest, _, ⟨nonempty, _⟩, rfl⟩ := isName
  refine ⟨?_, ?_⟩
  · intro isEmpty
    have := congrArg String.toList isEmpty
    simp_all
  · rw [String.toList_ofList]
    intro member
    have isWord := List.all_eq_true.mp (List.all_takeWhile (p := isWordChar) (l := rest)) _ member
    revert isWord
    decide

/-- No symbol of a match has another field in the name of a common one. -/
theorem SymbolPattern.isTidy_symbolOf (pattern : SymbolPattern) (language : Language)
    (file content : String) (found : StructuralMatch) (name : String) (fields : Assoc Json) :
    (pattern.symbolOf language file content found name fields).IsTidy := by
  -- Other fields are those left over once the common ones are taken out.
  intro key inside
  simp only [SymbolPattern.symbolOf, Assoc.keys, List.mem_map, List.mem_filter] at inside
  obtain ⟨entry, ⟨_, free⟩, rfl⟩ := inside
  simp only [coreSymbolFields, Bool.and_eq_true, bne_iff_ne, Bool.not_eq_true',
    List.contains_eq_mem, decide_eq_false_iff_not, List.mem_cons, not_or] at free
  simp only [Symbol.reservedFields, List.mem_cons, not_or]
  grind

namespace Indexer

/-- The structural parser gives a file of some content a tree. -/
structure Parses (indexer : Indexer) (file content : String) (language : Language)
    (tree : SyntaxTree) : Prop where
  ofFile : indexer.registry.ofPath? file = some language
  parsed : ∃ parser grammar, indexer.parser = some parser ∧
    language.grammarFor file = some grammar ∧ parser.parse grammar content = .ok (some tree)

/-- The symbols that a file of some content can give rise to: those of its lines
and those of its tree. -/
inductive Candidate (indexer : Indexer) (file content : String) : Symbol → Prop where
  | declared (language : Language) {found : DeclarationLine}
      (listed : found ∈ declarationsIn content) :
      Candidate indexer file content (found.toSymbol file (some language))
  | matched {language : Language} {tree : SyntaxTree}
      (parses : indexer.Parses file content language tree) {pattern : SymbolPattern}
      (known : pattern ∈ language.symbolPatterns) {found : StructuralMatch}
      (listed : found ∈ tree.spanned pattern.query "def") (applies : pattern.applies found = true)
      {name : String} (named : pattern.nameOf (pattern.fieldsOf found) = .str name)
      (nonempty : name ≠ "") :
      Candidate indexer file content
        (pattern.symbolOf language file content found name (pattern.fieldsOf found))

/-- A reference in a file, none of whose other fields takes the name of a common one. -/
def IsReferenceOf (file : String) (reference : Reference) : Prop :=
  reference.file = file ∧ reference.IsTidy

variable {indexer : Indexer} {file content : String}

/-- The lines of a file add their declarations and imports. -/
theorem grows_addLines (draft : Draft) (language : Language) :
    draft.Grows (indexer.Candidate file content) (IsReferenceOf file)
      (draft.addLines file content (some language)) := by
  -- First the declarations one by one, then the imports at once.
  refine (Draft.grows_foldl (fun found listed draft => ?_) draft).trans
    (Draft.grows_addReferences _ ?_)
  · exact draft.grows_addSymbol (.declared language listed)
  · intro reference member
    obtain ⟨found, _, rfl⟩ := List.mem_map.mp member
    exact ⟨rfl, fun key inside => by simp [ImportLine.toReference] at inside⟩

/-- A match of a symbol pattern adds its symbol or nothing. -/
private theorem grows_symbolPattern {language : Language} {tree : SyntaxTree}
    (parses : indexer.Parses file content language tree) {pattern : SymbolPattern}
    (known : pattern ∈ language.symbolPatterns) {found : StructuralMatch}
    (listed : found ∈ tree.spanned pattern.query "def") {draft next : Draft}
    (added : pattern.add? language file content draft found = some next) :
    draft.Grows (indexer.Candidate file content) (IsReferenceOf file) next := by
  -- A match out of context, without a name or under a known identifier adds nothing, and one whose
  -- name is no text ends the pattern.
  simp only [SymbolPattern.add?] at added
  split at added
  · cases added
    exact Draft.Grows.refl draft
  · rename_i inContext
    split at added
    · cases added
      exact Draft.Grows.refl draft
    · rename_i isNew
      split at added
      · rename_i name named
        cases added
        have nonempty : name ≠ "" := by
          rintro rfl
          simp [named, Json.truthy] at isNew
        exact draft.grows_addSymbol (.matched parses known listed (by simpa using inContext)
          named nonempty)
      · simp at added

/-- A match of a reference pattern adds one reference or nothing. -/
private theorem grows_referencePattern {pattern : ReferencePattern} {found : StructuralMatch}
    {draft next : Draft} (added : pattern.add? file draft found = some next) :
    draft.Grows (indexer.Candidate file content) (IsReferenceOf file) next := by
  -- A match whose extractor gives nothing adds nothing.
  simp only [ReferencePattern.add?] at added
  split at added
  · cases added
    exact Draft.Grows.refl draft
  · -- The fields that are left over once the reference is read have names of their own.
    rename_i fields _
    obtain ⟨reference, read, rfl⟩ := Option.map_eq_some_iff.mp added
    refine draft.grows_addReferences ?_
    simp only [List.mem_singleton, forall_eq]
    rw [Checked.value?_eq_some_iff, Reference.readDetails, Checked.seq_eq_good_iff] at read
    simp only [Checked.map_eq_good_iff] at read
    obtain ⟨_, _, ⟨_, _, rfl⟩, _, rfl⟩ := read
    refine ⟨rfl, fun key inside => ?_⟩
    simp only [Assoc.keys, List.mem_map, List.mem_filter] at inside
    obtain ⟨entry, ⟨_, free⟩, rfl⟩ := inside
    simpa using free

/-- A tree adds what its patterns find. -/
private theorem grows_addTree (draft : Draft) {language : Language} {tree : SyntaxTree}
    (parses : indexer.Parses file content language tree) :
    draft.Grows (indexer.Candidate file content) (IsReferenceOf file)
      (draft.addTree tree language file content) := by
  -- Symbols come first, pattern by pattern.
  have symbols : draft.Grows (indexer.Candidate file content) (IsReferenceOf file)
      (draft.addTreeSymbols tree language file content) :=
    Draft.grows_foldl (fun pattern known draft => Draft.grows_takeMatches
      (fun found listed _ _ added => grows_symbolPattern parses known listed added) draft) draft
  unfold Draft.addTree
  -- References come from patterns where there are some, and else from the lines.
  split
  · refine symbols.trans (Draft.grows_foldl (fun pattern _ draft => ?_) _)
    exact Draft.grows_takeMatches (fun found _ _ _ added => grows_referencePattern added) draft
  · exact symbols.trans (grows_addLines _ language)

/-- A text adds candidates of its file to what holds its fingerprint. -/
theorem grows_addText (indexer : Indexer) (draft : Draft) (file content : String) :
    (draft.addHash file (fingerprint content)).Grows (indexer.Candidate file content)
      (IsReferenceOf file) (indexer.addText draft file content).1 := by
  -- A file without a language has its fingerprint only.
  unfold addText
  split
  · exact Draft.Grows.refl _
  · rename_i language ofFile
    split
    · -- A parser that fails adds nothing, and one without an answer leaves the lines.
      rename_i parser grammar hasParser hasGrammar
      split
      · exact Draft.Grows.refl _
      · exact grows_addLines _ language
      · rename_i tree parsed
        refine grows_addTree _ ⟨ofFile, parser, grammar, hasParser, ?_, parsed⟩
        exact (Option.filter_eq_some_iff.mp hasGrammar).1
    · exact grows_addLines _ language

/-- A candidate stands in its file, under the identifier that its name makes there. -/
theorem Candidate.place {symbol : Symbol} (candidate : indexer.Candidate file content symbol) :
    symbol.file = file ∧ symbol.id = Symbol.makeId file symbol.name := by
  -- Both kinds of symbols are made from the file and a name.
  cases candidate <;> exact ⟨rfl, rfl⟩

/-- No candidate has another field in the name of a common one. -/
theorem Candidate.isTidy {symbol : Symbol} (candidate : indexer.Candidate file content symbol) :
    symbol.IsTidy := by
  -- A declaration line has no other fields at all.
  cases candidate with
  | declared language listed => exact fun key inside => by simp [DeclarationLine.toSymbol] at inside
  | matched parses known listed applies named nonempty =>
    exact SymbolPattern.isTidy_symbolOf _ _ _ _ _ _ _

/-- Every node that spans a match of a tree starts at a row from zero. -/
def HasRows (tree : SyntaxTree) : Prop :=
  ∀ query span, ∀ found ∈ tree.spanned query span, ∀ node,
    found.node? found.span = some node → 0 ≤ node.startRow

/-- A candidate has a name, and lines that are counted from one. -/
theorem Candidate.shape {symbol : Symbol} (candidate : indexer.Candidate file content symbol)
    (rows : ∀ language tree, indexer.Parses file content language tree → HasRows tree) :
    symbol.name ≠ "" ∧ 1 ≤ symbol.startLine ∧ symbol.startLine ≤ symbol.endLine := by
  -- The lines of a declaration are its number, those of a match the rows of its node.
  cases candidate with
  | declared language listed =>
    obtain ⟨named, positive⟩ := declarationsIn_shape listed
    simp only [DeclarationLine.toSymbol]
    exact ⟨named.1, by omega, by omega⟩
  | matched parses known listed applies named nonempty =>
    rename_i language tree pattern found name
    -- Lines are rows counted from one, and a match without a node stands on the first.
    have positive : 1 ≤ found.startLine := by
      unfold StructuralMatch.startLine
      split
      · rename_i node spans
        have := rows language tree parses _ _ found listed node spans
        omega
      · omega
    simp only [SymbolPattern.symbolOf]
    exact ⟨nonempty, positive, by omega⟩

end Indexer

end SourceAtlas
