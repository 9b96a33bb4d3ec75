import SourceAtlas.Proofs.Index.Growth

/-! A file adds the same symbols to every draft that has no symbols of the file. -/

namespace SourceAtlas

/-- Two drafts, one after the other. -/
def Draft.append (base draft : Draft) : Draft :=
  ⟨base.symbols ++ draft.symbols, base.references ++ draft.references,
    base.fileHashes ++ draft.fileHashes⟩

/-- A draft has no identifier that a file makes of a name. -/
def Draft.Apart (base : Draft) (file : String) : Prop :=
  ∀ name : String, base.has (Symbol.makeId file name) = false

namespace Draft

variable {base : Draft} {file content : String}

/-- An identifier is taken in one of the two drafts. -/
theorem has_append (base draft : Draft) (id : String) :
    (base.append draft).has id = (base.has id || draft.has id) := by
  simp [has, append]

/-- A symbol that the front does not have is added at the end. -/
theorem addSymbol_append (draft : Draft) {symbol : Symbol} (free : base.has symbol.id = false) :
    (base.append draft).addSymbol symbol = base.append (draft.addSymbol symbol) := by
  -- Only the second draft is asked.
  simp only [addSymbol, has_append, free, Bool.false_or]
  split <;> simp [append]

/-- References go behind those of both drafts. -/
theorem addReferences_append (base draft : Draft) (references : List Reference) :
    (base.append draft).addReferences references
      = base.append (draft.addReferences references) := by
  simp [addReferences, append]

/-- A fingerprint of a new file goes behind those of both drafts. -/
theorem addHash_append (draft : Draft) (new : file ∉ base.fileHashes.keys) (hash : String) :
    (base.append draft).addHash file hash = base.append (draft.addHash file hash) := by
  simp [addHash, append, Assoc.put_append new]

/-- A run of steps that leave the front alone leaves it alone. -/
theorem foldl_append {α : Type} {step : Draft → α → Draft} {items : List α}
    (one : ∀ item ∈ items, ∀ draft, step (base.append draft) item = base.append (step draft item))
    (draft : Draft) :
    items.foldl step (base.append draft) = base.append (items.foldl step draft) := by
  -- The induction is on the items, each of which leaves the front alone.
  induction items generalizing draft with
  | nil => rfl
  | cons item items ih =>
    simp only [List.forall_mem_cons] at one
    rw [List.foldl_cons, List.foldl_cons, one.1, ih one.2]

/-- Matches that leave the front alone leave it alone, also when one of them ends the pattern. -/
theorem takeMatches_append {add? : Draft → StructuralMatch → Option Draft}
    {found : List StructuralMatch}
    (one : ∀ item ∈ found, ∀ draft,
      add? (base.append draft) item = (add? draft item).map base.append) (draft : Draft) :
    takeMatches add? (base.append draft) found = base.append (takeMatches add? draft found) := by
  -- A match that ends the pattern ends it behind the front as well.
  induction found generalizing draft with
  | nil => rfl
  | cons item found ih =>
    simp only [List.forall_mem_cons] at one
    rw [takeMatches, takeMatches, one.1]
    cases add? draft item with
    | none => rfl
    | some next => exact ih one.2 next

/-- Lines add the same behind every front without symbols of their file. -/
theorem addLines_append (draft : Draft) (apart : base.Apart file) (language : Option Language) :
    (base.append draft).addLines file content language
      = base.append (draft.addLines file content language) := by
  -- The identifiers of the lines are made of the file, and the front has none of these.
  simp only [addLines]
  rw [foldl_append, addReferences_append]
  intro found _ draft
  exact addSymbol_append draft (apart found.name)

end Draft

/-- A match of a symbol pattern adds the same behind every front without symbols of its file. -/
theorem SymbolPattern.add?_append {base : Draft} {file : String} (apart : base.Apart file)
    (pattern : SymbolPattern) (language : Language) (content : String) (draft : Draft)
    (found : StructuralMatch) :
    pattern.add? language file content (base.append draft) found
      = (pattern.add? language file content draft found).map base.append := by
  -- A match out of context adds nothing, whatever stands in front.
  simp only [add?]
  split
  · rfl
  · -- The front does not have the identifier, so whether it is taken is up to the draft.
    rw [Draft.has_append, apart, Bool.false_or]
    split
    · rfl
    · split
      · simp only [Option.map_some, Option.some.injEq]
        exact Draft.addSymbol_append draft (apart _)
      · rfl

/-- A match of a reference pattern adds the same behind every front. -/
theorem ReferencePattern.add?_append (pattern : ReferencePattern) (file : String)
    (base draft : Draft) (found : StructuralMatch) :
    pattern.add? file (base.append draft) found
      = (pattern.add? file draft found).map base.append := by
  -- References are added without a look at what is there.
  simp only [add?]
  split
  · rfl
  · simp [Draft.addReferences_append, Function.comp_def]

/-- An identifier whose name has no colon is that of another file only when the name of its own file
goes on from there with a colon. -/
theorem Symbol.eq_or_colon_of_makeId_eq {file other name rename : String}
    (free : ':' ∉ rename.toList) (same : Symbol.makeId file name = Symbol.makeId other rename) :
    other = file ∨ ∃ rest, other.toList = file.toList ++ ':' :: rest := by
  -- The two identifiers are cut at the colon behind the first file.
  have texts : file.toList ++ ':' :: name.toList = other.toList ++ ':' :: rename.toList := by
    simpa [Symbol.makeId] using congrArg String.toList same
  rcases List.append_eq_append_iff.mp texts with ⟨more, isOther, isName⟩ | ⟨more, isFile, isRename⟩
  · -- The other file takes in some of what follows the first one: nothing, or a colon and more.
    cases more with
    | nil => exact .inl (String.toList_injective (by simpa using isOther))
    | cons c more =>
      simp only [List.cons_append, List.cons.injEq] at isName
      exact .inr ⟨more, by rw [isOther, ← isName.1]⟩
  · -- If it were the first file that took in more, the other name would have its colon.
    cases more with
    | nil => exact .inl (String.toList_injective (by simpa using isFile.symm))
    | cons c more =>
      simp only [List.cons_append, List.cons.injEq] at isRename
      exact absurd (isRename.2 ▸ by simp) free

namespace Indexer

/-- The names that a file of some content gives to matches have no colons
when they are written out. -/
def ColonFree (indexer : Indexer) (file content : String) : Prop :=
  ∀ language tree, indexer.Parses file content language tree → ∀ pattern ∈ language.symbolPatterns,
    ∀ found ∈ tree.spanned pattern.query "def", pattern.applies found = true →
      ':' ∉ (pattern.nameOf (pattern.fieldsOf found)).display.toList

variable {indexer : Indexer} {file content : String}

/-- A candidate has a name without colons. -/
theorem Candidate.colonFree {symbol : Symbol} (candidate : indexer.Candidate file content symbol)
    (colonFree : indexer.ColonFree file content) : ':' ∉ symbol.name.toList := by
  -- A name in a line has no colon, and the names of matches have none by assumption.
  cases candidate with
  | declared language listed => exact (declarationsIn_shape listed).1.2
  | matched parses known listed applies named nonempty =>
    have free := colonFree _ _ parses _ known _ listed applies
    rwa [named] at free

/-- A text adds the same behind every front without symbols and fingerprint of its file. -/
theorem addText_append {base : Draft} (draft : Draft) (apart : base.Apart file)
    (new : file ∉ base.fileHashes.keys) :
    (indexer.addText (base.append draft) file content).1
      = base.append (indexer.addText draft file content).1 := by
  -- A tree adds match by match, each of them behind the front.
  have tree : ∀ (language : Language) (tree : SyntaxTree) (draft : Draft),
      (base.append draft).addTree tree language file content
        = base.append (draft.addTree tree language file content) := by
    intro language tree draft
    have symbols : (base.append draft).addTreeSymbols tree language file content
        = base.append (draft.addTreeSymbols tree language file content) := by
      refine Draft.foldl_append (fun pattern _ draft => ?_) draft
      exact Draft.takeMatches_append
        (fun found _ draft => pattern.add?_append apart language content draft found) draft
    simp only [Draft.addTree, symbols]
    split
    · refine Draft.foldl_append (fun pattern _ draft => ?_) _
      exact Draft.takeMatches_append
        (fun found _ draft => pattern.add?_append file base draft found) draft
    · exact Draft.addLines_append _ apart _
  simp only [addText, Draft.addHash_append draft new]
  -- Whichever way the text is read depends on the file and the text alone.
  split
  · rfl
  · split
    · split
      · rfl
      · exact Draft.addLines_append _ apart _
      · exact tree _ _ _
    · exact Draft.addLines_append _ apart _

/-- The symbols that a file of some content gives rise to. -/
def pieceOf (indexer : Indexer) (file content : String) : List Symbol :=
  (indexer.addText {} file content).1.symbols

/-- The symbols of a file are candidates with distinct identifiers. -/
theorem pieceOf_spec (indexer : Indexer) (file content : String) :
    (∀ symbol ∈ indexer.pieceOf file content, indexer.Candidate file content symbol) ∧
      ((indexer.pieceOf file content).map Symbol.id).Nodup := by
  -- Starting from nothing, all that is there has been added.
  have grows := grows_addText indexer {} file content
  obtain ⟨added, isAdded, candidates⟩ := grows.symbols
  have isPiece : indexer.pieceOf file content = added := by
    simpa [pieceOf, Draft.addHash] using isAdded
  exact ⟨isPiece ▸ candidates, grows.distinct (by simp [Draft.addHash])⟩

/-- No symbol of a file of some content has a colon in its name. -/
def PlainNames (indexer : Indexer) (file content : String) : Prop :=
  ∀ symbol ∈ indexer.pieceOf file content, ':' ∉ symbol.name.toList

/-- Where no match has a colon in its name, no symbol has. -/
theorem ColonFree.plainNames (colonFree : indexer.ColonFree file content) :
    indexer.PlainNames file content :=
  fun symbol member => ((indexer.pieceOf_spec file content).1 symbol member).colonFree colonFree

/-- Lines alone give no name with a colon. -/
theorem plainNames_of_unparsed
    (unparsed : ∀ language tree, ¬ indexer.Parses file content language tree) :
    indexer.PlainNames file content :=
  ColonFree.plainNames fun language tree parses => (unparsed language tree parses).elim

end Indexer

end SourceAtlas
