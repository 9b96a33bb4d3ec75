import SourceAtlas.Proofs.Index.Pieces

/-! Of all that the symbol patterns of a language find in a tree, the first hit for each name
becomes a symbol. A pattern whose query fails may as well be missing, and extractors decide over
names and extra fields only. -/

namespace SourceAtlas

/-- A pattern for symbols together with one of its matches. -/
structure Hit where
  pattern : SymbolPattern
  found : StructuralMatch

namespace Hit

/-- The name that the extractor proposes: a text that it gives, or the start of
the span when it fails. -/
def proposed (hit : Hit) : String :=
  match hit.pattern.extract with
  | none => ""
  | some extract =>
    match extract hit.found with
    | .error _ => String.ofList (hit.found.spanText.toList.take 50)
    | .ok fields =>
      match fields.get? "name" with
      | some (.str name) => name
      | _ => ""

/-- The name of a hit: the proposed one, or the identifier of the pattern when none is proposed. -/
def name (hit : Hit) : String :=
  if hit.proposed = "" then hit.pattern.id else hit.proposed

/-- What the extractor gives as a name, if anything, is a text or null. -/
def namesText (hit : Hit) : Bool :=
  match (hit.pattern.fieldsOf hit.found).get? "name" with
  | none => true
  | some .null => true
  | some (.str _) => true
  | some _ => false

/-- The symbol of a hit. -/
def symbol (hit : Hit) (language : Language) (file content : String) : Symbol :=
  hit.pattern.symbolOf language file content hit.found hit.name (hit.pattern.fieldsOf hit.found)

/-- The first hit for each name that is not empty, in order. -/
def firsts : List Hit → List Hit
  | [] => []
  | hit :: rest =>
    if hit.name = "" then firsts rest
    else hit :: (firsts rest).filter fun other => other.name != hit.name

/-- A hit of the same pattern with another extractor. -/
def reextract (extractors : SymbolPattern → Option Extractor) (hit : Hit) : Hit :=
  { hit with pattern := { hit.pattern with extract := extractors hit.pattern } }

end Hit

/-- What the symbol patterns of a language hit in a tree, pattern by pattern and match by match. -/
def Language.hits (language : Language) (tree : SyntaxTree) : List Hit :=
  language.symbolPatterns.flatMap fun pattern =>
    ((tree.spanned pattern.query "def").filter pattern.applies).map (Hit.mk pattern)

/-- A language with other extractors for symbols. -/
def Language.reextract (language : Language) (extractors : SymbolPattern → Option Extractor) :
    Language :=
  { language with
    symbolPatterns := language.symbolPatterns.map fun pattern =>
      { pattern with extract := extractors pattern } }

/-- Adds the symbol of a hit that has a name. -/
def Draft.addHit (language : Language) (file content : String) (draft : Draft) (hit : Hit) :
    Draft :=
  if hit.name = "" then draft else draft.addSymbol (hit.symbol language file content)

namespace Hit

/-- The name that a pattern reads off the fields of a match is the name of the hit. -/
private theorem nameOf_fieldsOf {hit : Hit} (text : hit.namesText = true) :
    hit.pattern.nameOf (hit.pattern.fieldsOf hit.found) = .str hit.name := by
  -- Without an extractor and after a failing one the name is a text anyway.
  unfold namesText SymbolPattern.fieldsOf at text
  unfold SymbolPattern.nameOf SymbolPattern.fieldsOf name proposed
  cases isExtract : hit.pattern.extract with
  | none => rfl
  | some extract =>
    cases isFields : extract hit.found with
    | error fault =>
      -- The start of the span stands in for what the extractor did not give.
      simp only [isFields, Assoc.get?_cons, if_true, Json.truthy, takeChars, bne_iff_ne, ne_eq,
        ite_not]
      split <;> rfl
    | ok fields =>
      simp only [isExtract, isFields] at text ⊢
      cases isName : fields.get? "name" with
      | none => rfl
      | some value =>
        rw [isName] at text
        cases value with
        | null => rfl
        | str given =>
          simp only [Json.truthy, bne_iff_ne, ne_eq, ite_not]
          split <;> rfl
        | _ => cases text

/-- A match that applies adds its hit, and never ends the pattern. -/
theorem add?_eq {hit : Hit} (applies : hit.pattern.applies hit.found = true)
    (text : hit.namesText = true) (language : Language) (file content : String) (draft : Draft) :
    hit.pattern.add? language file content draft hit.found
      = some (draft.addHit language file content hit) := by
  -- The name is a text, so the pattern goes on after the match.
  simp only [SymbolPattern.add?, applies, nameOf_fieldsOf text, Json.truthy, Json.display,
    Draft.addHit]
  by_cases unnamed : hit.name = ""
  · simp [unnamed]
  · -- Whether the identifier is taken is asked twice, with one answer.
    have isId : (hit.symbol language file content).id = Symbol.makeId file hit.name := rfl
    cases taken : draft.has (Symbol.makeId file hit.name) with
    | true => simp [unnamed, Draft.addSymbol, isId, taken]
    | false => simp [unnamed, symbol]

end Hit

/-- In one file, names make the same identifier only when they are the same. -/
theorem Symbol.makeId_inj {file name other : String} :
    Symbol.makeId file name = Symbol.makeId file other ↔ name = other := by
  -- The file and the colon in front are the same.
  simp [Symbol.makeId, ← String.toList_inj]

namespace Draft

variable {language : Language} {tree : SyntaxTree} {file content : String}

/-- The matches of a pattern add its hits. -/
private theorem takeMatches_eq_addHits {pattern : SymbolPattern} {found : List StructuralMatch}
    (texts : ∀ hit ∈ (found.filter pattern.applies).map (Hit.mk pattern), hit.namesText = true)
    (draft : Draft) :
    takeMatches (pattern.add? language file content) draft found
      = ((found.filter pattern.applies).map (Hit.mk pattern)).foldl
        (addHit language file content) draft := by
  -- Matches that do not apply are passed over, and the others add their hits.
  induction found generalizing draft with
  | nil => rfl
  | cons item found ih =>
    cases applies : pattern.applies item with
    | true =>
      simp only [List.filter_cons, applies, if_true, List.map_cons, List.forall_mem_cons] at texts ⊢
      have added : pattern.add? language file content draft item
          = some (draft.addHit language file content ⟨pattern, item⟩) :=
        Hit.add?_eq applies texts.1 language file content draft
      simp only [takeMatches, added, List.foldl_cons]
      exact ih texts.2 _
    | false =>
      simp only [List.filter_cons, applies, Bool.false_eq_true, if_false] at texts ⊢
      have skipped : pattern.add? language file content draft item = some draft := by
        simp [SymbolPattern.add?, applies]
      simp only [takeMatches, skipped]
      exact ih texts draft

/-- The symbols of a tree are added hit by hit. -/
private theorem addTreeSymbols_eq_addHits (texts : ∀ hit ∈ language.hits tree, hit.namesText = true)
    (draft : Draft) :
    draft.addTreeSymbols tree language file content
      = (language.hits tree).foldl (addHit language file content) draft := by
  unfold addTreeSymbols Language.hits at *
  -- What adds the hits is the same in every round, and so are the hits of the
  -- patterns that are left.
  generalize language.symbolPatterns = patterns at texts ⊢
  induction patterns generalizing draft with
  | nil => rfl
  | cons pattern patterns ih =>
    simp only [List.flatMap_cons, List.forall_mem_append] at texts
    rw [List.foldl_cons, List.flatMap_cons, List.foldl_append, takeMatches_eq_addHits texts.1]
    exact ih _ texts.2

/-- After a symbol is added, its identifier is taken. -/
private theorem has_addSymbol (draft : Draft) (symbol : Symbol) (id : String) :
    (draft.addSymbol symbol).has id = (draft.has id || symbol.id == id) := by
  -- A symbol that was not added has an identifier that was taken already.
  unfold addSymbol
  split
  · rename_i taken
    by_cases same : symbol.id = id
    · simp [← same, taken]
    · simp [same]
  · simp [has]

/-- The first hit for each name is added, unless the draft has its identifier. -/
private theorem symbols_foldl_addHit (hits : List Hit) (draft : Draft) :
    (hits.foldl (addHit language file content) draft).symbols
      = draft.symbols ++
        ((Hit.firsts hits).filter fun hit => !draft.has (Symbol.makeId file hit.name)).map
          fun hit => hit.symbol language file content := by
  -- The draft grows from round to round, so it stays quantified over.
  induction hits generalizing draft with
  | nil => simp [Hit.firsts]
  | cons hit hits ih =>
    rw [List.foldl_cons, ih]
    by_cases unnamed : hit.name = ""
    · simp only [addHit, unnamed, if_true, Hit.firsts]
    · simp only [addHit, unnamed, if_false, Hit.firsts, List.filter_cons, List.filter_filter]
      -- Later hits of the name are dropped on both sides: there as taken, here as not the first.
      have later : ∀ other : Hit,
          (!(draft.addSymbol (hit.symbol language file content)).has
              (Symbol.makeId file other.name))
            = (!draft.has (Symbol.makeId file other.name) && other.name != hit.name) := by
        intro other
        have sameId : ((hit.symbol language file content).id == Symbol.makeId file other.name)
            = (other.name == hit.name) := by
          rw [Bool.eq_iff_iff, beq_iff_eq, beq_iff_eq, @eq_comm _ other.name]
          exact Symbol.makeId_inj
        rw [has_addSymbol, sameId, Bool.not_or]
        rfl
      simp only [later]
      have isId : (hit.symbol language file content).id = Symbol.makeId file hit.name := rfl
      -- The hit itself is kept unless the draft already has its identifier.
      rw [addSymbol, isId]
      cases draft.has (Symbol.makeId file hit.name) with
      | true => simp
      | false => simp

/-- A draft without symbols of the file takes the first hit for each name. -/
theorem symbols_addTreeSymbols {draft : Draft} (apart : draft.Apart file)
    (texts : ∀ hit ∈ language.hits tree, hit.namesText = true) :
    (draft.addTreeSymbols tree language file content).symbols
      = draft.symbols ++ (Hit.firsts (language.hits tree)).map
          fun hit => hit.symbol language file content := by
  -- From hits to first hits, of which none is taken.
  rw [addTreeSymbols_eq_addHits texts, symbols_foldl_addHit, List.filter_eq_self.mpr]
  -- No identifier of the file is taken at the start.
  intro hit _
  rw [apart hit.name]
  rfl

/-- A pattern whose query fails may be left out of the symbol patterns. -/
private theorem addTree_of_failing_symbols (draft : Draft) {front rest : List SymbolPattern}
    {pattern : SymbolPattern} {message : String}
    (listed : language.symbolPatterns = front ++ pattern :: rest)
    (fails : tree.matchesOf pattern.query = .error message) :
    draft.addTree tree { language with symbolPatterns := front ++ rest } file content
      = draft.addTree tree language file content := by
  have symbols : draft.addTreeSymbols tree
      { language with symbolPatterns := front ++ rest } file content
      = draft.addTreeSymbols tree language file content := by
    -- The failing query has no matches, so the draft comes out of its round as it went in.
    simp only [addTreeSymbols, listed, List.foldl_append, List.foldl_cons, SyntaxTree.spanned,
      fails, takeMatches]
    rfl
  simp only [addTree, symbols]
  rfl

/-- A pattern whose query fails may be left out of the reference patterns. -/
private theorem addTree_of_failing_references (draft : Draft) {front rest : List ReferencePattern}
    {pattern : ReferencePattern} {message : String}
    (listed : language.referencePatterns = .ok (front ++ pattern :: rest))
    (fails : tree.matchesOf pattern.query = .error message) :
    draft.addTree tree { language with referencePatterns := .ok (front ++ rest) } file content
      = draft.addTree tree language file content := by
  simp only [addTree, listed, addTreeReferences, List.foldl_append, List.foldl_cons,
    SyntaxTree.spanned, fails, takeMatches]
  rfl

end Draft

namespace Hit

variable {hits : List Hit}

/-- The first hits are among the hits. -/
theorem mem_of_mem_firsts {hit : Hit} (member : hit ∈ firsts hits) : hit ∈ hits := by
  -- Later hits are dropped, and none is made up.
  induction hits with
  | nil => exact member
  | cons first hits ih =>
    unfold firsts at member
    split at member
    · exact List.mem_cons_of_mem _ (ih member)
    · rcases List.mem_cons.mp member with rfl | later
      · exact List.mem_cons_self
      · exact List.mem_cons_of_mem _ (ih (List.mem_filter.mp later).1)

/-- Hits that keep their names have the same first ones. -/
private theorem firsts_map {change : Hit → Hit}
    (same : ∀ hit ∈ hits, (change hit).name = hit.name) :
    firsts (hits.map change) = (firsts hits).map change := by
  -- The name of a hit decides whether it is a first one, and the name stays.
  induction hits with
  | nil => rfl
  | cons hit hits ih =>
    simp only [List.forall_mem_cons] at same
    simp only [List.map_cons, firsts, same.1, ih same.2]
    split
    · rfl
    · rw [List.map_cons, List.filter_map]
      -- What is dropped for having the name of the first hit is the same
      -- before and after the change.
      congr 2
      refine List.filter_congr fun other member => ?_
      simp [same.2 other (mem_of_mem_firsts member)]

end Hit

/-- With other extractors a language has the same hits, read by the other extractors. -/
theorem Language.hits_reextract (language : Language)
    (extractors : SymbolPattern → Option Extractor) (tree : SyntaxTree) :
    (language.reextract extractors).hits tree
      = (language.hits tree).map (Hit.reextract extractors) := by
  -- Only the extractor differs, and matching does not ask it.
  simp only [hits, reextract, List.flatMap_map, List.map_flatMap, List.map_map]
  rfl

namespace Draft

variable {language : Language} {tree : SyntaxTree} {file content : String} {draft : Draft}

/-- Extractors that give the same names give symbols that agree in all fields but the extra ones. -/
private theorem coreFields_reextract (apart : draft.Apart file)
    {extractors : SymbolPattern → Option Extractor}
    (texts : ∀ hit ∈ language.hits tree, hit.namesText = true)
    (otherTexts : ∀ hit ∈ language.hits tree, (hit.reextract extractors).namesText = true)
    (same : ∀ hit ∈ language.hits tree, (hit.reextract extractors).name = hit.name) :
    (draft.addTreeSymbols tree (language.reextract extractors) file content).symbols.map
      Symbol.coreFields
      = (draft.addTreeSymbols tree language file content).symbols.map Symbol.coreFields := by
  -- The names are texts with the other extractors as well.
  have reextracted : ∀ hit ∈ (language.reextract extractors).hits tree, hit.namesText = true := by
    rw [Language.hits_reextract]
    simpa using otherTexts
  rw [symbols_addTreeSymbols apart texts, symbols_addTreeSymbols apart reextracted,
    Language.hits_reextract, Hit.firsts_map same]
  simp only [List.map_append, List.map_map]
  congr 1
  -- The common fields of a symbol are up to the match, the pattern and the name.
  refine List.map_congr_left fun hit member => ?_
  have sameName := same hit (Hit.mem_of_mem_firsts member)
  simp only [Function.comp_apply, Hit.symbol, sameName]
  rfl

/-- In a draft without symbols of a file, a tree of the file leaves a symbol for the first hit of
each name. A pattern whose query fails may be missing, be it one for symbols or one for references.
Extractors that give the same names give symbols that agree in all common fields, and no extra field
has the name of a common one. -/
theorem firstHits_become_symbols (apart : draft.Apart file)
    (texts : ∀ hit ∈ language.hits tree, hit.namesText = true) :
    (draft.addTreeSymbols tree language file content).symbols
        = draft.symbols ++ (Hit.firsts (language.hits tree)).map
          (fun hit => hit.symbol language file content) ∧
    (∀ front pattern rest message, language.symbolPatterns = front ++ pattern :: rest →
      tree.matchesOf pattern.query = .error message →
      draft.addTree tree { language with symbolPatterns := front ++ rest } file content
        = draft.addTree tree language file content) ∧
    (∀ front pattern rest message, language.referencePatterns = .ok (front ++ pattern :: rest) →
      tree.matchesOf pattern.query = .error message →
      draft.addTree tree { language with referencePatterns := .ok (front ++ rest) } file content
        = draft.addTree tree language file content) ∧
    (∀ extractors : SymbolPattern → Option Extractor,
      (∀ hit ∈ language.hits tree,
        (hit.reextract extractors).namesText = true ∧ (hit.reextract extractors).name = hit.name) →
      (draft.addTreeSymbols tree (language.reextract extractors) file content).symbols.map
        Symbol.coreFields
        = (draft.addTreeSymbols tree language file content).symbols.map Symbol.coreFields) ∧
    ∀ hit : Hit, (hit.symbol language file content).IsTidy := by
  -- Each part is one of the lemmas above.
  refine ⟨symbols_addTreeSymbols apart texts, ?_, ?_, ?_, ?_⟩
  · intro front pattern rest message listed fails
    exact addTree_of_failing_symbols draft listed fails
  · intro front pattern rest message listed fails
    exact addTree_of_failing_references draft listed fails
  · intro extractors same
    exact coreFields_reextract apart texts (fun hit member => (same hit member).1)
      fun hit member => (same hit member).2
  · intro hit
    exact hit.pattern.isTidy_symbolOf language file content hit.found _ _

/-- One pattern fails, the extractor of the next one fails, and that of the last one forges an
identifier: the method is named after its text, the function keeps its own identifier, and the first
pattern may be missing. -/
theorem firstHits_become_symbols_forged :
    let spans : String → List String → Captures :=
      fun text within => [("def", [⟨some text, 0, 1, within⟩])]
    let tree : SyntaxTree :=
      ⟨fun query => if query = "broken" then .error "no query"
        else .ok [spans "m" ["class"], spans "f" []]⟩
    let failing : Extractor := fun _ => .error .noWord
    let forging : Extractor :=
      fun found => .ok [("id", .str "b.t:g"), ("name", .str found.spanText)]
    let rest : List SymbolPattern :=
      [⟨"method", "all", "method", some failing, some "class"⟩,
        ⟨"function", "all", "function", some forging, none⟩]
    let language : Language := {
      identity := { name := "t", displayName := "T" }
      symbolPatterns := ⟨"class", "broken", "class", none, none⟩ :: rest
      referencePatterns := .ok []
      parameterNames := fun _ => []
      inferKind := fun _ kind => kind }
    let draft : Draft := { symbols := [⟨"b.t:f", "f", "function", "b.t", 1, 1, false, none, []⟩] }
    (draft.addTreeSymbols tree language "a.t" "").symbols.map
      (fun symbol => (symbol.id, symbol.kind))
        = [("b.t:f", "function"), ("a.t:m", "method"), ("a.t:f", "function")] ∧
      draft.addTree tree { language with symbolPatterns := rest } "a.t" ""
        = draft.addTree tree language "a.t" "" := by
  -- The first pattern fails, and the two others give a method and a function.
  intro spans tree failing forging rest language draft
  have apart : draft.Apart "a.t" := by
    intro name
    simp [draft, has, Symbol.makeId, ← String.toList_inj]
  have texts : ∀ hit ∈ language.hits tree, hit.namesText = true := List.all_eq_true.mp (by decide)
  obtain ⟨symbols, missing, _⟩ := @firstHits_become_symbols language tree "a.t" "" draft apart texts
  refine ⟨?_, missing [] _ rest "no query" rfl rfl⟩
  rw [symbols]
  decide

end Draft

end SourceAtlas
