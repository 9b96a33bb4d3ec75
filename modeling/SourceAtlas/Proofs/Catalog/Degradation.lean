import SourceAtlas.Proofs.Catalog.Advice
import SourceAtlas.Proofs.Catalog.Contents
import SourceAtlas.Proofs.Number.Ranking

/-! Searches, contexts, rankings and descriptions with an assistant that may fail in any way: they
follow a usable answer, and go by keywords without one. -/

namespace SourceAtlas

/-- A count that is not negative takes so many items from the front. -/
theorem takeSigned_natCast {α : Type} (count : Nat) (items : List α) :
    takeSigned (count : Int) items = items.take count := by
  -- No bound of this kind counts from the end.
  have positive : ¬ (count : Int) < 0 := by omega
  simp [takeSigned, boundCount, positive]

/-- Ordering by relevance leaves nothing out. -/
theorem mostRelevantFirst_eq_nil_iff {found : List (Binary64 × Symbol)} :
    mostRelevantFirst found = [] ↔ found = [] := by
  -- The ordered symbols are the same ones in another order.
  have arranged := sortDescending_perm Prod.fst found
  rw [mostRelevantFirst, List.map_eq_nil_iff]
  constructor
  · intro empty
    exact (empty ▸ arranged).symm.eq_nil
  · rintro rfl
    exact arranged.eq_nil

/-- What is summarised is what is collected, the most relevant first. -/
private theorem summarized?_getD (symbols : List Symbol) (found : Option Json) :
    (found.bind (summarized? symbols)).getD []
      = mostRelevantFirst ((found.bind (Verdict.collect? (firstLocated symbols) summedUpBy)).getD
        []) := by
  -- Ordering nothing gives nothing.
  have nothing : mostRelevantFirst [] = [] := mostRelevantFirst_eq_nil_iff.mpr rfl
  cases found with
  | none => simp [nothing]
  | some answer =>
    rw [Option.bind_some, Option.bind_some, summarized?_eq]
    cases Verdict.collect? (firstLocated symbols) summedUpBy answer <;> simp [nothing]

namespace Catalog

variable {σ : Type}

/-- A search takes what its answer says of the candidates, unless that comes to nothing. -/
theorem semanticSearch_eq (catalog : Catalog) (advisor : Advisor σ) (topic : String) (bound : Nat)
    (kinds : List String) :
    let candidates := (catalog.candidates topic kinds).take candidateLimit
    let found :=
      (advisor.ask fun assistant => assistant.rank (candidates.map Symbol.searchLine) topic).1
    let said :=
      ((found.bind (Verdict.collect? (firstMentioned candidates) rankedBy)).getD []).take bound
    candidates ≠ [] →
      (catalog.semanticSearch advisor topic bound kinds).1 = if said.isEmpty
        then candidates.take bound else said := by
  intro candidates found said anybody
  -- The answer is collected, cut, and dropped when nothing is left of it.
  have result : (catalog.semanticSearch advisor topic bound kinds).1
      = (((found.bind (mentioned? candidates)).map (takeSigned bound)).filter
        fun said => !said.isEmpty).getD (takeSigned bound candidates) := by
    simp only [semanticSearch]
    rw [if_neg (by simpa [candidates] using anybody)]
  rw [result, mentioned?_eq, takeSigned_natCast]
  simp only [said]
  -- Either nothing could be collected, or what was collected is cut.
  cases found.bind (Verdict.collect? (firstMentioned candidates) rankedBy) with
  | none => simp
  | some all =>
    rw [Option.map_some, takeSigned_natCast, Option.filter_some, Option.getD_some]
    cases (all.take bound).isEmpty <;> simp

/-- A search follows a usable ranking, and keeps to the candidates without one. -/
theorem semanticSearch_gives (catalog : Catalog) (advisor : Advisor σ) (topic : String)
    (bound : Nat) (kinds : List String) :
    let candidates := (catalog.candidates topic kinds).take candidateLimit
    advisor.Gives (fun assistant => assistant.rank (candidates.map Symbol.searchLine) topic)
      (Verdict.usable (firstMentioned candidates))
      (fun answer => (Verdict.reading (firstMentioned candidates) rankedBy answer).take bound)
      (candidates.take bound) (catalog.semanticSearch advisor topic bound kinds).1 := by
  intro candidates
  by_cases nobody : candidates = []
  · -- Nobody is asked about nothing.
    have empty : (catalog.semanticSearch advisor topic bound kinds).1 = [] := by
      simp only [semanticSearch]
      rw [if_pos (by simpa [candidates] using nobody)]
    have useless := @Verdict.usable_of_nowhere (firstMentioned candidates) fun path => by
      simp [firstMentioned, nobody]
    exact .inr ⟨fun answer _ => useless answer, by rw [empty, nobody, List.take_nil]⟩
  · have result := semanticSearch_eq catalog advisor topic bound kinds nobody
    rcases Verdict.collected_cases (firstMentioned candidates) rankedBy
      (advisor.ask fun assistant =>
        assistant.rank (candidates.map Symbol.searchLine) topic).1 with
      ⟨answer, isFound, good, said⟩ | ⟨useless, said⟩
    · refine .inl ⟨answer, Advisor.ask_eq_some_iff.mp isFound, good, ?_⟩
      rw [result, said]
      split
      · -- Something is said, so it can only be that nothing is asked for.
        rename_i nothing
        have spoken := Verdict.reading_ne_nil rankedBy good
        obtain rfl : bound = 0 := by simpa [spoken] using nothing
        simp
      · rfl
    · refine .inr ⟨fun answer answers => useless answer (Advisor.ask_eq_some_iff.mpr answers), ?_⟩
      rw [result, said]
      simp [candidates]

/-- A symbol that a search finds agrees with a candidate in all common fields. -/
private theorem semanticSearch_origin (catalog : Catalog) (advisor : Advisor σ) (topic : String)
    (bound : Nat) (kinds : List String) {symbol : Symbol}
    (member : symbol ∈ (catalog.semanticSearch advisor topic bound kinds).1) :
    ∃ origin ∈ catalog.candidates topic kinds, symbol.coreFields = origin.coreFields := by
  -- Either the answer is followed, and speaks of candidates, or the candidates are kept.
  rcases catalog.semanticSearch_gives advisor topic bound
    kinds with ⟨answer, _, _, isResult⟩ | ⟨_, isResult⟩
  · rw [isResult] at member
    obtain ⟨path, item, origin, score, isAbout, rfl⟩ :=
      Verdict.mem_reading (List.mem_of_mem_take member)
    exact ⟨origin, List.mem_of_mem_take (List.mem_of_find?_eq_some isAbout), rfl⟩
  · rw [isResult] at member
    exact ⟨symbol, List.mem_of_mem_take (List.mem_of_mem_take member), rfl⟩

/-- A search finds no more than it is asked for. -/
theorem length_semanticSearch_le (catalog : Catalog) (advisor : Advisor σ) (topic : String)
    (bound : Nat) (kinds : List String) :
    (catalog.semanticSearch advisor topic bound kinds).1.length ≤ bound := by
  -- Both what the answer says and what is kept are cut.
  rcases catalog.semanticSearch_gives advisor topic bound
    kinds with ⟨answer, _, _, isResult⟩ | ⟨_, isResult⟩
  · rw [isResult]
    exact List.length_take_le _ _
  · rw [isResult]
    exact List.length_take_le _ _

/-- A context follows a usable summary and is then marked, and goes by the search without one. -/
private theorem taskContext_gives (catalog : Catalog) (advisor : Advisor σ) (task : String)
    (bound : Nat) :
    let searched := catalog.semanticSearch advisor task (bound * 2) []
    let context := (catalog.taskContext advisor task bound).1
    searched.2.Gives (fun assistant => assistant.summarize
      ((searched.1.take bound).map Symbol.passage) task)
      (Verdict.usable (firstLocated searched.1))
      (fun answer =>
        (true, (mostRelevantFirst (Verdict.reading (firstLocated searched.1) summedUpBy
          answer)).take bound))
      (false, (searched.1.take bound).map Symbol.withOwnRelevance)
        (context.enhanced, context.symbols) := by
  intro searched context
  by_cases nobody : searched.1 = []
  · -- Without anything found there is no context to enrich.
    have empty : context = { task } := by
      simp only [context, taskContext]
      rw [if_pos (by simpa [searched] using nobody)]
    have useless := @Verdict.usable_of_nowhere (firstLocated searched.1) fun path => by
      simp [firstLocated, nobody]
    exact .inr ⟨fun answer _ => useless answer, by simp [empty, nobody]⟩
  · -- A search that found something was asked for something, so cutting leaves
    -- something of what is said.
    have positive : bound ≠ 0 := by
      rintro rfl
      have short := catalog.length_semanticSearch_le advisor task 0 []
      exact nobody (List.length_eq_zero_iff.mp (by simpa [searched] using short))
    let found := (searched.2.ask fun assistant =>
      assistant.summarize ((searched.1.take bound).map Symbol.passage) task).1
    let enriched := mostRelevantFirst
      ((found.bind (Verdict.collect? (firstLocated searched.1) summedUpBy)).getD [])
    have result : (context.enhanced, context.symbols) = (!enriched.isEmpty,
        if (enriched.take bound).isEmpty then (searched.1.take bound).map Symbol.withOwnRelevance
        else enriched.take bound) := by
      simp only [context, taskContext]
      rw [if_neg (by simpa [searched] using nobody)]
      simp only [takeSigned_natCast, summarized?_getD]
      rfl
    rw [result]
    -- What is said is made of a usable answer, or there is nothing said.
    rcases Verdict.collected_cases (firstLocated searched.1) summedUpBy found with
      ⟨answer, isFound, good, said⟩ | ⟨useless, said⟩
    · refine .inl ⟨answer, Advisor.ask_eq_some_iff.mp isFound, good, ?_⟩
      have isEnriched : enriched = mostRelevantFirst
          (Verdict.reading (firstLocated searched.1) summedUpBy answer) :=
            congrArg mostRelevantFirst said
      have spoken : enriched ≠ [] :=
        isEnriched ▸ mt mostRelevantFirst_eq_nil_iff.mp (Verdict.reading_ne_nil summedUpBy good)
      simp [← isEnriched, spoken, positive]
    · refine .inr ⟨fun answer answers => useless answer (Advisor.ask_eq_some_iff.mpr answers), ?_⟩
      have silent : enriched = [] := mostRelevantFirst_eq_nil_iff.mpr said
      simp [silent]

/-- An explanation takes over a description that the assistant gives of the code and is then marked,
and describes the symbol by its fields without one. -/
private theorem explain_gives (catalog : Catalog) (advisor : Advisor σ) {id code : String}
    {symbol : Symbol} (known : catalog.find? id = some symbol) :
    ∃ explanation, (catalog.explain advisor id code).1 = some explanation ∧
      explanation.symbol = symbol ∧ explanation.calls = catalog.callsOf id ∧
      advisor.Gives
        (fun assistant => assistant.generate (symbol.describingPrompt code) descriptionTokens)
        (fun answer => !code.isEmpty && answer.truthy) (fun answer => (true, answer))
        (false, .str symbol.plainDescription) (explanation.enhanced, explanation.description) := by
  let question := fun (assistant : Assistant σ) state =>
    if code.isEmpty then (none, state) else assistant.generate (symbol.describingPrompt code)
      descriptionTokens state
  -- An empty answer counts as none.
  let found := (advisor.ask question).1.filter Json.truthy
  let explanation : Explanation :=
    ⟨symbol, found.getD (.str symbol.plainDescription), catalog.callsOf id, found.isSome⟩
  refine ⟨explanation, by simp only [explain, known]; rfl, rfl, rfl, ?_⟩
  -- Without code the question is not put, so there is no answer to it.
  have put : ∀ answer, advisor.Answers question answer ↔ code.isEmpty = false ∧ advisor.Answers
      (fun assistant => assistant.generate (symbol.describingPrompt code) descriptionTokens)
        answer := by
    intro answer
    cases empty : code.isEmpty <;> simp [Advisor.Answers, question, empty]
  -- A description that is found is one that the assistant gave of the code.
  cases isFound : found with
  | some answer =>
    obtain ⟨asked, truthy⟩ := Option.filter_eq_some_iff.mp isFound
    obtain ⟨isCode, answers⟩ := (put answer).mp (Advisor.ask_eq_some_iff.mp asked)
    exact .inl ⟨answer, answers, by simp [isCode, truthy], by simp [explanation, isFound]⟩
  | none =>
    refine .inr ⟨fun answer answers => ?_, by simp [explanation, isFound]⟩
    rw [Bool.and_eq_false_iff, Bool.not_eq_false']
    cases empty : code.isEmpty with
    | true => exact .inl rfl
    | false =>
      have asked := Advisor.ask_eq_some_iff.mpr ((put answer).mpr ⟨empty, answers⟩)
      exact .inr (by simpa [found, asked] using isFound)

end Catalog

namespace Ranking

variable {symbols ranked : List Symbol}

/-- Rows keep what they are made of. -/
private theorem map_of_mapM {α β γ : Type} {row : α → Option β} {before : α → γ} {after : β → γ}
    (one : ∀ item part, row item = some part → after part = before item) {items : List α}
    {parts : List β} (made : items.mapM row = some parts) : parts.map after = items.map before := by
  -- Row by row, and there is a row for every item.
  induction items generalizing parts with
  | nil => simp_all
  | cons item items ih =>
    simp only [List.mapM_cons, Option.bind_eq_bind, Option.bind_eq_some_iff, Option.pure_def,
      Option.some.injEq] at made
    obtain ⟨part, isPart, others, areOthers, rfl⟩ := made
    rw [List.map_cons, List.map_cons, one item part isPart, ih areOthers]

/-- A ranking gives each of some symbols a relevance and a reason, and arranges them anew. -/
def Rearranges (symbols ranked : List Symbol) : Prop :=
  ∃ (score : Symbol → Binary64) (reason : Symbol → Json),
    ranked.Perm (symbols.map fun symbol => symbol.withRelevance (score symbol) (reason symbol))

/-- What is seen of symbols without their relevance and the reason for it is only arranged anew. -/
theorem Rearranges.perm_map {γ : Type} {view : Symbol → γ} (arranged : Rearranges symbols ranked)
    (blind : ∀ symbol score reason, view (symbol.withRelevance score reason) = view symbol) :
    (ranked.map view).Perm (symbols.map view) := by
  obtain ⟨score, reason, perm⟩ := arranged
  -- What is given to a symbol is not seen by the view.
  have seen :
      (symbols.map fun symbol => symbol.withRelevance (score symbol) (reason symbol)).map view
        = symbols.map view := by
    rw [List.map_map]
    exact List.map_congr_left fun symbol _ => blind symbol (score symbol) (reason symbol)
  rw [← seen]
  exact perm.map view

/-- A ranking has as many symbols as it was given. -/
theorem Rearranges.length_eq (arranged : Rearranges symbols ranked) :
    ranked.length = symbols.length := by
  -- Arranging anew keeps the number.
  obtain ⟨_, _, perm⟩ := arranged
  rw [perm.length_eq, List.length_map]

/-- Ordering judged symbols by their relevance arranges them anew. -/
private theorem rearranges_sortDescending {judged : List (Binary64 × Symbol)}
    {score : Symbol → Binary64} {reason : Symbol → Json}
    (areJudged : judged.map Prod.snd = symbols.map fun symbol =>
      symbol.withRelevance (score symbol) (reason symbol)) :
    Rearranges symbols ((sortDescending Prod.fst judged).map Prod.snd) := by
  -- Ordering changes the places only.
  refine ⟨score, reason, ?_⟩
  rw [← areJudged]
  exact (sortDescending_perm Prod.fst judged).map Prod.snd

/-- The item that is taken to be about a symbol; without one, it says nothing. -/
def itemAbout (items : List Json) (symbol : Symbol) : Json :=
  (((itemFor? symbol items).getD none).filter Json.truthy).getD .null

/-- A ranking by an answer arranges the symbols anew. -/
private theorem byAnswer?_rearranges {answer : Json}
    (found : byAnswer? symbols answer = some ranked) :
    Rearranges symbols ranked := by
  -- The answer has items, and each symbol is judged by them.
  have made : ∃ items judged, symbols.mapM (judge? items) = some judged ∧
      (sortDescending Prod.fst judged).map Prod.snd = ranked := by
    unfold byAnswer? at found
    split at found
    · simp at found
    · simp only [Option.bind_eq_bind, Option.bind_eq_some_iff, Option.pure_def,
        Option.some.injEq] at found
      obtain ⟨items, _, judged, found⟩ := found
      exact ⟨items, judged, found⟩
  obtain ⟨items, judged, areJudged, rfl⟩ := made
  -- A symbol that is judged gets the relevance and the reason of the item
  -- about it, and nothing else.
  let score := fun symbol => (Verdict.relevance? unmentioned (itemAbout items symbol)).getD .zero
  let reason := fun symbol =>
    let reason := (itemAbout items symbol).fieldOrNull "reason"
    if reason.truthy then reason else .str "No match"
  apply @rearranges_sortDescending symbols judged score reason
  refine map_of_mapM (fun symbol pair isJudged => ?_) areJudged
  simp only [judge?, Option.bind_eq_bind, Option.bind_eq_some_iff, Option.pure_def,
    Option.some.injEq] at isJudged
  obtain ⟨item, isItem, given, isGiven, rfl⟩ := isJudged
  have about : itemAbout items symbol = (item.filter Json.truthy).getD .null := by
    rw [itemAbout, isItem, Option.getD_some]
  simp only [score, reason, about, isGiven, Option.getD_some]

/-- A ranking by keywords arranges the symbols anew. -/
private theorem byKeywords_rearranges (symbols : List Symbol) (task : String) :
    Rearranges symbols (byKeywords symbols task) := by
  -- Each symbol is judged on its own before they are ordered.
  apply rearranges_sortDescending
  rw [List.map_map]
  rfl

end Ranking

/-- Symbols are ranked by the answer if it says something of each of them, and
by keywords otherwise. -/
theorem rankSymbols_eq {σ : Type} (advisor : Advisor σ) (symbols : List Symbol) (task : String) :
    (rankSymbols advisor symbols task).1 = ((advisor.ask fun assistant =>
      assistant.rank (symbols.map Symbol.rankingLine) task).1.bind (Ranking.byAnswer? symbols)).getD
        (Ranking.byKeywords symbols task) := by
  let found := (advisor.ask fun assistant => assistant.rank (symbols.map Symbol.rankingLine) task).1
  -- A ranking is empty only where there are no symbols.
  have ranked : ∀ ranked, found.bind (Ranking.byAnswer? symbols) = some ranked →
      ranked.length = symbols.length := by
    intro ranked made
    obtain ⟨answer, _, isRanked⟩ := Option.bind_eq_some_iff.mp made
    exact (Ranking.byAnswer?_rearranges isRanked).length_eq
  have byKeywords : (Ranking.byKeywords symbols task).length = symbols.length :=
    (Ranking.byKeywords_rearranges symbols task).length_eq
  by_cases nobody : symbols = []
  · -- Where there are no symbols, every ranking is empty.
    have empty : (rankSymbols advisor symbols task).1 = [] := by simp [rankSymbols, nobody]
    rw [empty]
    refine (List.length_eq_zero_iff.mp ?_).symm
    cases made : found.bind (Ranking.byAnswer? symbols) with
    | none => simpa [found, made, nobody] using byKeywords
    | some ranking => simpa [found, made, nobody] using ranked ranking made
  · have result : (rankSymbols advisor symbols task).1
        = ((found.bind (Ranking.byAnswer? symbols)).filter
        fun ranking => !ranking.isEmpty).getD (Ranking.byKeywords symbols task) := by
      simp only [rankSymbols]
      rw [if_neg (by simpa using nobody)]
    rw [result]
    cases made : found.bind (Ranking.byAnswer? symbols) with
    | none => simp
    | some ranking =>
      -- A ranking of some symbols is not empty, so it counts.
      have full : ranking ≠ [] := by
        rintro rfl
        exact nobody (List.length_eq_zero_iff.mp (ranked [] made).symm)
      simp [Option.filter_some, full]

/-- A ranking follows an answer that says something of every symbol, and goes
by keywords without one. -/
private theorem rankSymbols_gives {σ : Type} (advisor : Advisor σ) (symbols : List Symbol)
    (task : String) :
    advisor.Gives (fun assistant => assistant.rank (symbols.map Symbol.rankingLine) task)
      (fun answer => (Ranking.byAnswer? symbols answer).isSome)
      (fun answer => (Ranking.byAnswer? symbols answer).getD []) (Ranking.byKeywords symbols task)
      (rankSymbols advisor symbols task).1 := by
  have result := rankSymbols_eq advisor symbols task
  -- Either the answer makes a ranking, or no answer that could be given does.
  cases made : (advisor.ask fun assistant =>
      assistant.rank (symbols.map Symbol.rankingLine) task).1.bind (Ranking.byAnswer? symbols) with
  | some ranked =>
    obtain ⟨answer, asked, isRanked⟩ := Option.bind_eq_some_iff.mp made
    exact .inl ⟨answer, Advisor.ask_eq_some_iff.mp asked, by simp [isRanked],
      by simp [result, made, isRanked]⟩
  | none =>
    refine .inr ⟨fun answer answers => ?_, by simp [result, made]⟩
    have asked := Advisor.ask_eq_some_iff.mpr answers
    simpa [asked] using made

/-- A ranking arranges the symbols anew, whoever makes it. -/
theorem rankSymbols_rearranges {σ : Type} (advisor : Advisor σ) (symbols : List Symbol)
    (task : String) :
    Ranking.Rearranges symbols (rankSymbols advisor symbols task).1 := by
  -- Whoever makes the ranking, it arranges the symbols anew.
  rcases rankSymbols_gives advisor symbols task with ⟨answer, _, usable, result⟩ | ⟨_, result⟩
  · obtain ⟨ranked, isRanked⟩ := Option.isSome_iff_exists.mp usable
    simp only [isRanked, Option.getD_some] at result
    rw [result]
    exact Ranking.byAnswer?_rearranges isRanked
  · rw [result]
    exact Ranking.byKeywords_rearranges symbols task

/-- A ranking keeps the common fields of all symbols. -/
theorem rankSymbols_perm {σ : Type} (advisor : Advisor σ) (symbols : List Symbol) (task : String) :
    ((rankSymbols advisor symbols task).1.map Symbol.coreFields).Perm
      (symbols.map Symbol.coreFields) :=
  (rankSymbols_rearranges advisor symbols task).perm_map fun _ _ _ => rfl

namespace Catalog

/-- Without a usable ranking a search finds the relevant symbols, up to the
limit of an assistant. -/
private theorem semanticSearch_eq_relevant {σ : Type} (catalog : Catalog) (advisor : Advisor σ)
    (topic : String) (bound : Nat) (kinds : List String) :
    let candidates := (catalog.candidates topic kinds).take candidateLimit
    (∀ answer, advisor.Answers (fun assistant =>
      assistant.rank (candidates.map Symbol.searchLine) topic) answer →
      Verdict.usable (firstMentioned candidates) answer = false) → bound ≤ candidateLimit →
      (catalog.semanticSearch advisor topic bound kinds).1
        = catalog.relevant topic bound kinds := by
  intro candidates useless small
  -- A usable answer is excluded, and the limit of the assistant lies beyond the bound.
  rcases catalog.semanticSearch_gives advisor topic bound
    kinds with ⟨answer, answers, good, _⟩ | ⟨_, result⟩
  · exact absurd (good.symm.trans (useless answer answers)) (by simp)
  · rw [result, relevant, takeSigned_natCast, List.take_take, Nat.min_eq_left small]

end Catalog

/-- Whatever an assistant does, a search, a context, an explanation, a ranking and a check of
availability have a result. A search finds symbols of the topic and kinds up to its bound: those of
a usable ranking, or the relevant ones without it. A context and an explanation are marked iff they
are made from the answer. -/
theorem advice_degrades {σ : Type} (snapshot : Snapshot) (advisor : Advisor σ) :
    let catalog := Catalog.ofSnapshot snapshot
    (∀ (topic : String) (kinds : List String) (bound : Nat),
      let candidates := (catalog.candidates topic kinds).take candidateLimit
      let found := (catalog.semanticSearch advisor topic bound kinds).1
      let question :=
        fun (assistant : Assistant σ) => assistant.rank (candidates.map Symbol.searchLine) topic
      found.length ≤ bound ∧
        (∀ symbol ∈ found, ∃ origin ∈ snapshot.symbols, symbol.coreFields = origin.coreFields ∧
          origin ∈ catalog.byTopic topic ∧ (kinds = [] ∨ origin.kind ∈ kinds)) ∧
        advisor.Gives question (Verdict.usable (firstMentioned candidates))
          (fun answer => (Verdict.reading (firstMentioned candidates) rankedBy answer).take bound)
          (candidates.take bound) found ∧
        ((∀ answer, advisor.Answers question answer →
          Verdict.usable (firstMentioned candidates) answer = false) →
          bound ≤ candidateLimit → found = catalog.relevant topic bound kinds)) ∧
    (∀ (task : String) (bound : Nat),
      let searched := catalog.semanticSearch advisor task (bound * 2) []
      let context := (catalog.taskContext advisor task bound).1
      searched.2.Gives (fun assistant => assistant.summarize
        ((searched.1.take bound).map Symbol.passage) task)
        (Verdict.usable (firstLocated searched.1))
        (fun answer =>
          (true, (mostRelevantFirst (Verdict.reading (firstLocated searched.1) summedUpBy
            answer)).take bound))
        (false, (searched.1.take bound).map Symbol.withOwnRelevance)
          (context.enhanced, context.symbols)) ∧
    (∀ id code : String,
      (catalog.find? id = none ∧ (catalog.explain advisor id code).1 = none) ∨
      ∃ symbol explanation, catalog.find? id = some symbol ∧
        (catalog.explain advisor id code).1 = some explanation ∧
        explanation.symbol = symbol ∧ explanation.calls = catalog.callsOf id ∧
        advisor.Gives
          (fun assistant => assistant.generate (symbol.describingPrompt code) descriptionTokens)
          (fun answer => !code.isEmpty && answer.truthy) (fun answer => (true, answer))
          (false, .str symbol.plainDescription) (explanation.enhanced, explanation.description)) ∧
    (∀ (symbols : List Symbol) (task : String),
      let ranked := (rankSymbols advisor symbols task).1
      (ranked.map Symbol.coreFields).Perm (symbols.map Symbol.coreFields) ∧
        advisor.Gives (fun assistant => assistant.rank (symbols.map Symbol.rankingLine) task)
          (fun answer => (Ranking.byAnswer? symbols answer).isSome)
          (fun answer => (Ranking.byAnswer? symbols answer).getD [])
            (Ranking.byKeywords symbols task) ranked) ∧
    (advisor.isAvailable.1 = true ↔ ∃ assistant state, advisor.Reaches assistant state) := by
  intro catalog
  refine ⟨fun topic kinds bound => ?_,
    fun task bound => catalog.taskContext_gives advisor task bound, fun id code => ?_,
    fun symbols task =>
      ⟨rankSymbols_perm advisor symbols task, rankSymbols_gives advisor symbols task⟩,
    Advisor.isAvailable_iff⟩
  · -- What is found goes back to a candidate, and that to a symbol of the snapshot.
    refine ⟨catalog.length_semanticSearch_le advisor topic bound kinds, fun symbol member => ?_,
      catalog.semanticSearch_gives advisor topic bound kinds,
      catalog.semanticSearch_eq_relevant advisor topic bound kinds⟩
    obtain ⟨origin, candidate, same⟩ :=
      catalog.semanticSearch_origin advisor topic bound kinds member
    obtain ⟨onTopic, ofKind⟩ := Catalog.mem_candidates_iff.mp candidate
    exact ⟨origin, Catalog.mem_snapshot_of_mem_all (Catalog.mem_all_of_mem_byTopic onTopic), same,
      onTopic, ofKind⟩
  · -- Only a known symbol can be explained.
    cases known : catalog.find? id with
    | none => exact .inl ⟨rfl, by simp [Catalog.explain, known]⟩
    | some symbol =>
      obtain ⟨explanation, explained, spec⟩ :=
        @Catalog.explain_gives σ catalog advisor id code symbol known
      exact .inr ⟨symbol, explanation, rfl, explained, spec⟩

/-- An assistant that is there and ranks with a text in place of a record: a search
finds the relevant symbols. -/
theorem advice_degrades_unreadable :
    let snapshot : Snapshot :=
      { symbols := [⟨"a.t:F", "F", "class", "a.t", 1, 1, false, none, []⟩] }
    let assistant : Assistant Unit := {
      prepare := fun state => (.ready, state)
      isAvailable := fun _ => true
      rank := fun _ _ state => (some (.arr [.str "F in a.t"]), state)
      summarize := fun _ _ state => (none, state)
      generate := fun _ _ state => (some (.str "A class."), state)
      close := id }
    let advisor : Advisor Unit :=
      { handle := .ofValue (some assistant), state := (), timeLimit := none }
    let catalog := Catalog.ofSnapshot snapshot
    advisor.isAvailable.1 = true ∧
      (catalog.semanticSearch advisor "f" 3 []).1.map Symbol.id = ["a.t:F"] ∧
      (catalog.semanticSearch advisor "f" 3 []).1 = catalog.relevant "f" 3 [] := by
  intro snapshot assistant advisor catalog
  obtain ⟨search, _, _, _, available⟩ := advice_degrades snapshot advisor
  have found : (catalog.semanticSearch advisor "f" 3 []).1 = catalog.relevant "f" 3 [] := by
    refine (search "f" [] 3).2.2.2 ?_ (by decide)
    -- The only assistant that can be reached gives the one answer, which has no record.
    rintro answer ⟨_, _, ⟨made, _, _, _⟩, answered⟩
    obtain rfl := Option.some.inj made
    obtain rfl := Option.some.inj answered
    rfl
  refine ⟨available.mpr ⟨assistant, (), ⟨rfl, rfl, rfl, rfl⟩⟩, ?_, found⟩
  rw [found]
  decide +kernel

end SourceAtlas
