import SourceAtlas.Proofs.Catalog.Degradation
import SourceAtlas.Proofs.Catalog.Lookups
import SourceAtlas.Proofs.Outline.Exports

/-! Whom the items of a ranking are taken for. Items come back with the descriptions that were sent,
and a symbol is found in a description by its name and its file. So an item reaches the symbol that
it is meant for exactly when no other symbol is found there first. -/

namespace SourceAtlas

/-! ## Replies -/

/-- An item of a ranking with the symbol that it is meant for and the relevance that it gives. -/
structure Judgement where
  symbol : Symbol
  item : Json
  score : Binary64

namespace Judgement

/-- The item is a record with the description of the symbol as its path and a
number as its relevance. -/
structure Fits (describe : Symbol → String) (judgement : Judgement) : Prop where
  path : ∃ fields, judgement.item = .obj fields ∧
    Assoc.get? fields "path" = some (.str (describe judgement.symbol))
  -- Numbers are doubles, or integers that a double can stand for.
  relevance : judgement.item.fieldOrNull "relevance" = .float judgement.score ∨
    ∃ value, judgement.item.fieldOrNull "relevance" = .int value ∧
    Binary64.ofInt? value = some judgement.score

/-- The symbol with the relevance and the reason that are meant for it. -/
def ranked (judgement : Judgement) : Symbol :=
  judgement.symbol.withRelevance judgement.score (judgement.item.fieldOrNull "reason")

variable {describe : Symbol → String} {judgement : Judgement}

/-- The path of a fitting item is the description of its symbol. -/
theorem Fits.path?_eq (fits : judgement.Fits describe) :
    Verdict.path? judgement.item = some (describe judgement.symbol) := by
  -- The item is a record, and its path is a text.
  obtain ⟨fields, isRecord, isPath⟩ := fits.path
  rw [isRecord, Verdict.path?, isPath]
  rfl

/-- The relevance of a fitting item is its score. -/
theorem Fits.relevance?_eq (fits : judgement.Fits describe) (default : Binary64) :
    Verdict.relevance? default judgement.item = some judgement.score := by
  -- A number is read as it is, so the default does not come into it.
  unfold Verdict.relevance?
  rcases fits.relevance with isFloat | ⟨value, isInt, isScore⟩
  · rw [isFloat]
  · rw [isInt]
    exact isScore

/-- A fitting item is no empty record. -/
theorem Fits.truthy (fits : judgement.Fits describe) : judgement.item.truthy = true := by
  obtain ⟨fields, isRecord, isPath⟩ := fits.path
  rw [isRecord]
  -- It has a path, so it has a field.
  cases fields with
  | nil => cases isPath
  | cons entry fields => rfl

end Judgement

/-- A reply has one fitting item for each of some symbols, in any order. -/
structure RepliesTo (describe : Symbol → String) (symbols : List Symbol) (reply : List Judgement) :
    Prop where
  meant : (reply.map Judgement.symbol).Perm symbols
  fits : ∀ judgement ∈ reply, judgement.Fits describe

/-- The answer that a reply is sent as. -/
def answerOf (reply : List Judgement) : Json :=
  .arr (reply.map Judgement.item)

/-- A reply is about the symbols that its items are meant for. -/
theorem RepliesTo.mem_iff {describe : Symbol → String} {symbols : List Symbol}
    {reply : List Judgement} (replies : RepliesTo describe symbols reply) {symbol : Symbol} :
    symbol ∈ symbols ↔ ∃ judgement ∈ reply, judgement.symbol = symbol := by
  -- The items are one for each symbol, only arranged anew.
  rw [← replies.meant.mem_iff, List.mem_map]

/-! ## Descriptions -/

namespace Symbol

/-- A description that leads with the kind and the name, and ends with the
place, mentions its symbol. -/
private theorem isMentioned_described (symbol : Symbol) (between behind : String) :
    symbol.isMentioned (symbol.kind ++ ":" ++ symbol.name ++ between ++ symbol.location ++ behind)
      = true := by
  -- The name stands behind the kind, and the place starts with the file.
  rw [isMentioned, Bool.and_eq_true, hasPart_iff, hasPart_iff]
  constructor
  · exact ⟨(symbol.kind ++ ":").toList, (between ++ symbol.location ++ behind).toList, by simp⟩
  · refine ⟨(symbol.kind ++ ":" ++ symbol.name ++ between).toList,
      (":" ++ String.ofList (Json.intChars symbol.startLine) ++ behind).toList, ?_⟩
    simp [location]

/-- The line of a search mentions its symbol. -/
theorem isMentioned_searchLine (symbol : Symbol) : symbol.isMentioned symbol.searchLine = true := by
  -- The line ends with the place.
  have own := symbol.isMentioned_described " in " ""
  rwa [String.append_empty] at own

/-- The line of a ranking mentions its symbol. -/
private theorem isMentioned_rankingLine (symbol : Symbol) :
    symbol.isMentioned symbol.rankingLine = true :=
  symbol.isMentioned_described " (" ")"

/-- A judged symbol carries its relevance and the reason for it. -/
theorem get?_withRelevance (symbol : Symbol) (score : Binary64) (reason : Json) :
    (symbol.withRelevance score reason).extras.get? "relevance_score" = some (.float score) ∧
      (symbol.withRelevance score reason).extras.get? "relevance_reason" = some reason := by
  -- The two fields are put one after the other under different keys.
  simp [withRelevance, withExtra, Assoc.get?_put]

/-- What a relevance is given to can be told from the result, and so can the relevance. -/
private theorem withRelevance_inj {symbol other : Symbol} {score otherScore : Binary64}
    {reason otherReason : Json}
    (same : symbol.withRelevance score reason = other.withRelevance otherScore otherReason) :
    symbol.coreFields = other.coreFields ∧ score = otherScore := by
  -- The relevance stands in an extra field, so the common fields are those of the symbol.
  have core : (symbol.withRelevance score reason).coreFields
      = (other.withRelevance otherScore otherReason).coreFields := by rw [same]
  have scores := (get?_withRelevance symbol score reason).1.symm.trans
    (same ▸ (get?_withRelevance other otherScore otherReason).1)
  exact ⟨core, by simpa using scores⟩

end Symbol

/-- Among some symbols, the description of each mentions one first. -/
private theorem exists_firstMentioned {describe : Symbol → String}
    (own : ∀ symbol : Symbol, symbol.isMentioned (describe symbol) = true) {symbols : List Symbol}
    {symbol : Symbol} (member : symbol ∈ symbols) :
    ∃ taker ∈ symbols, firstMentioned symbols (describe symbol) = some taker := by
  have found : (firstMentioned symbols (describe symbol)).isSome = true := by
    -- There is one to be found, since the description mentions its own symbol.
    rw [firstMentioned, List.find?_isSome]
    exact ⟨symbol, member, own symbol⟩
  obtain ⟨taker, isTaker⟩ := Option.isSome_iff_exists.mp found
  exact ⟨taker, List.mem_of_find?_eq_some isTaker, isTaker⟩

/-- Each of some symbols is the first that its own description mentions, exactly when no description
mentions a symbol that stands earlier. -/
theorem firstMentioned_own_iff {describe : Symbol → String}
    (own : ∀ symbol : Symbol, symbol.isMentioned (describe symbol) = true) {symbols : List Symbol}
    (distinct : symbols.Nodup) :
    (∀ symbol ∈ symbols, firstMentioned symbols (describe symbol) = some symbol) ↔
      symbols.Pairwise fun earlier later => earlier.isMentioned (describe later) = false := by
  -- The induction is on the symbols: the first of them is asked before all others.
  induction symbols with
  | nil => simp
  | cons first rest ih =>
    obtain ⟨new, others⟩ := List.nodup_cons.mp distinct
    have ownFirst : firstMentioned (first :: rest) (describe first) = some first := by
      simp [firstMentioned, own first]
    -- A later symbol is found when the first is not mentioned and it is found among the rest.
    have later : ∀ symbol ∈ rest, firstMentioned (first :: rest) (describe symbol) = some symbol ↔
        first.isMentioned (describe symbol) = false ∧
        firstMentioned rest (describe symbol) = some symbol := by
      intro symbol member
      have other : first ≠ symbol := fun same => new (same ▸ member)
      cases mentioned : first.isMentioned (describe symbol) with
      | true => simp [firstMentioned, mentioned, other]
      | false => simp [firstMentioned, mentioned]
    rw [List.pairwise_cons, ← ih others, List.forall_mem_cons]
    constructor
    · rintro ⟨_, found⟩
      exact ⟨fun symbol member => ((later symbol member).mp (found symbol member)).1,
        fun symbol member => ((later symbol member).mp (found symbol member)).2⟩
    · rintro ⟨unmentioned, found⟩
      exact ⟨ownFirst, fun symbol member =>
        (later symbol member).mpr ⟨unmentioned symbol member, found symbol member⟩⟩

/-! ## An assistant with a fixed answer -/

/-- An assistant that is there at once and always gives the same ranking. -/
def Advisor.answering (answer : Json) : Advisor Unit where
  handle := .ofValue (some {
    prepare := fun state => (.ready, state)
    isAvailable := fun _ => true
    rank := fun _ _ state => (some answer, state)
    summarize := fun _ _ state => (none, state)
    generate := fun _ _ state => (none, state)
    close := id })
  state := ()
  timeLimit := none

/-- The assistant with a fixed answer gives it to every ranking. -/
theorem Advisor.answering_answers (answer : Json) (lines : List String) (task : String) :
    (answering answer).Answers (fun assistant => assistant.rank lines task) answer :=
  ⟨_, (), ⟨rfl, rfl, rfl, rfl⟩, rfl⟩

/-! ## Searches -/

/-- Lists of one length come to nothing at the same bounds. -/
theorem takeSigned_eq_nil {α β : Type} {items : List α} {others : List β} {bound : Int}
    (same : items.length = others.length) (nothing : takeSigned bound items = []) :
    takeSigned bound others = [] := by
  -- A bound is turned into a count by the length alone.
  rw [takeSigned, List.take_eq_nil_iff] at nothing ⊢
  rw [← same]
  rcases nothing with none | empty
  · exact .inl none
  · exact .inr (List.eq_nil_of_length_eq_zero (by rw [← same, empty, List.length_nil]))

namespace Catalog

/-- Every symbol of the catalog of a snapshot has an identifier of its own. -/
theorem nodup_ids_ofSnapshot (snapshot : Snapshot) :
    ((ofSnapshot snapshot).all.map Symbol.id).Nodup := by
  -- Symbols stand under their identifiers, and there is one entry for each.
  have keyed : ∀ (symbols : List Symbol) (catalog : Catalog), catalog.symbols.keys.Nodup →
      (∀ entry ∈ catalog.symbols, entry.1 = entry.2.id) →
      (symbols.foldl add catalog).symbols.keys.Nodup ∧
        ∀ entry ∈ (symbols.foldl add catalog).symbols, entry.1 = entry.2.id := by
    intro symbols
    induction symbols with
    | nil => exact fun _ distinct own => ⟨distinct, own⟩
    | cons symbol symbols ih =>
      intro catalog distinct own
      apply ih (catalog.add symbol) (Assoc.nodup_keys_put distinct symbol.id symbol)
      intro entry member
      rcases Assoc.mem_put member with old | rfl
      · exact own entry old
      · rfl
  obtain ⟨distinct, own⟩ :=
    keyed snapshot.symbols { references := snapshot.references } (by simp) (by simp)
  have isKeys : (ofSnapshot snapshot).all.map Symbol.id = (ofSnapshot snapshot).symbols.keys := by
    rw [all, Assoc.values, List.map_map, Assoc.keys]
    exact List.map_congr_left fun entry member => (own entry member).symm
  rw [isKeys]
  exact distinct

/-- The symbols of a topic have identifiers of their own. -/
theorem nodup_ids_byTopic (snapshot : Snapshot) (topic : String) :
    (((ofSnapshot snapshot).byTopic topic).map Symbol.id).Nodup := by
  -- Sorting by words arranges some of the symbols anew.
  rw [byTopic_eq]
  apply ((List.mergeSort_perm _ _).map Symbol.id).nodup_iff.mpr
  exact (List.filter_sublist.map Symbol.id).nodup (nodup_ids_ofSnapshot snapshot)

/-- The candidates for a topic have identifiers of their own. -/
theorem nodup_ids_candidates (snapshot : Snapshot) (topic : String) (kinds : List String) :
    (((ofSnapshot snapshot).candidates topic kinds).map Symbol.id).Nodup := by
  have byTopic := nodup_ids_byTopic snapshot topic
  -- Kinds leave out some of the symbols of the topic.
  unfold candidates
  split
  · exact byTopic
  · exact (List.filter_sublist.map Symbol.id).nodup byTopic

end Catalog

/-- Rows that can be made of all items are made of their list. -/
private theorem mapM_eq_some_map {α β : Type} {row : α → Option β} {value : α → β} {items : List α}
    (one : ∀ item ∈ items, row item = some (value item)) :
    items.mapM row = some (items.map value) := by
  -- Item by item there is a row.
  induction items with
  | nil => rfl
  | cons item items ih =>
    rw [List.forall_mem_cons] at one
    rw [List.mapM_cons, one.1, ih one.2]
    rfl

section Replies

variable {σ : Type} {advisor : Advisor σ} {symbols : List Symbol} {reply : List Judgement}
  {describe : Symbol → String}

/-- The symbol that an item of a reply is taken for: the first one that its description mentions. -/
def Judgement.taker (symbols : List Symbol) (describe : Symbol → String) (judgement : Judgement) :
    Symbol :=
  (firstMentioned symbols (describe judgement.symbol)).getD judgement.symbol

/-- All of a reply is read, and each item is given to the symbol that it is taken for. -/
private theorem mentioned?_answerOf
    (own : ∀ symbol : Symbol, symbol.isMentioned (describe symbol) = true)
    (replies : RepliesTo describe symbols reply) :
    mentioned? symbols (answerOf reply) = some (reply.map fun judgement =>
      rankedBy judgement.item (judgement.taker symbols describe) judgement.score) := by
  -- Each item makes a row with one symbol, since its description mentions at least its own.
  have row : ∀ judgement ∈ reply, Verdict.row? (firstMentioned symbols) rankedBy judgement.item
      = some [rankedBy judgement.item (judgement.taker symbols describe) judgement.score] := by
    intro judgement member
    have listed : judgement.symbol ∈ symbols := replies.mem_iff.mpr ⟨judgement, member, rfl⟩
    obtain ⟨taker, _, found⟩ := exists_firstMentioned own listed
    have fits := replies.fits judgement member
    simp [Verdict.row?, fits.path?_eq, fits.relevance?_eq, found, Judgement.taker]
  have rows : (reply.map Judgement.item).mapM (Verdict.row? (firstMentioned symbols) rankedBy)
      = some (reply.map fun judgement =>
        [rankedBy judgement.item (judgement.taker symbols describe) judgement.score]) := by
    rw [List.mapM_map]
    exact mapM_eq_some_map row
  rw [mentioned?_eq, Verdict.collect?, answerOf, Verdict.items?, Option.bind_eq_bind,
    Option.bind_some, rows, Option.bind_eq_bind, Option.bind_some, ← List.flatMap_def,
    ← List.map_eq_flatMap]
  rfl

/-- A search gives the items of a reply to the symbols that they are taken for, as
many as are asked for. -/
theorem Catalog.semanticSearch_of_reply (catalog : Catalog) {topic : String} {kinds : List String}
    (bound : Int)
    (replies : RepliesTo Symbol.searchLine
      ((catalog.candidates topic kinds).take candidateLimit) reply)
    (answers : advisor.Answers (fun assistant =>
      assistant.rank (((catalog.candidates topic kinds).take candidateLimit).map Symbol.searchLine)
        topic) (answerOf reply)) :
    (catalog.semanticSearch advisor topic bound kinds).1
      = takeSigned bound (reply.map fun judgement =>
        rankedBy judgement.item
          (judgement.taker ((catalog.candidates topic kinds).take candidateLimit)
            Symbol.searchLine) judgement.score) := by
  -- Only the candidates up to the limit are sent and looked at.
  simp only [semanticSearch]
  generalize (catalog.candidates topic kinds).take candidateLimit = candidates at replies answers ⊢
  have sameLength : reply.length = candidates.length := by
    rw [← replies.meant.length_eq, List.length_map]
  by_cases nobody : candidates = []
  · -- Nobody is asked about nothing, and the reply is empty.
    rw [nobody, List.length_nil] at sameLength
    rw [List.eq_nil_of_length_eq_zero sameLength, nobody]
    simp [takeSigned]
  · rw [if_neg (by simpa using nobody), Advisor.ask_eq_some_iff.mpr answers]
    simp only [Option.bind_some, mentioned?_answerOf Symbol.isMentioned_searchLine replies,
      Option.map_some]
    -- When the bound leaves nothing of the reply, it leaves nothing of the candidates either.
    cases nothing : (takeSigned bound (reply.map fun judgement => rankedBy judgement.item
        (judgement.taker candidates Symbol.searchLine) judgement.score)).isEmpty with
    | false => rw [Option.filter_some, nothing, if_pos Bool.not_false, Option.getD_some]
    | true =>
      rw [Option.filter_some, nothing, if_neg (by simp), Option.getD_none]
      rw [List.isEmpty_iff] at nothing
      rw [nothing]
      exact takeSigned_eq_nil (by rw [List.length_map, sameLength]) nothing

/-- The item about a symbol is the first whose description mentions it. -/
private theorem itemFor?_of_fits (fits : ∀ judgement ∈ reply, judgement.Fits describe)
    (symbol : Symbol) :
    Ranking.itemFor? symbol (reply.map Judgement.item)
      = some ((reply.find? fun judgement => symbol.isMentioned (describe judgement.symbol)).map
        Judgement.item) := by
  -- The items are gone through in the order of the reply.
  induction reply with
  | nil => rfl
  | cons judgement reply ih =>
    rw [List.forall_mem_cons] at fits
    have others := ih fits.2
    rw [List.map_cons, Ranking.itemFor?, fits.1.path?_eq]
    cases mentioned : symbol.isMentioned (describe judgement.symbol) with
    | true => simp [mentioned]
    | false => simpa [mentioned] using others

/-- The reason that a ranking shows. -/
def Judgement.shownReason (judgement : Judgement) : Json :=
  let reason := judgement.item.fieldOrNull "reason"
  if reason.truthy then reason else .str "No match"

/-- What a ranking makes of a symbol: it takes the first item whose
description mentions the symbol. -/
def judgedBy (reply : List Judgement) (symbol : Symbol) : Binary64 × Symbol :=
  ((reply.find? fun judgement => symbol.isMentioned judgement.symbol.rankingLine).map
    fun judgement =>
      (judgement.score, symbol.withRelevance judgement.score judgement.shownReason)).getD
    (Ranking.unmentioned, symbol)

/-- Every symbol that a reply is about is mentioned by some item. -/
theorem RepliesTo.exists_giver (replies : RepliesTo Symbol.rankingLine symbols reply)
    {symbol : Symbol} (member : symbol ∈ symbols) : ∃ judgement,
      reply.find? (fun judgement => symbol.isMentioned judgement.symbol.rankingLine)
        = some judgement := by
  -- Its own item mentions the symbol, so the first that does is found.
  obtain ⟨judgement, listed, rfl⟩ := replies.mem_iff.mp member
  rw [← Option.isSome_iff_exists, List.find?_isSome]
  exact ⟨judgement, listed, judgement.symbol.isMentioned_rankingLine⟩

/-- A ranking orders the symbols by what it makes of each of them. -/
private theorem rankSymbols_of_reply {task : String}
    (replies : RepliesTo Symbol.rankingLine symbols reply)
    (answers : advisor.Answers (fun assistant =>
      assistant.rank (symbols.map Symbol.rankingLine) task) (answerOf reply)) :
    (rankSymbols advisor symbols task).1 = mostRelevantFirst (symbols.map (judgedBy reply)) := by
  -- All items fit, so nothing keeps a symbol from being judged.
  have judged : symbols.mapM (Ranking.judge? (reply.map Judgement.item))
      = some (symbols.map (judgedBy reply)) := by
    apply mapM_eq_some_map
    intro symbol member
    obtain ⟨judgement, found⟩ := replies.exists_giver member
    have fits := replies.fits judgement (List.mem_of_find?_eq_some found)
    simp [Ranking.judge?, itemFor?_of_fits replies.fits, judgedBy, found, Option.filter_some,
      fits.truthy, fits.relevance?_eq, Judgement.shownReason]
  by_cases nobody : symbols = []
  · -- There is nothing to order.
    subst nobody
    simp [rankSymbols, mostRelevantFirst_eq_nil_iff.mpr]
  · -- A reply about some symbol is no empty list, so it counts as an answer.
    obtain ⟨symbol, member⟩ := List.exists_mem_of_ne_nil symbols nobody
    obtain ⟨judgement, listed, _⟩ := replies.mem_iff.mp member
    have spoken : (answerOf reply).truthy = true := by
      simpa [answerOf, Json.truthy] using List.ne_nil_of_mem listed
    have ranked : Ranking.byAnswer? symbols (answerOf reply)
        = some (mostRelevantFirst (symbols.map (judgedBy reply))) := by
      rw [Ranking.byAnswer?, spoken]
      simp [answerOf, Verdict.items?, judged, mostRelevantFirst]
    rw [rankSymbols_eq, Advisor.ask_eq_some_iff.mpr answers, Option.bind_some, ranked,
      Option.getD_some]

/-- The symbols of a ranking are those that it was asked about, each as the first item
that mentions it says. -/
theorem mem_rankSymbols_iff {task : String} (replies : RepliesTo Symbol.rankingLine symbols reply)
    (answers : advisor.Answers (fun assistant =>
      assistant.rank (symbols.map Symbol.rankingLine) task) (answerOf reply)) {ranked : Symbol} :
    ranked ∈ (rankSymbols advisor symbols task).1 ↔ ∃ symbol ∈ symbols, ∃ judgement,
      reply.find? (fun judgement => symbol.isMentioned judgement.symbol.rankingLine)
        = some judgement ∧
        symbol.withRelevance judgement.score judgement.shownReason = ranked := by
  -- Ordering changes the places only.
  rw [rankSymbols_of_reply replies answers, mostRelevantFirst,
    ((sortDescending_perm Prod.fst _).map Prod.snd).mem_iff, List.map_map, List.mem_map]
  constructor
  · rintro ⟨symbol, member, rfl⟩
    obtain ⟨judgement, found⟩ := replies.exists_giver member
    exact ⟨symbol, member, judgement, found, by simp [judgedBy, found]⟩
  · rintro ⟨symbol, member, judgement, found, rfl⟩
    exact ⟨symbol, member, by simp [judgedBy, found]⟩

end Replies

/-! ## When scores land -/

/-- The judgement that gives a symbol a relevance and no reason. -/
def Judgement.plain (describe : Symbol → String) (score : Binary64) (symbol : Symbol) : Judgement :=
  ⟨symbol, .obj [("path", .str (describe symbol)), ("relevance", .float score)], score⟩

/-- A plain judgement fits. -/
theorem Judgement.fits_plain (describe : Symbol → String) (score : Binary64) (symbol : Symbol) :
    (plain describe score symbol).Fits describe :=
  ⟨⟨_, rfl, rfl⟩, .inl rfl⟩

/-- A reply that has one symbol first, with the highest relevance, and then others without any. -/
def replyLedBy (describe : Symbol → String) (leader : Symbol) (others : List Symbol) :
    List Judgement :=
  .plain describe Ranking.highest leader :: others.map (.plain describe .zero)

/-- A leader and the others are replied to, each with an item of its own. -/
private theorem repliesTo_replyLedBy (describe : Symbol → String) {symbols others : List Symbol}
    {leader : Symbol} (arranged : (leader :: others).Perm symbols) :
    RepliesTo describe symbols (replyLedBy describe leader others) := by
  -- The items are made for the symbols in this order.
  have isMeant : (replyLedBy describe leader others).map Judgement.symbol = leader :: others := by
    simp [replyLedBy, Judgement.plain, Function.comp_def]
  refine ⟨isMeant ▸ arranged, List.forall_mem_cons.mpr
    ⟨Judgement.fits_plain .., fun judgement listed => ?_⟩⟩
  obtain ⟨_, _, rfl⟩ := List.mem_map.mp listed
  exact Judgement.fits_plain ..

/-- In a ranking no symbol that the description of the leader mentions gets less than the leader. -/
private theorem not_mem_ranking_of_leader {σ : Type} {advisor : Advisor σ}
    {symbols others : List Symbol} {leader symbol : Symbol} {task : String} {reason : Json}
    (replies : RepliesTo Symbol.rankingLine symbols (replyLedBy Symbol.rankingLine leader others))
    (answers : advisor.Answers (fun assistant =>
      assistant.rank (symbols.map Symbol.rankingLine) task)
        (answerOf (replyLedBy Symbol.rankingLine leader others)))
    (mentioned : symbol.isMentioned leader.rankingLine = true) :
    symbol.withRelevance .zero reason ∉ (rankSymbols advisor symbols task).1 := by
  intro ranked
  obtain ⟨namesake, _, judgement, found, same⟩ := (mem_rankSymbols_iff replies answers).mp ranked
  obtain ⟨core, isZero⟩ := Symbol.withRelevance_inj same
  -- What was ranked has the name and the file of the symbol, so the first item mentions it too.
  have mentions : namesake.isMentioned leader.rankingLine = true := by
    simp only [Symbol.coreFields, List.cons.injEq, Prod.mk.injEq, Json.str.injEq] at core
    obtain ⟨_, ⟨_, sameName⟩, _, ⟨_, sameFile⟩, _⟩ := core
    rw [← mentioned, Symbol.isMentioned, Symbol.isMentioned, sameName, sameFile]
  have isFirst : Judgement.plain Symbol.rankingLine Ranking.highest leader = judgement := by
    rw [replyLedBy, List.find?_cons_of_pos] at found
    · exact Option.some.inj found
    · exact mentions
  -- So its relevance would have to be the highest and none at once.
  have isHighest : Ranking.highest = .zero := by
    rw [← isFirst] at isZero
    exact isZero
  exact absurd isHighest (by decide +kernel)

/-- Whatever assistant replies to a search, the candidates come back in the order of the reply, as
many as are asked for, each with the relevance and the reason that are meant for it. -/
def Catalog.SearchLands (catalog : Catalog) (topic : String) (kinds : List String) : Prop :=
  let candidates := (catalog.candidates topic kinds).take candidateLimit
  ∀ (σ : Type) (advisor : Advisor σ) (reply : List Judgement) (bound : Int),
    RepliesTo Symbol.searchLine candidates reply →
    advisor.Answers (fun assistant => assistant.rank (candidates.map Symbol.searchLine) topic)
      (answerOf reply) →
    (catalog.semanticSearch advisor topic bound kinds).1
      = takeSigned bound (reply.map Judgement.ranked)

/-- Whatever assistant replies to a ranking, each symbol gets the relevance that is meant for it. -/
def RankingLands (symbols : List Symbol) (task : String) : Prop :=
  ∀ (σ : Type) (advisor : Advisor σ) (reply : List Judgement),
    RepliesTo Symbol.rankingLine symbols reply →
    advisor.Answers (fun assistant => assistant.rank (symbols.map Symbol.rankingLine) task)
      (answerOf reply) →
    ∀ judgement ∈ reply, ∃ reason,
      judgement.symbol.withRelevance judgement.score reason ∈ (rankSymbols advisor symbols task).1

/-- Every reply to a search lands, exactly when the description of no candidate
mentions an earlier one. -/
theorem searchLands_iff (snapshot : Snapshot) (topic : String) (kinds : List String) :
    (Catalog.ofSnapshot snapshot).SearchLands topic kinds ↔
      (((Catalog.ofSnapshot snapshot).candidates topic kinds).take candidateLimit).Pairwise
        fun earlier later => earlier.isMentioned later.searchLine = false := by
  let catalog := Catalog.ofSnapshot snapshot
  let candidates := (catalog.candidates topic kinds).take candidateLimit
  -- Candidates can be told by their identifiers, which a relevance leaves as they are.
  have ids : (candidates.map Symbol.id).Nodup :=
    ((List.take_sublist _ _).map Symbol.id).nodup
      (Catalog.nodup_ids_candidates snapshot topic kinds)
  have distinct : candidates.Nodup :=
    List.Pairwise.of_map Symbol.id (fun _ _ other same => other (congrArg Symbol.id same)) ids
  rw [← firstMentioned_own_iff Symbol.isMentioned_searchLine distinct]
  constructor
  · -- One reply is enough: all candidates in their order, with the same relevance.
    intro lands candidate member
    let reply := candidates.map (Judgement.plain Symbol.searchLine .zero)
    have replies : RepliesTo Symbol.searchLine candidates reply := by
      refine ⟨?_, fun judgement listed => ?_⟩
      · simp [reply, Judgement.plain, Function.comp_def]
      · obtain ⟨symbol, _, rfl⟩ := List.mem_map.mp listed
        exact Judgement.fits_plain Symbol.searchLine .zero symbol
    have answers :=
      Advisor.answering_answers (answerOf reply) (candidates.map Symbol.searchLine) topic
    have result := lands Unit _ reply reply.length replies answers
    have whole : ∀ view : Judgement → Symbol,
        takeSigned reply.length (reply.map view) = reply.map view := by
      intro view
      rw [takeSigned_natCast, List.take_of_length_le (by simp)]
    rw [catalog.semanticSearch_of_reply reply.length replies answers, whole, whole,
      List.map_inj_left] at result
    -- The item of a candidate has been given to a candidate with its identifier, which is itself.
    obtain ⟨taker, listed, isTaker⟩ := exists_firstMentioned Symbol.isMentioned_searchLine member
    have given : taker.withRelevance .zero .null = candidate.withRelevance .zero .null := by
      have given := result _ (List.mem_map_of_mem member)
      rwa [Judgement.taker,
        show firstMentioned candidates
          (Judgement.plain Symbol.searchLine .zero candidate).symbol.searchLine
          = _ from isTaker] at given
    have sameId : (taker.withRelevance .zero .null).id
        = (candidate.withRelevance .zero .null).id := by rw [given]
    rw [isTaker, eq_of_nodup_map ids listed member sameId]
  · -- Each item is taken for its own symbol.
    intro found σ advisor reply bound replies answers
    rw [catalog.semanticSearch_of_reply bound replies answers]
    congr 1
    apply List.map_congr_left
    intro judgement listed
    have isTaker := found judgement.symbol (replies.mem_iff.mpr ⟨judgement, listed, rfl⟩)
    have taker : judgement.taker candidates Symbol.searchLine = judgement.symbol := by
      rw [Judgement.taker, isTaker, Option.getD_some]
    rw [taker]
    rfl

/-- Every reply to a ranking lands, exactly when the description of no symbol mentions another. -/
theorem rankingLands_iff {symbols : List Symbol} (distinct : (symbols.map Symbol.rankingLine).Nodup)
    (task : String) :
    RankingLands symbols task ↔
      ∀ symbol ∈ symbols, ∀ other ∈ symbols, symbol.isMentioned other.rankingLine = true →
        symbol = other := by
  constructor
  · -- One reply is enough: the symbol that mentions another comes first, with a
    -- relevance of its own.
    intro lands symbol member other otherMember mentioned
    apply Classical.byContradiction
    intro differ
    obtain ⟨front, back, isSplit⟩ := List.append_of_mem otherMember
    have arranged : (other :: (front ++ back)).Perm symbols := by
      rw [isSplit]
      exact List.perm_middle.symm
    have rest : symbol ∈ front ++ back := by
      rw [← arranged.mem_iff, List.mem_cons] at member
      exact member.resolve_left differ
    have replies := repliesTo_replyLedBy Symbol.rankingLine arranged
    have answers := Advisor.answering_answers
      (answerOf (replyLedBy Symbol.rankingLine other (front ++ back)))
        (symbols.map Symbol.rankingLine) task
    obtain ⟨reason, ranked⟩ :=
      lands Unit _ _ replies answers _ (List.mem_cons_of_mem _ (List.mem_map_of_mem rest))
    exact not_mem_ranking_of_leader replies answers mentioned ranked
  · -- The first item that mentions a symbol is its own.
    intro apart σ advisor reply replies answers judgement listed
    have member : judgement.symbol ∈ symbols := replies.mem_iff.mpr ⟨judgement, listed, rfl⟩
    obtain ⟨giver, found⟩ := replies.exists_giver member
    have giverListed := List.mem_of_find?_eq_some found
    have same : judgement.symbol = giver.symbol :=
      apart _ member _ (replies.mem_iff.mpr ⟨giver, giverListed, rfl⟩)
        (by simpa using List.find?_some found)
    -- Distinct descriptions belong to distinct symbols, and there is one item for each.
    -- Distinct descriptions come from distinct symbols.
    have symbolsDistinct : (reply.map Judgement.symbol).Nodup :=
      replies.meant.nodup_iff.mpr
        (List.Pairwise.of_map Symbol.rankingLine (fun _ _ differ equal => differ (congrArg _ equal))
          distinct)
    obtain rfl := eq_of_nodup_map symbolsDistinct listed giverListed same
    exact ⟨_, (mem_rankSymbols_iff replies answers).mpr ⟨_, member, _, found, rfl⟩⟩

/-- Scores land on the symbols that they were given for, in every search and every ranking of
symbols with distinct descriptions, exactly when no description mentions a symbol other than its
own: for a search, one that stands earlier among the candidates, and for a ranking, any one. -/
theorem scores_land_iff (snapshot : Snapshot) (topic : String) (kinds : List String)
    (symbols : List Symbol) (task : String) (distinct : (symbols.map Symbol.rankingLine).Nodup) :
    ((Catalog.ofSnapshot snapshot).SearchLands topic kinds ↔
      (((Catalog.ofSnapshot snapshot).candidates topic kinds).take candidateLimit).Pairwise
        fun earlier later => earlier.isMentioned later.searchLine = false) ∧
    (RankingLands symbols task ↔
      ∀ symbol ∈ symbols, ∀ other ∈ symbols, symbol.isMentioned other.rankingLine = true →
        symbol = other) :=
  ⟨searchLands_iff snapshot topic kinds, rankingLands_iff distinct task⟩

/-- Symbols that have equally many words of a topic are its candidates in their order. -/
theorem Catalog.candidates_of_equal_scores {snapshot : Snapshot} {topic : String} {score : Nat}
    (distinct : (snapshot.symbols.map Symbol.id).Nodup) (positive : 0 < score)
    (equal : ∀ symbol ∈ snapshot.symbols, symbol.topicScore (topicWords topic) = score) :
    (ofSnapshot snapshot).candidates topic [] = snapshot.symbols := by
  -- Nothing is left out, and equal scores leave nothing to rearrange.
  have kept : snapshot.symbols.filter (fun symbol =>
      decide (symbol.topicScore (topicWords topic) > 0))
      = snapshot.symbols := by
    rw [List.filter_eq_self]
    intro symbol member
    rw [equal symbol member]
    exact decide_eq_true positive
  rw [candidates, if_pos List.isEmpty_nil, byTopic_eq, all_ofSnapshot distinct, kept]
  apply List.mergeSort_of_pairwise
  apply List.pairwise_of_forall_mem_list
  intro first member second other
  rw [equal first member, equal second other]
  exact decide_eq_true (Nat.le_refl score)

/-- Two names of which one goes on from the other do no harm in different files. -/
theorem scores_land_iff_in_files :
    let foo : Symbol := ⟨"a.js:foo", "foo", "function", "a.js", 1, 1, false, none, []⟩
    let fooBar : Symbol := ⟨"b.js:fooBar", "fooBar", "function", "b.js", 2, 2, false, none, []⟩
    (Catalog.ofSnapshot { symbols := [foo, fooBar] }).SearchLands "foo" [] ∧
    RankingLands [foo, fooBar] "foo" := by
  intro foo fooBar
  -- Both names have the one word of the topic.
  have candidates : (Catalog.ofSnapshot { symbols := [foo, fooBar] }).candidates "foo" []
      = [foo, fooBar] :=
    @Catalog.candidates_of_equal_scores { symbols := [foo, fooBar] } "foo" 1
      (by decide +kernel) (by decide) (by decide +kernel)
  obtain ⟨search, ranking⟩ :=
    scores_land_iff { symbols := [foo, fooBar] } "foo" [] [foo, fooBar] "foo" (by decide +kernel)
  rw [search, ranking, candidates]
  -- The names are told apart by the files that the lines end with.
  have apart : foo.isMentioned fooBar.searchLine = false ∧
      foo.isMentioned fooBar.rankingLine = false ∧
      fooBar.isMentioned foo.rankingLine = false := by decide +kernel
  constructor
  · simp [candidateLimit, apart.1]
  · simp [apart.2.1, apart.2.2]

/-- In one file the longer name is taken for the shorter one: a search gives both items to the same
symbol, and a ranking gives both symbols the relevance of one item. -/
theorem items_given_to_shorter_name :
    let foo : Symbol := ⟨"a.js:foo", "foo", "function", "a.js", 1, 1, false, none, []⟩
    let fooBar : Symbol := ⟨"a.js:fooBar", "fooBar", "function", "a.js", 2, 2, false, none, []⟩
    let catalog := Catalog.ofSnapshot { symbols := [foo, fooBar] }
    let reply := replyLedBy Symbol.searchLine fooBar [foo]
    RepliesTo Symbol.searchLine ((catalog.candidates "foo" []).take candidateLimit) reply ∧
      (catalog.semanticSearch (.answering (answerOf reply)) "foo" 20 []).1
        = [foo.withRelevance Ranking.highest .null, foo.withRelevance .zero .null] ∧
      ¬ catalog.SearchLands "foo" [] ∧ ([foo, fooBar].map Symbol.rankingLine).Nodup ∧
      ¬ RankingLands [foo, fooBar] "foo" := by
  intro foo fooBar catalog reply
  -- Both names have the one word of the topic, and the shorter one stands first.
  have isCandidates : (catalog.candidates "foo" []).take candidateLimit = [foo, fooBar] := by
    rw [@Catalog.candidates_of_equal_scores { symbols := [foo, fooBar] } "foo" 1 (by decide +kernel)
      (by decide) (by decide +kernel)]
    rfl
  -- The longer description mentions the shorter name in the same file.
  have mentioned : foo.isMentioned fooBar.searchLine = true ∧
      foo.isMentioned foo.searchLine = true ∧
      foo.isMentioned fooBar.rankingLine = true := by decide +kernel
  have distinct : ([foo, fooBar].map Symbol.rankingLine).Nodup := by decide +kernel
  have replies : RepliesTo Symbol.searchLine
      ((catalog.candidates "foo" []).take candidateLimit) reply := by
    rw [isCandidates]
    exact repliesTo_replyLedBy Symbol.searchLine (List.Perm.swap ..)
  refine ⟨replies, ?_, ?_, distinct, ?_⟩
  · -- Both items are taken for the shorter name.
    rw [catalog.semanticSearch_of_reply 20 replies (Advisor.answering_answers ..), isCandidates]
    have takers : ∀ score,
        (Judgement.plain Symbol.searchLine score fooBar).taker [foo, fooBar]
          Symbol.searchLine = foo ∧
        (Judgement.plain Symbol.searchLine score foo).taker [foo, fooBar]
          Symbol.searchLine = foo := by
      intro score
      simp [Judgement.taker, Judgement.plain, firstMentioned, mentioned]
    simp only [reply, replyLedBy, List.map_cons, List.map_nil, takers]
    rfl
  · rw [searchLands_iff, isCandidates]
    simp [mentioned]
  · -- Were the ranking to land, the two would be one symbol.
    rw [rankingLands_iff distinct]
    intro apart
    have same : foo = fooBar := apart foo (by simp) fooBar (by simp) mentioned.2.2
    exact absurd (congrArg Symbol.name same) (by decide)

end SourceAtlas
