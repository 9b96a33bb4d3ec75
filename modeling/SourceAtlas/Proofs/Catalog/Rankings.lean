import SourceAtlas.Proofs.Catalog.Attribution

/-! Rankings neither lose nor invent symbols. Whoever judges the symbols, and whatever an assistant
makes of the question, a ranking holds each symbol as often as it was given, and changes nothing of
it but the two fields in which the relevance stands. -/

namespace SourceAtlas

namespace Symbol

/-- A symbol without the fields for its relevance and the reason for it. -/
def withoutRelevance (symbol : Symbol) : Symbol :=
  { symbol with extras := (symbol.extras.erase "relevance_score").erase "relevance_reason" }

/-- Without its relevance a judged symbol is what it was before, except for a
relevance that it had already. -/
private theorem withoutRelevance_withRelevance (symbol : Symbol) (score : Binary64)
    (reason : Json) :
    (symbol.withRelevance score reason).withoutRelevance = symbol.withoutRelevance := by
  -- Each of the two fields goes again once it is the next to be removed.
  have extras : (((symbol.extras.put "relevance_score" (.float score)).put "relevance_reason"
        reason).erase "relevance_score").erase "relevance_reason"
      = (symbol.extras.erase "relevance_score").erase "relevance_reason" := by
    rw [Assoc.erase_comm, Assoc.erase_put, Assoc.erase_comm, Assoc.erase_put]
  simp only [withRelevance, withExtra, withoutRelevance, extras]

end Symbol

/-- A ranking is a permutation of the symbols that are ranked, up to the relevance and the reason
that each of them then carries: with any assistant, which may be missing, fail at any point, or
answer with any value. -/
theorem rankSymbols_keeps_symbols {σ : Type} (advisor : Advisor σ) (symbols : List Symbol)
    (task : String) :
    let ranked := (rankSymbols advisor symbols task).1
    (ranked.map Symbol.withoutRelevance).Perm (symbols.map Symbol.withoutRelevance) ∧
      ∀ symbol ∈ ranked, ∃ score reason,
        symbol.extras.get? "relevance_score" = some (.float score) ∧
        symbol.extras.get? "relevance_reason" = some reason := by
  intro ranked
  -- A ranking gives each symbol a relevance and a reason of its own, and arranges them anew.
  have arranged : Ranking.Rearranges symbols ranked := rankSymbols_rearranges advisor symbols task
  constructor
  · exact arranged.perm_map Symbol.withoutRelevance_withRelevance
  · -- Everything in the ranking is a symbol that has been given both fields.
    intro symbol member
    obtain ⟨score, reason, perm⟩ := arranged
    obtain ⟨origin, _, rfl⟩ := List.mem_map.mp (perm.mem_iff.mp member)
    exact ⟨score origin, reason origin, origin.get?_withRelevance _ _⟩

/-- Two equal symbols that have been ranked before are both ranked again, by an
answer with no number in it. -/
theorem rankSymbols_keeps_twins :
    let twin : Symbol := ⟨"a.t:F", "F", "class", "a.t", 1, 1, false, none,
      [("relevance_score", .int 7), ("note", .str "kept")]⟩
    let answer : Json := .arr [.obj [("path", .str "F in a.t"), ("relevance", .str "high")]]
    let ranked := (rankSymbols (.answering answer) [twin, twin] "f").1
    ranked.map Symbol.withoutRelevance
        = List.replicate 2 { twin with extras := [("note", .str "kept")] } ∧
      ∃ symbol ∈ ranked, (symbol.extras.get? "relevance_score").isSome = true ∧
        (symbol.extras.get? "relevance_reason").isSome = true := by
  intro twin answer ranked
  -- What is left without the relevance is the same for both twins.
  obtain ⟨kept, carried⟩ := rankSymbols_keeps_symbols (.answering answer) [twin, twin] "f"
  have both : ranked.map Symbol.withoutRelevance
      = List.replicate 2 { twin with extras := [("note", .str "kept")] } :=
        List.perm_replicate.mp kept
  refine ⟨both, ?_⟩
  -- There are two symbols in the ranking, so there is a first.
  have some : ranked ≠ [] := by
    intro none
    rw [none] at both
    cases both
  obtain ⟨symbol, member⟩ := List.exists_mem_of_ne_nil ranked some
  obtain ⟨score, reason, isScore, isReason⟩ := carried symbol member
  exact ⟨symbol, member, by rw [isScore]; rfl, by rw [isReason]; rfl⟩

end SourceAtlas
