import SourceAtlas.Catalog.Topic
import SourceAtlas.Proofs.Assoc

/-! What a catalog holds: the symbols of its snapshot, and those of a topic. -/

namespace SourceAtlas.Catalog

/-- Adding symbols one by one brings in those and no others. -/
theorem mem_foldl_add {symbols : List Symbol} {catalog : Catalog} {entry : String × Symbol}
    (member : entry ∈ (symbols.foldl add catalog).symbols) :
    entry ∈ catalog.symbols ∨ entry.2 ∈ symbols := by
  -- The catalog grows with every symbol, so it stays quantified over.
  induction symbols generalizing catalog with
  | nil => exact .inl member
  | cons symbol symbols ih =>
    -- What is there after the first symbol was there before or is that symbol.
    rcases ih member with before | later
    · rcases Assoc.mem_put before with old | rfl
      · exact .inl old
      · exact .inr (by simp)
    · exact .inr (by simp [later])

/-- The symbols that a catalog has are those of its snapshot. -/
theorem mem_snapshot_of_mem_all {snapshot : Snapshot} {symbol : Symbol}
    (member : symbol ∈ (ofSnapshot snapshot).all) : symbol ∈ snapshot.symbols := by
  -- An empty catalog is where the adding starts.
  obtain ⟨entry, listed, rfl⟩ := List.mem_map.mp member
  simpa using mem_foldl_add listed

/-- A score that depends on its item alone need not be carried along when items are sorted by it. -/
private theorem mergeSort_scored {α : Type} (score : α → Nat) (items : List α) :
    (((items.map fun item => (score item, item)).filter fun entry => decide (entry.1 > 0)).mergeSort
        fun first second => decide (first.1 ≥ second.1)).map Prod.snd
      = (items.filter fun item => decide (score item > 0)).mergeSort
        fun first second => decide (score first ≥ score second) := by
  -- Leaving out scores of zero can be done before or after the scores are written down.
  have kept : (items.map fun item => (score item, item)).filter (fun entry => decide (entry.1 > 0))
      = (items.filter fun item => decide (score item > 0)).map fun item => (score item, item) :=
        List.filter_map
  -- Sorting pairs by their first part is sorting items by their score.
  have sorted :
      ((items.filter fun item => decide (score item > 0)).map
          fun item => (score item, item)).mergeSort
        (fun first second => decide (first.1 ≥ second.1))
      = ((items.filter fun item => decide (score item > 0)).mergeSort
        fun first second => decide (score first ≥ score second)).map
        fun item => (score item, item) := by
    symm
    apply List.map_mergeSort
    intro first _ second _
    rfl
  -- Taking the items out of the pairs again leaves the sorted items.
  rw [kept, sorted, List.map_map]
  exact List.map_id _

/-- The symbols of a topic are those with a word of it, sorted by how many they have. -/
theorem byTopic_eq (catalog : Catalog) (topic : String) :
    catalog.byTopic topic = (catalog.all.filter fun symbol =>
      decide (symbol.topicScore (topicWords topic) > 0)).mergeSort fun first second =>
        decide (first.topicScore (topicWords topic) ≥ second.topicScore (topicWords topic)) := by
  -- The score of a symbol depends on the symbol alone.
  unfold byTopic
  generalize topicWords topic = words
  exact mergeSort_scored (fun (symbol : Symbol) => symbol.topicScore words) catalog.all

/-- A symbol belongs to a topic iff it is in the catalog and has a word of the topic. -/
theorem mem_byTopic_iff {catalog : Catalog} {topic : String} {symbol : Symbol} :
    symbol ∈ catalog.byTopic topic ↔
      symbol ∈ catalog.all ∧ 0 < symbol.topicScore (topicWords topic) := by
  -- Sorting neither adds nor loses any.
  rw [byTopic_eq, List.mem_mergeSort, List.mem_filter, decide_eq_true_iff]

/-- The symbols of a topic are symbols of the catalog. -/
theorem mem_all_of_mem_byTopic {catalog : Catalog} {topic : String} {symbol : Symbol}
    (member : symbol ∈ catalog.byTopic topic) : symbol ∈ catalog.all :=
  (mem_byTopic_iff.mp member).1

/-- The candidates for a topic are symbols of it that are of the kinds asked for. -/
theorem mem_candidates_iff {catalog : Catalog} {topic : String} {kinds : List String}
    {symbol : Symbol} :
    symbol ∈ catalog.candidates topic kinds ↔
      symbol ∈ catalog.byTopic topic ∧ (kinds = [] ∨ symbol.kind ∈ kinds) := by
  -- Without kinds there is no filter.
  unfold candidates
  cases kinds with
  | nil => simp
  | cons kind kinds => simp

end SourceAtlas.Catalog
