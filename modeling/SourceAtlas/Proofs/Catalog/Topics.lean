import SourceAtlas.Project
import SourceAtlas.Proofs.Catalog.Attribution
import SourceAtlas.Proofs.Text.Words

/-! Finding symbols by a topic is a stable ranking: the symbols with a word of the topic, each once,
those with more words first, and those with equally many as they stand in the index. -/

namespace SourceAtlas

/-! ## Words in symbols -/

/-- A text occurs in another where that one goes on from some front with it. -/
theorem occursIn_iff {part whole : List Char} : occursIn part whole = true ↔ part <:+: whole := by
  -- Looking for a part in a text goes through the same characters.
  have found := @hasPart_iff (String.ofList part) (String.ofList whole)
  simp only [hasPart, String.toList_ofList] at found
  rw [found]
  constructor
  · rintro ⟨front, back, rfl⟩
    exact ⟨front, back, List.append_assoc ..⟩
  · rintro ⟨front, back, rfl⟩
    exact ⟨front, back, List.append_assoc ..⟩

namespace Symbol

/-- A word occurs in the name, the file and the kind of a symbol, with spaces between
them and in lower case. -/
def HasWord (symbol : Symbol) (word : List Char) : Prop :=
  word <:+: (lower (symbol.name ++ " " ++ symbol.file ++ " " ++ symbol.kind)).toList

instance decidableHasWord (symbol : Symbol) (word : List Char) : Decidable (symbol.HasWord word) :=
  decidable_of_iff (occursIn word symbol.topicText = true) occursIn_iff

/-- How many of some words a symbol has, each counted as often as it is given. -/
def wordsFound (symbol : Symbol) (words : List (List Char)) : Nat :=
  words.countP fun word => decide (symbol.HasWord word)

/-- The score of a symbol is how many of the words it has. -/
private theorem topicScore_eq_wordsFound (symbol : Symbol) (words : List (List Char)) :
    symbol.topicScore words = symbol.wordsFound words := by
  -- Both count the words that pass, by tests that agree.
  unfold topicScore wordsFound
  apply List.countP_congr
  intro word _
  rw [decide_eq_true_iff]
  exact occursIn_iff

end Symbol

/-! ## Sorting by a score -/

section Sorting

variable {α : Type} (score : α → Nat)

/-- Going by the higher score can be chained. -/
private theorem score_trans (first second third : α)
    (one : decide (score first ≥ score second) = true)
    (two : decide (score second ≥ score third) = true) :
    decide (score first ≥ score third) = true := by
  rw [decide_eq_true_iff] at one two ⊢
  omega

/-- Of two scores one is at least the other. -/
private theorem score_total (first second : α) :
    (decide (score first ≥ score second) || decide (score second ≥ score first)) = true := by
  rw [Bool.or_eq_true, decide_eq_true_iff, decide_eq_true_iff]
  omega

/-- Scores do not rise in what is sorted by them. -/
private theorem pairwise_mergeSort_score (items : List α) :
    (items.mergeSort fun first second => decide (score first ≥ score second)).Pairwise
      fun earlier later => score later ≤ score earlier := by
  -- Sorting by a chained and total order gives that order.
  have sorted := List.pairwise_mergeSort (score_trans score) (score_total score) items
  exact sorted.imp fun falls => of_decide_eq_true falls

/-- Items of one score stay in the order in which they stood. -/
private theorem filter_mergeSort_score (items : List α) (value : Nat) :
    (items.mergeSort fun first second => decide (score first ≥ score second)).filter
        (fun item => decide (score item = value))
      = items.filter fun item => decide (score item = value) := by
  let tied := items.filter fun item => decide (score item = value)
  let sorted := items.mergeSort fun first second => decide (score first ≥ score second)
  have equal : ∀ item ∈ tied, score item = value := fun item member =>
    of_decide_eq_true (List.mem_filter.mp member).2
  -- Equal items are in order already, and sorting keeps such a selection as it is.
  have inOrder : tied.Pairwise fun first second => decide (score first ≥ score second) = true := by
    apply List.pairwise_of_forall_mem_list
    intro first member second other
    rw [equal first member, equal second other]
    exact decide_eq_true (Nat.le_refl value)
  have kept : tied.Sublist sorted :=
    List.sublist_mergeSort (score_trans score) (score_total score) inOrder List.filter_sublist
  have selected : tied.Sublist (sorted.filter fun item => decide (score item = value)) := by
    have both := kept.filter fun item => decide (score item = value)
    rwa [List.filter_eq_self.mpr fun item member => decide_eq_true (equal item member)] at both
  -- There are no more of them after sorting than before.
  have asMany : tied.length = (sorted.filter fun item => decide (score item = value)).length :=
    ((List.mergeSort_perm items _).filter _).length_eq.symm
  exact (selected.eq_of_length asMany).symm

end Sorting

/-! ## Symbols of a topic -/

namespace Catalog

/-- The first symbols of a topic are taken from all that are of the kinds asked for. -/
theorem relevant_eq (catalog : Catalog) (topic : String) (bound : Nat) (kinds : List String) :
    catalog.relevant topic bound kinds
      = ((catalog.byTopic topic).filter fun symbol =>
        kinds.isEmpty || kinds.contains symbol.kind).take bound := by
  -- No kinds stand for all kinds.
  rw [relevant, takeSigned_natCast, candidates]
  cases kinds with
  | nil =>
    rw [if_pos List.isEmpty_nil, List.filter_eq_self.mpr]
    simp
  | cons kind kinds => simp

end Catalog

/-- In an index with distinct identifiers, the symbols of a topic are a stable ranking of exactly
those that have a word of it: each of them is found once and no other, scores never rise along the
result, and symbols of equal score keep the order of the index. The relevant symbols are the first
of those that are of the kinds asked for. -/
theorem byTopic_ranks_stably {σ : Type} (project : Project σ) {snapshot : Snapshot} (topic : String)
    (distinct : (snapshot.symbols.map Symbol.id).Nodup) :
    let score := fun (symbol : Symbol) => symbol.wordsFound (topicWords topic)
    let found := (Catalog.ofSnapshot snapshot).byTopic topic
    (∀ words, IsWords (lower topic).toList words ↔ words = topicWords topic) ∧
      (found.map Symbol.id).Nodup ∧
      (∀ symbol, symbol ∈ found ↔ symbol ∈ snapshot.symbols ∧ 0 < score symbol) ∧
      found.Pairwise (fun earlier later => score later ≤ score earlier) ∧
      (∀ value, 0 < value → found.filter (fun symbol => decide (score symbol = value))
        = snapshot.symbols.filter fun symbol => decide (score symbol = value)) ∧
      ∀ (bound : Nat) (kinds : List String),
        (project.withSnapshot snapshot).ask (fun catalog => catalog.relevant topic bound kinds)
          = .ok ((found.filter fun symbol => kinds.isEmpty || kinds.contains symbol.kind).take
            bound) := by
  intro score found
  -- What is sorted by is how many of the words occur.
  have isScore : (fun (symbol : Symbol) => symbol.topicScore (topicWords topic)) = score := by
    funext symbol
    exact symbol.topicScore_eq_wordsFound (topicWords topic)
  have isFound : found = (snapshot.symbols.filter fun symbol => decide (score symbol > 0)).mergeSort
      fun first second => decide (score first ≥ score second) := by
    rw [← isScore, ← Catalog.all_ofSnapshot distinct]
    exact Catalog.byTopic_eq _ topic
  refine ⟨fun words => isWords_iff, Catalog.nodup_ids_byTopic snapshot topic, fun symbol => ?_, ?_,
    fun value positive => ?_, fun bound kinds => ?_⟩
  · -- Sorting keeps the members.
    rw [isFound, List.mem_mergeSort, List.mem_filter, decide_eq_true_iff]
  · rw [isFound]
    exact pairwise_mergeSort_score score _
  · rw [isFound, filter_mergeSort_score, List.filter_filter]
    -- Whatever has this score has a word.
    apply List.filter_congr
    intro symbol _
    rw [Bool.and_eq_left_iff_imp, decide_eq_true_iff, decide_eq_true_iff]
    omega
  · -- The project asks the catalog of its snapshot.
    exact congrArg Except.ok (Catalog.relevant_eq _ topic bound kinds)

/-- A word that is given twice counts twice, and two symbols with one word
each stay as they stand. -/
theorem byTopic_ranks_stably_repeated :
    let load : Symbol :=
      ⟨"src/model.js:load", "load", "function", "src/model.js", 1, 1, false, none, []⟩
    let main : Symbol :=
      ⟨"src/index.js:main", "main", "function", "src/index.js", 1, 1, false, none, []⟩
    let user : Symbol :=
      ⟨"src/models/User.js:User", "User", "class", "src/models/User.js", 1, 9, true, none, []⟩
    let save : Symbol :=
      ⟨"src/model.js:save", "save", "function", "src/model.js", 3, 4, false, none, []⟩
    let snapshot : Snapshot := { symbols := [load, main, user, save] }
    let words := topicWords " User  model USER"
    let found := (Catalog.ofSnapshot snapshot).byTopic " User  model USER"
    words = ["user".toList, "model".toList, "user".toList] ∧
      (found.map Symbol.id).Nodup ∧ main ∉ found ∧
      found.filter (fun symbol => decide (symbol.wordsFound words = 3)) = [user] ∧
      found.filter (fun symbol => decide (symbol.wordsFound words = 1)) = [load, save] := by
  intro load main user save snapshot words found
  -- One of the words is given twice, so it counts twice.
  have scores : load.wordsFound words = 1 ∧ main.wordsFound words = 0 ∧ user.wordsFound words = 3 ∧
      save.wordsFound words = 1 := by decide +kernel
  let project : Project Unit := { indexer := ⟨{}, ⟨[], [], []⟩, none⟩, advisor := .answering .null }
  obtain ⟨_, once, member, _, ties, _⟩ := byTopic_ranks_stably project " User  model USER"
    (show (snapshot.symbols.map Symbol.id).Nodup by decide +kernel)
  refine ⟨by decide +kernel, once, ?_, ?_, ?_⟩
  · -- A symbol without any of the words is not found.
    intro listed
    have some : 0 < main.wordsFound words := ((member main).mp listed).2
    rw [scores.2.1] at some
    exact Nat.lt_irrefl 0 some
  · exact (ties 3 (by decide)).trans (by simp [snapshot, words, scores])
  · exact (ties 1 (by decide)).trans (by simp [snapshot, words, scores])

end SourceAtlas
