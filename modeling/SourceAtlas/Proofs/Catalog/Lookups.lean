import SourceAtlas.Catalog.Summary
import SourceAtlas.Proofs.Assoc

/-! The arrangements of a catalog answer like plain scans over the symbols of its snapshot. -/

namespace SourceAtlas

namespace Assoc

variable {α : Type}

/-- Entries list values by key: every list has the values of its key, in the order of the values. -/
structure Groups (keyOf : α → String) (values : List α) (entries : Assoc (List α)) : Prop where
  distinct : entries.keys.Nodup
  lists : ∀ key, (entries.get? key).getD [] = values.filter (keyOf · == key)

variable {keyOf : α → String} {values : List α} {entries : Assoc (List α)}

/-- Nothing is grouped by nothing. -/
theorem groups_nil (keyOf : α → String) : Groups keyOf [] [] :=
  ⟨by simp, by simp⟩

/-- Adding a value under its key keeps the values grouped. -/
theorem Groups.push (groups : Groups keyOf values entries) (value : α) :
    Groups keyOf (values ++ [value]) (entries.push (keyOf value) value) where
  distinct := nodup_keys_put groups.distinct _ _
  lists := by
    -- The list of one key grows by the value, and so do the values with that key.
    intro key
    rw [getD_push, groups.lists key, List.filter_append]
    by_cases same : key = keyOf value
    · simp [same]
    · have other : keyOf value ≠ key := fun equal => same equal.symm
      simp [same, other]

/-- The list of an entry has the values of its key. -/
theorem Groups.list_eq (groups : Groups keyOf values entries) {entry : String × List α}
    (listed : entry ∈ entries) : entry.2 = values.filter (keyOf · == entry.1) := by
  -- Keys are distinct, so the entry is what is found under its key.
  have found : entries.get? entry.1 = some entry.2 := get?_of_mem groups.distinct listed
  have list := groups.lists entry.1
  rwa [found, Option.getD_some] at list

/-- The key of every value has an entry. -/
theorem Groups.mem_keys (groups : Groups keyOf values entries) {value : α}
    (member : value ∈ values) :
    keyOf value ∈ entries.keys := by
  -- Without an entry the list of the key would be empty, but it has the value.
  apply Decidable.byContradiction
  intro missing
  have list := groups.lists (keyOf value)
  rw [get?_eq_none_iff.mpr missing, Option.getD_none] at list
  have none : value ∉ values.filter (keyOf · == keyOf value) := by simp [← list]
  exact none (List.mem_filter.mpr ⟨member, by simp⟩)

/-- The lists of chosen keys, one after the other, are what all lists have under chosen keys. -/
theorem Groups.flatMap_chosen (groups : Groups keyOf values entries) (choose : String → Bool) :
    (entries.flatMap fun entry => if choose entry.1 then entry.2 else [])
      = (entries.flatMap Prod.snd).filter fun value => choose (keyOf value) := by
  -- Both go through the entries, so it is enough to look at one list.
  rw [List.filter_flatMap, List.flatMap_def, List.flatMap_def]
  congr 1
  apply List.map_congr_left
  intro entry listed
  -- All values of a list have its key, so all of them are kept or none is.
  have same : ∀ value ∈ entry.2, choose (keyOf value) = choose entry.1 := by
    intro value member
    rw [groups.list_eq listed, List.mem_filter, beq_iff_eq] at member
    rw [member.2]
  cases chosen : choose entry.1 with
  | true =>
    have all : entry.2.filter (fun value => choose (keyOf value)) = entry.2 := by
      rw [List.filter_eq_self]
      intro value member
      exact (same value member).trans chosen
    simp [all]
  | false =>
    have none : entry.2.filter (fun value => choose (keyOf value)) = [] := by
      rw [List.filter_eq_nil_iff]
      intro value member
      simp [same value member, chosen]
    simp [none]

/-- All lists, one after the other, have the values of a key in the order of the values. -/
theorem Groups.filter_flatMap (groups : Groups keyOf values entries) (key : String) :
    (entries.flatMap Prod.snd).filter (keyOf · == key) = values.filter (keyOf · == key) := by
  rw [← groups.flatMap_chosen (· == key), ← groups.lists key]
  -- Of entries with distinct keys only the one with the key is chosen.
  have distinct := groups.distinct
  clear groups
  induction entries with
  | nil => simp
  | cons entry entries ih =>
    obtain ⟨name, list⟩ := entry
    rw [keys_cons, List.nodup_cons] at distinct
    rw [List.flatMap_cons, ih distinct.2, get?_cons]
    by_cases same : key = name
    · subst same
      simp [get?_eq_none_iff.mpr distinct.1]
    · have other : name ≠ key := fun equal => same equal.symm
      simp [same, other]

/-- Values taken key by key are the values, in another order. -/
private theorem perm_flatMap_filter {keys : List String} (distinct : keys.Nodup) (values : List α)
    (covered : ∀ value ∈ values, keyOf value ∈ keys) :
    (keys.flatMap fun key => values.filter (keyOf · == key)).Perm values := by
  -- The induction is on the keys; what has the first key is split off from the values.
  induction keys generalizing values with
  | nil =>
    have none : values = [] := List.eq_nil_iff_forall_not_mem.mpr fun value member => by
      simpa using covered value member
    simp [none]
  | cons key keys ih =>
    rw [List.nodup_cons] at distinct
    let rest := values.filter fun value => !(keyOf value == key)
    have restCovered : ∀ value ∈ rest, keyOf value ∈ keys := by
      intro value member
      obtain ⟨inside, differs⟩ := List.mem_filter.mp member
      rcases List.mem_cons.mp (covered value inside) with same | later
      · simp [same] at differs
      · exact later
    -- Values with a later key do not have the first one.
    have tail : (keys.flatMap fun other => values.filter (keyOf · == other))
        = keys.flatMap fun other => rest.filter (keyOf · == other) := by
      rw [List.flatMap_def, List.flatMap_def]
      congr 1
      apply List.map_congr_left
      intro other listed
      have differs : other ≠ key := fun same => distinct.1 (same ▸ listed)
      rw [List.filter_filter]
      apply List.filter_congr
      intro value _
      by_cases same : keyOf value = other
      · simp [same, differs]
      · simp [same]
    rw [List.flatMap_cons, tail]
    have others := (ih distinct.2 rest restCovered).append_left (values.filter (keyOf · == key))
    exact others.trans (List.filter_append_perm _ values)

/-- All lists, one after the other, have the values. -/
theorem Groups.perm (groups : Groups keyOf values entries) :
    (entries.flatMap Prod.snd).Perm values := by
  -- An entry has the values of its key, so the lists come key by key.
  have byKey : entries.flatMap Prod.snd
      = entries.keys.flatMap fun key => values.filter (keyOf · == key) := by
    rw [keys, List.flatMap_map, List.flatMap_def, List.flatMap_def]
    congr 1
    apply List.map_congr_left
    intro entry listed
    exact groups.list_eq listed
  rw [byKey]
  exact perm_flatMap_filter groups.distinct values fun value member => groups.mem_keys member

/-- The lengths of all lists add up to the number of values. -/
theorem Groups.sum_lengths (groups : Groups keyOf values entries) :
    (entries.map fun entry => entry.2.length).foldr (· + ·) 0 = values.length := by
  -- The lists are the values in another order.
  rw [← groups.perm.length_eq, List.length_flatMap, List.sum_eq_foldr]

end Assoc

namespace Filter

/-- The test that a pattern stands for; an empty pattern lets everything pass. -/
def patternTest (pattern : String) : Except Pattern.Fault (Symbol → Bool) :=
  if pattern.isEmpty then .ok fun _ => true
  else (Pattern.Expression.parse pattern).map fun expression symbol =>
    expression.finds symbol.name || expression.finds symbol.file

/-- The filters that ask for one thing each, which a filter asks for together. -/
def singles (filter : Filter) : List Filter :=
  [{ name := filter.name }, { kind := filter.kind }, { file := filter.file },
    { exported := filter.exported }, { pattern := filter.pattern }]

/-- Where nothing is asked for everything passes. -/
@[simp] theorem allows_empty (test : Bool) : allows "" test = true := rfl

/-- A text that is asked for is tested. -/
private theorem allows_of_ne {wanted : String} (asked : wanted ≠ "") (test : Bool) :
    allows wanted test = test := by
  -- The text is not empty, so the test is made.
  have full : wanted.isEmpty = false := by simpa using asked
  simp [allows, full]

/-- A symbol passes a filter iff it passes the filters that ask for one thing each. -/
private theorem accepts_iff_singles (filter : Filter) (symbol : Symbol) :
    filter.accepts symbol = true ↔ ∀ single ∈ filter.singles, single.accepts symbol = true := by
  -- The five tests of a filter are made one by one.
  simp [singles, accepts, and_assoc]

end Filter

namespace Catalog

/-- A catalog lists some symbols by file, kind and name, each time in their order. -/
structure Arranges (symbols : List Symbol) (catalog : Catalog) : Prop where
  byFile : Assoc.Groups Symbol.file symbols catalog.byFile
  byKind : Assoc.Groups Symbol.kind symbols catalog.byKind
  byName : Assoc.Groups Symbol.name symbols catalog.byName

/-- One more symbol goes to the end of its lists. -/
theorem Arranges.add {symbols : List Symbol} {catalog : Catalog}
    (arranges : catalog.Arranges symbols) (symbol : Symbol) :
    (catalog.add symbol).Arranges (symbols ++ [symbol]) :=
  ⟨arranges.byFile.push symbol, arranges.byKind.push symbol, arranges.byName.push symbol⟩

/-- Symbols added one by one are listed behind those that were there. -/
theorem Arranges.foldl_add {done : List Symbol} {catalog : Catalog}
    (arranges : catalog.Arranges done) (symbols : List Symbol) :
    (symbols.foldl Catalog.add catalog).Arranges (done ++ symbols) := by
  -- Both the symbols that are there and the catalog grow, so they stay quantified over.
  induction symbols generalizing done catalog with
  | nil => simpa using arranges
  | cons symbol symbols ih => simpa using ih (arranges.add symbol)

/-- The catalog of a snapshot lists its symbols. -/
private theorem arranges_ofSnapshot (snapshot : Snapshot) :
    (ofSnapshot snapshot).Arranges snapshot.symbols := by
  -- An empty catalog lists nothing.
  have start : Arranges [] { references := snapshot.references } :=
    ⟨Assoc.groups_nil _, Assoc.groups_nil _, Assoc.groups_nil _⟩
  simpa [ofSnapshot] using start.foldl_add snapshot.symbols

/-- Symbols with new and distinct identifiers are all kept, in their order. -/
theorem symbols_foldl_add {symbols : List Symbol} {catalog : Catalog}
    (distinct : (catalog.symbols.keys ++ symbols.map Symbol.id).Nodup) :
    (symbols.foldl add catalog).symbols
      = catalog.symbols ++ symbols.map fun symbol => (symbol.id, symbol) := by
  -- The catalog grows with every step, so it stays quantified over.
  induction symbols generalizing catalog with
  | nil => simp
  | cons symbol symbols ih =>
    have fresh : symbol.id ∉ catalog.symbols.keys := by
      intro taken
      rw [List.nodup_append] at distinct
      exact distinct.2.2 symbol.id taken symbol.id (by simp) rfl
    have put : (catalog.add symbol).symbols = catalog.symbols ++ [(symbol.id, symbol)] :=
      Assoc.put_of_not_mem fresh symbol
    have rest := @ih (catalog.add symbol) (by simpa [put] using distinct)
    rw [List.foldl_cons, rest, put]
    simp

/-- The catalog of a snapshot with distinct identifiers has its symbols in order. -/
theorem all_ofSnapshot {snapshot : Snapshot} (distinct : (snapshot.symbols.map Symbol.id).Nodup) :
    (ofSnapshot snapshot).all = snapshot.symbols := by
  -- The adding starts from an empty catalog, so no identifier is taken.
  have kept :=
    @symbols_foldl_add snapshot.symbols { references := snapshot.references }
      (by simpa using distinct)
  rw [all, ofSnapshot, kept]
  simp [Assoc.values, Function.comp_def]

/-- A search is a scan with the test that its filter and its pattern make together. -/
theorem search_eq (catalog : Catalog) (filter : Filter) :
    catalog.search filter = (Filter.patternTest filter.pattern).map fun test =>
      catalog.all.filter fun symbol => filter.accepts symbol && test symbol := by
  -- The pattern is read before anything is looked at, and a pattern that is not there lets all
  -- pass.
  unfold search Filter.patternTest
  cases filter.pattern.isEmpty with
  | true => simp [Except.map, pure, Except.pure]
  | false =>
    cases Pattern.Expression.parse filter.pattern with
    | error fault => rfl
    | ok expression =>
      simp only [Bind.bind, Except.bind, Except.map, pure, Except.pure, Bool.false_eq_true,
        if_false]
      rw [List.filter_filter]
      simp only [Bool.and_comm]

/-- A search without a pattern is a scan with the test that its filter makes. -/
theorem search_of_test (catalog : Catalog) {filter : Filter} {test : Symbol → Bool}
    (plain : filter.pattern = "") (same : ∀ symbol, filter.accepts symbol = test symbol) :
    catalog.search filter = .ok (catalog.all.filter test) := by
  -- An empty pattern adds no test of its own.
  have isTest : (fun symbol => filter.accepts symbol && true) = test := by
    funext symbol
    rw [Bool.and_true, same symbol]
  rw [search_eq, plain]
  exact congrArg (fun check => Except.ok (catalog.all.filter check)) isTest

/-- A search finds a symbol iff the catalog has it and it passes the filter and
the test of the pattern. -/
theorem mem_search_iff {catalog : Catalog} {filter : Filter} {pattern : String}
    {test : Symbol → Bool} (tested : Filter.patternTest pattern = .ok test)
    (isPattern : filter.pattern = pattern) {symbol : Symbol} :
    (∃ part, catalog.search filter = .ok part ∧ symbol ∈ part) ↔
      symbol ∈ catalog.all ∧ filter.accepts symbol = true ∧ test symbol = true := by
  -- What is found is what passes both tests.
  rw [search_eq, isPattern, tested]
  simp [Except.map]

/-- A search for several things fails for its pattern only. What it finds stands in the order of the
catalog and is found by the search for each of the things. -/
private theorem search_singles (catalog : Catalog) (filter : Filter) :
    (∀ fault, catalog.search filter = .error fault ↔
      catalog.search { pattern := filter.pattern } = .error fault) ∧
    ∀ found, catalog.search filter = .ok found → found.Sublist catalog.all ∧
      ∀ symbol, symbol ∈ found ↔
        ∀ single ∈ filter.singles, ∃ part, catalog.search single = .ok part ∧ symbol ∈ part := by
  cases tested : Filter.patternTest filter.pattern with
  | error fault =>
    -- The pattern is read whatever else is asked for.
    simp [search_eq, tested, Except.map]
  | ok test =>
    refine ⟨by simp [search_eq, tested, Except.map], fun found isFound => ?_⟩
    have isScan : catalog.all.filter (fun symbol => filter.accepts symbol && test symbol)
        = found := by
      simpa [search_eq, tested, Except.map] using isFound
    refine ⟨isScan ▸ List.filter_sublist, fun symbol => ?_⟩
    -- Only the last of the single searches has a pattern.
    have plain : Filter.patternTest "" = .ok fun _ => true := rfl
    have inFound : symbol ∈ found ↔ symbol ∈ catalog.all ∧ filter.accepts symbol = true ∧
        test symbol = true := by
      simp [← isScan]
    have byPattern := @mem_search_iff catalog { pattern := filter.pattern } _ _ tested rfl symbol
    rw [inFound, Filter.accepts_iff_singles filter symbol]
    simp only [Filter.singles, List.forall_mem_cons]
    rw [mem_search_iff plain rfl, mem_search_iff plain rfl, mem_search_iff plain rfl,
      mem_search_iff plain rfl, byPattern]
    simp only [List.not_mem_nil, false_implies, implies_true, and_true]
    grind

/-- The symbols whose name has a part in any case are those that a search by the part finds, with
those of one name together and in order. -/
private theorem namedLike_ofSnapshot (snapshot : Snapshot) (part : String) :
    let found := snapshot.symbols.filter fun symbol => hasPart (lower part) (lower symbol.name)
    ((ofSnapshot snapshot).namedLike part false).Perm found ∧
      ∀ name, ((ofSnapshot snapshot).namedLike part false).filter (·.name == name)
        = found.filter (·.name == name) := by
  intro found
  -- The symbols are grouped by name, and whole groups are chosen.
  have groups := (arranges_ofSnapshot snapshot).byName
  have isChosen : (ofSnapshot snapshot).namedLike part false
      = ((ofSnapshot snapshot).byName.flatMap Prod.snd).filter
        fun symbol => hasPart (lower part) (lower symbol.name) :=
    groups.flatMap_chosen fun name => hasPart (lower part) (lower name)
  rw [isChosen]
  refine ⟨groups.perm.filter _, fun name => ?_⟩
  -- Choosing by part and choosing by name can be done in either order.
  have swap : ∀ symbols : List Symbol,
      (symbols.filter fun symbol => hasPart (lower part) (lower symbol.name)).filter
        (·.name == name)
        = (symbols.filter (·.name == name)).filter
          fun symbol => hasPart (lower part) (lower symbol.name) := by
    intro symbols
    rw [List.filter_filter, List.filter_filter]
    simp only [Bool.and_comm]
  rw [swap, groups.filter_flatMap, ← swap]

/-- Whatever was loaded before, a value with distinct identifiers that is loaded is looked up as
plain scans over its symbols say: by kind, by file, by name in whole or in part, and by being
exported. A search for several things finds what each of them finds, and the counts by kind add up.
A value that cannot be loaded changes nothing. -/
theorem lookups_agree (catalog : Catalog) {value : Json} {snapshot : Snapshot}
    (accepted : Snapshot.coerce value = .good snapshot)
    (distinct : (snapshot.symbols.map Symbol.id).Nodup) :
    let loaded := (catalog.load value).2
    let symbols := snapshot.symbols
    (∀ kind, kind ≠ "" → loaded.ofKind kind = symbols.filter (·.kind == kind) ∧
      loaded.search { kind } = .ok (loaded.ofKind kind)) ∧
    (∀ file, loaded.inFile file = symbols.filter (·.file == slashed file)) ∧
    (∀ name, loaded.named name = symbols.filter (·.name == name)) ∧
    (∀ part, part ≠ "" → ∃ found, loaded.search { name := part } = .ok found ∧
      (loaded.namedLike part false).Perm found ∧
      ∀ name, (loaded.namedLike part false).filter (·.name == name)
        = found.filter (·.name == name)) ∧
    (loaded.exported = symbols.filter (·.exported) ∧
      loaded.search { exported := some true } = .ok loaded.exported) ∧
    (∀ filter : Filter,
      (∀ fault, loaded.search filter = .error fault ↔
        loaded.search { pattern := filter.pattern } = .error fault) ∧
      ∀ found, loaded.search filter = .ok found → found.Sublist symbols ∧
        ∀ symbol, symbol ∈ found ↔
          ∀ single ∈ filter.singles, ∃ part, loaded.search single = .ok part ∧ symbol ∈ part) ∧
    ((loaded.summary.byKind.map Prod.snd).foldr (· + ·) 0 = loaded.summary.totalSymbols ∧
      loaded.summary.totalSymbols = symbols.length) ∧
    ∀ refused errors, Snapshot.coerce refused = .bad errors →
      catalog.load refused = (.error errors, catalog) := by
  intro loaded symbols
  -- Once the value is accepted, the catalog is made anew.
  have isLoaded : loaded = ofSnapshot snapshot := by simp [loaded, load, accepted]
  have arranges : loaded.Arranges symbols := isLoaded ▸ arranges_ofSnapshot snapshot
  have all : loaded.all = symbols := isLoaded ▸ all_ofSnapshot distinct
  have total : loaded.summary.totalSymbols = symbols.length := by
    rw [← all, Catalog.all, Assoc.values, List.length_map]
    rfl
  refine ⟨fun kind asked => ?_, fun file => arranges.byFile.lists (slashed file),
    fun name => arranges.byName.lists name, fun part asked => ?_,
    ⟨?_, ?_⟩, fun filter => ?_, ⟨?_, total⟩,
    fun refused errors isBad => by simp [load, isBad]⟩
  · -- The list of a kind is what a scan for the kind finds.
    have ofKind : loaded.ofKind kind = symbols.filter (·.kind == kind) := arranges.byKind.lists kind
    refine ⟨ofKind, ?_⟩
    rw [ofKind, ← all]
    refine loaded.search_of_test rfl fun symbol => ?_
    simp [Filter.accepts, Filter.allows_of_ne asked]
  · -- An empty part is not asked for, so the test for the name is made.
    have search : loaded.search { name := part }
        = .ok (symbols.filter fun symbol => hasPart (lower part) (lower symbol.name)) := by
      rw [← all]
      refine loaded.search_of_test rfl fun symbol => ?_
      simp [Filter.accepts, Filter.allows_of_ne asked]
    exact ⟨_, search, isLoaded ▸ namedLike_ofSnapshot snapshot part⟩
  · rw [exported, all]
  · refine loaded.search_of_test rfl fun symbol => ?_
    simp [Filter.accepts]
  · rw [← all]
    exact loaded.search_singles filter
  · -- Every symbol is in the list of exactly one kind.
    have sum := arranges.byKind.sum_lengths
    rw [total, ← sum]
    simp [summary, Function.comp_def]

/-- Two symbols of one name with another between them, loaded over an older snapshot. -/
theorem lookups_agree_interleaved :
    let record := fun (id name kind file : String) =>
      Json.obj [("id", .str id), ("name", .str name), ("kind", .str kind), ("file", .str file),
        ("start_line", .int 1), ("end_line", .int 1)]
    let value := Json.obj [("symbols", .arr [record "a.t:Rerun" "Rerun" "function" "a.t",
      record "b/c.t:stop" "stop" "class" "b/c.t", record "b/c.t:Rerun" "Rerun" "function" "b/c.t"])]
    let before :=
      ofSnapshot { symbols := [⟨"old.t:run", "run", "function", "old.t", 1, 1, true, none, []⟩] }
    let loaded := (before.load value).2
    loaded.search { kind := "function" } = .ok (loaded.ofKind "function") ∧
      (loaded.ofKind "function").map Symbol.id = ["a.t:Rerun", "b/c.t:Rerun"] ∧
      (loaded.inFile "b\\c.t").map Symbol.id = ["b/c.t:stop", "b/c.t:Rerun"] ∧
      (∃ found, loaded.search { name := "RUN" } = .ok found ∧
        (loaded.namedLike "RUN" false).Perm found) ∧
      (loaded.summary.byKind.map Prod.snd).foldr (· + ·) 0 = 3 := by
  intro record value before loaded
  let snapshot : Snapshot :=
    { symbols := [⟨"a.t:Rerun", "Rerun", "function", "a.t", 1, 1, false, none, []⟩,
        ⟨"b/c.t:stop", "stop", "class", "b/c.t", 1, 1, false, none, []⟩,
        ⟨"b/c.t:Rerun", "Rerun", "function", "b/c.t", 1, 1, false, none, []⟩] }
  -- The value is accepted as it is, with defaults for what it leaves out.
  have accepted : Snapshot.coerce value = .good snapshot := rfl
  obtain ⟨byKind, byFile, _, byPart, _, _, ⟨sum, total⟩, _⟩ :=
    lookups_agree before accepted (by decide)
  obtain ⟨ofKind, search⟩ := byKind "function" (by decide)
  obtain ⟨found, isFound, perm, _⟩ := byPart "RUN" (by decide)
  have kinds := congrArg (List.map Symbol.id) ofKind
  have files := congrArg (List.map Symbol.id) (byFile "b\\c.t")
  refine ⟨search, kinds.trans (by decide), files.trans (by decide), ⟨found, isFound, perm⟩, ?_⟩
  exact sum.trans total

end Catalog

end SourceAtlas
