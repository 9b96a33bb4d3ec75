import SourceAtlas.Proofs.Catalog.Lookups
import SourceAtlas.Proofs.Index.Fallback
import SourceAtlas.Proofs.Outline.LineReports
import SourceAtlas.Proofs.Project.Coherence
import SourceAtlas.Proofs.Project.History

/-! The code that is shown of a symbol: when lines alone are read, it is the line that
declares the symbol with the lines around it, both after a build and after the stored
snapshot has been loaded. -/

namespace SourceAtlas

/-! ## Numbered lines -/

/-- The lines whose numbers, counted from one, lie between two numbers. -/
def linesBetween {α : Type} (first last : Int) (lines : List α) : List α :=
  -- Numbers below one and behind the last line belong to no line.
  ((lines.zipIdx 1).filter fun entry => decide (first ≤ entry.2 ∧ entry.2 ≤ last)).map Prod.fst

/-- Lines numbered from any start on are chosen by leaving out some in front and some at the end. -/
private theorem numbered_between {α : Type} (first last : Int) (lines : List α) (start : Nat) :
    ((lines.zipIdx start).filter fun entry => decide (first ≤ entry.2 ∧ entry.2 ≤ last)).map
        Prod.fst
      = (lines.take (last + 1 - start).toNat).drop (first - start).toNat := by
  -- The induction is on the lines; the first of them has the number that the others start behind.
  induction lines generalizing start with
  | nil => simp
  | cons line lines ih =>
    have next := ih (start + 1)
    rw [List.zipIdx_cons, List.filter_cons]
    by_cases above : last < start
    · -- All numbers are too large.
      have none : (last + 1 - start).toNat = 0 := by omega
      have noneNext : (last + 1 - (start + 1 : Nat)).toNat = 0 := by omega
      have out : ¬ (first ≤ (start : Int) ∧ (start : Int) ≤ last) := by omega
      rw [noneNext] at next
      simpa [none, out] using next
    · have more : (last + 1 - start).toNat = (last + 1 - (start + 1 : Nat)).toNat + 1 := by omega
      by_cases below : (start : Int) < first
      · -- This line is left out in front.
        have skip : (first - start).toNat = (first - (start + 1 : Nat)).toNat + 1 := by omega
        have out : ¬ (first ≤ (start : Int) ∧ (start : Int) ≤ last) := by omega
        simpa [more, skip, out] using next
      · -- This line is the first that is chosen.
        have keep : (first - start).toNat = 0 := by omega
        have keepNext : (first - (start + 1 : Nat)).toNat = 0 := by omega
        have inside : first ≤ (start : Int) ∧ (start : Int) ≤ last := by omega
        rw [keepNext] at next
        simpa [more, keep, inside] using next

/-- Lines between two numbers are taken up to the last and dropped before the first. -/
theorem linesBetween_eq {α : Type} (first last : Int) (lines : List α) :
    linesBetween first last lines = (lines.take last.toNat).drop (first - 1).toNat := by
  -- The numbers start at one, so as many lines are taken as the last number says.
  rw [linesBetween, numbered_between]
  congr 2
  omega

/-- Counted from the first of them, lines between two numbers are those of the whole. -/
private theorem getElem?_linesBetween {α : Type} {first last : Int} {index : Nat}
    (positive : 1 ≤ first) (within : first + index ≤ last) (lines : List α) :
    (linesBetween first last lines)[index]? = lines[(first - 1).toNat + index]? := by
  -- As many lines are dropped as come before the first number.
  rw [linesBetween_eq, List.getElem?_drop, List.getElem?_take, if_pos (by omega)]

/-- Between a number and itself there is the line of this number. -/
theorem linesBetween_self {α : Type} {lines : List α} {number : Nat} {line : α}
    (positive : 1 ≤ number) (stands : lines[number - 1]? = some line) :
    linesBetween number number lines = [line] := by
  -- The number is one more than an index.
  obtain ⟨inside, _⟩ := List.getElem?_eq_some_iff.mp stands
  obtain ⟨index, rfl⟩ : ∃ index, number = index + 1 := ⟨number - 1, by omega⟩
  have isIndex : (((index + 1 : Nat) : Int) - 1).toNat = index := by omega
  rw [Nat.add_sub_cancel] at stands inside
  -- What is taken ends with the line, and all in front of it is dropped.
  rw [linesBetween_eq, isIndex, Int.toNat_natCast, List.take_add_one, stands]
  exact List.drop_left' (by rw [List.length_take]; omega)

/-- Lines between two numbers are lines of the whole. -/
theorem mem_of_mem_linesBetween {α : Type} {first last : Int} {lines : List α} {line : α}
    (member : line ∈ linesBetween first last lines) : line ∈ lines := by
  -- They are taken and dropped from it.
  rw [linesBetween_eq] at member
  exact List.mem_of_mem_take (List.mem_of_mem_drop member)

/-- A slice between bounds that are not negative has the lines whose numbers lie behind the first
bound and up to the second. -/
theorem sliceSigned_eq {α : Type} {start stop : Int} (startsIn : 0 ≤ start) (stopsIn : 0 ≤ stop)
    (lines : List α) :
    sliceSigned start stop lines = linesBetween (start + 1) stop lines := by
  -- A bound that is not negative counts from the start.
  have counts : ∀ bound : Int, 0 ≤ bound →
      boundCount lines.length bound = min bound.toNat lines.length := by
    intro bound positive
    rw [boundCount, if_neg (by omega)]
  -- Bounds behind the last line leave out as much as the number of lines does.
  have taken : lines.take (min stop.toNat lines.length) = lines.take stop.toNat :=
    List.take_eq_take_iff.mpr (by omega)
  have dropped : (lines.take stop.toNat).drop (min start.toNat lines.length)
      = (lines.take stop.toNat).drop start.toNat := by
    apply List.drop_eq_drop_iff.mpr
    rw [List.length_take]
    omega
  rw [linesBetween_eq, sliceSigned, counts start startsIn, counts stop stopsIn, taken, dropped,
    Int.add_sub_cancel]

/-- Lines joined by line ends are read back from the text. -/
private theorem textLines_joinWith {lines : List (List Char)} (nonempty : lines ≠ [])
    (free : ∀ line ∈ lines, '\n' ∉ line) :
    textLines (joinWith "\n" (lines.map String.ofList)).toList = lines := by
  -- No lines at all would be read back as one empty line.
  have split :=
    @splitAtChar_joinWith '\n' "\n" (by decide) (lines.map String.ofList) (by simpa using nonempty)
      (by simpa using free)
  rw [textLines, split, List.map_map]
  simp [Function.comp_def]

/-! ## The excerpt of a declaration -/

/-- A code shows the declaration of a symbol in a text: it has the lines of the text from the
one before the symbol to the one after it, as far as there are such, and the line of the
symbol is among them where one line before it makes it stand. That line has the fingerprint
and the name of the symbol. -/
structure ShowsDeclaration (text code : String) (symbol : Symbol) : Prop where
  lines : code = joinWith "\n" ((linesBetween (max 1 (symbol.startLine - 1))
    (min ((textLines text.toList).length : Int) (symbol.endLine + 1)) (textLines text.toList)).map
      String.ofList)
  declares : ∃ line, (textLines code.toList)[if symbol.startLine = 1 then 0 else 1]? = some line ∧
    linesBetween symbol.startLine symbol.startLine (textLines text.toList) = [line] ∧
    symbol.contentHash = some (fingerprint (String.ofList line)) ∧
    hasPart symbol.name (String.ofList line) = true

/-- A symbol that the lines of a text declare is shown by its excerpt. -/
theorem DeclarationLine.showsDeclaration {content : String} {found : DeclarationLine}
    (listed : found ∈ declarationsIn content) (file : String) (language : Option Language) :
    ShowsDeclaration content (Project.excerpt content (found.toSymbol file language))
      (found.toSymbol file language) := by
  -- The declaration comes from a line of the text, in which its name is written.
  obtain ⟨form, _, line, name, stands, declared, isName, isText⟩ :=
    exists_line_of_mem_declarationsIn listed
  have positive : 1 ≤ found.line := (declarationsIn_shape listed).2
  -- The number of the line is that of a line of the text.
  obtain ⟨inside, _⟩ := List.getElem?_eq_some_iff.mp stands
  -- The excerpt is cut between natural bounds.
  have isCode : Project.excerpt content (found.toSymbol file language) = joinWith "\n"
      ((linesBetween (max 1 ((found.line : Int) - 1))
        (min ((textLines content.toList).length : Int) ((found.line : Int) + 1))
        (textLines content.toList)).map String.ofList) := by
    have first : max 0 ((found.line : Int) - 2) + 1 = max 1 ((found.line : Int) - 1) := by omega
    rw [← first, ← sliceSigned_eq (by omega) (by omega)]
    rfl
  refine ⟨isCode, line, ?_, linesBetween_self positive stands, by rw [← isText]; rfl, ?_⟩
  · -- One line stands before the declaration, unless it is the first.
    have shown : (linesBetween (max 1 ((found.line : Int) - 1))
        (min ((textLines content.toList).length : Int) ((found.line : Int) + 1))
        (textLines content.toList))[if (found.line : Int) = 1 then 0 else 1]? = some line := by
      rw [getElem?_linesBetween (by omega) (by split <;> omega), ← stands]
      congr 1
      split <;> omega
    have nonempty := List.ne_nil_of_mem (List.mem_of_getElem? shown)
    -- Lines have no line ends, so those of the excerpt are the ones that it was joined from.
    rw [isCode, textLines_joinWith nonempty fun line member =>
      not_mem_of_mem_splitAtChar (mem_of_mem_linesBetween member)]
    exact shown
  · -- The name is written in the line.
    obtain ⟨front, tail, isLine, _, _⟩ := form.namesWhole_of_name? declared
    refine hasPart_iff.mpr ⟨front, tail, ?_⟩
    show (String.ofList line).toList = front ++ (found.name.toList ++ tail)
    rw [isName, String.toList_ofList, String.toList_ofList, isLine]

/-- Where no text is parsed, each symbol of a snapshot is declared by a line
of the text of its file. -/
theorem Snapshot.Shows.exists_declaration {indexer : Indexer} {tree : Folder} {root : List String}
    {snapshot : Snapshot} (shows : snapshot.Shows indexer (indexer.texts tree root))
    (unparsed : ∀ text ∈ indexer.texts tree root, ∀ language parsed,
      ¬ indexer.Parses text.1 text.2 language parsed) (symbol : Symbol)
    (listed : symbol ∈ snapshot.symbols) :
    ∃ file ∈ indexer.sourceFiles tree root, ∃ text, tree.textAt? (root ++ file) = some text ∧
      ∃ found ∈ declarationsIn text, ∃ language,
        symbol = found.toSymbol (joinPath file) (some language) := by
  -- The symbol comes from the piece of one text, and the text from a file that is walked.
  rw [shows.symbols] at listed
  obtain ⟨⟨name, text⟩, member, inside⟩ := List.mem_flatMap.mp listed
  obtain ⟨file, walked, read, isName⟩ := Indexer.mem_texts_iff.mp member
  obtain rfl : joinPath file = name := isName
  refine ⟨file, walked, text, read, ?_⟩
  -- Symbols come from lines or from a syntax tree, and there is no tree.
  cases (indexer.pieceOf_spec (joinPath file) text).1 symbol inside with
  | declared language found => exact ⟨_, found, language, rfl⟩
  | matched parses => exact (unparsed _ member _ _ parses).elim

/-! ## The names of files -/

/-- Names that no path leaves out: neither empty nor a single dot. -/
def KeptNames (path : List String) : Prop :=
  ∀ name ∈ path, name ≠ "" ∧ name ≠ "."

section Names

variable {path : List String} (nonempty : path ≠ []) (free : ∀ name ∈ path, '/' ∉ name.toList)
  (kept : KeptNames path)

include nonempty free kept

/-- The parts of a joined path are the names that it was joined from. -/
private theorem pathParts_joinPath : pathParts (joinPath path) = path := by
  -- No name has a slash, so the path is split where it was joined.
  have split : splitAtChar '/' (joinPath path).toList = path.map String.toList :=
    splitAtChar_joinWith (by decide) nonempty free
  -- Every part is the text of a name, and those are all kept.
  have all : (path.map String.toList).filter (fun part => part != [] && part != ['.'])
      = path.map String.toList := by
    rw [List.filter_eq_self]
    intro part member
    obtain ⟨name, inside, rfl⟩ := List.mem_map.mp member
    obtain ⟨full, named⟩ := kept name inside
    have isDot : name.toList ≠ ['.'] := fun same => named (String.toList_injective same)
    simp [full, isDot]
  rw [pathParts, Path.parts, split, all, List.map_map]
  simp [Function.comp_def]

/-- A joined path does not start at the top. -/
private theorem startsWith_joinPath : (joinPath path).startsWith "/" = false := by
  -- The parts of the path are its names, and none of them is empty.
  rw [String.startsWith_string_eq_false_iff]
  rintro ⟨rest, isPath⟩
  have split : splitAtChar '/' (joinPath path).toList = path.map String.toList :=
    splitAtChar_joinWith (by decide) nonempty free
  -- With a slash in front, the first name would be empty.
  have front : splitAtChar '/' (joinPath path).toList = [] :: splitAtChar '/' rest := by
    rw [← isPath]
    exact splitAtChar_cons_mark '/' rest
  have first : [] ∈ path.map String.toList := by
    rw [← split, front]
    exact List.mem_cons_self ..
  obtain ⟨name, inside, isEmpty⟩ := List.mem_map.mp first
  exact (kept name inside).1 (String.toList_injective isEmpty)

end Names

namespace Project

variable {σ : Type}

/-! ## The context of a symbol -/

/-- Asked for a symbol, a project gives it with a code that shows its declaration in a text. -/
def ShowsSymbol (project : Project σ) (tree : Folder) (text : String) (symbol : Symbol) : Prop :=
  ∃ context code, project.symbolContext tree symbol.id = .ok (some context) ∧
    context.symbol = symbol ∧ context.code = some code ∧ ShowsDeclaration text code symbol

/-- A project with the catalog of distinct symbols gives each of them with
the excerpt of its file. -/
private theorem symbolContext_of_listed {project : Project σ} {tree : Folder} {root : List String}
    {snapshot : Snapshot} (present : project.catalog = some (Catalog.ofSnapshot snapshot))
    (atRoot : project.root = some root) (distinct : (snapshot.symbols.map Symbol.id).Nodup)
    {symbol : Symbol} (listed : symbol ∈ snapshot.symbols) {text : String}
    (read : tree.textAt? (pathFrom root symbol.file) = some text) :
    ∃ context, project.symbolContext tree symbol.id = .ok (some context) ∧ context.symbol = symbol ∧
      context.code = some (excerpt text symbol) := by
  -- The catalog keeps every symbol under its identifier.
  have found : (Catalog.ofSnapshot snapshot).find? symbol.id = some symbol := by
    have kept := @Catalog.symbols_foldl_add snapshot.symbols { references := snapshot.references }
      (by simpa using distinct)
    rw [Catalog.find?, Catalog.ofSnapshot, kept]
    refine Assoc.get?_of_mem ?_ (List.mem_map.mpr ⟨symbol, listed, rfl⟩)
    simpa [Assoc.keys, Function.comp_def] using distinct
  have isCode : project.codeOf? tree symbol = some (excerpt text symbol) := by
    simp [codeOf?, atRoot, read]
  refine ⟨⟨symbol, project.codeOf? tree symbol, (Catalog.ofSnapshot snapshot).callsOf symbol.id,
    (Catalog.ofSnapshot snapshot).dependenciesOf symbol.file⟩, ?_, rfl, isCode⟩
  rw [symbolContext, ask_of_some present, found]
  rfl

/-- After a build that reads lines alone, each symbol is given with the code that shows its
declaration, as long as its file has the text that was read; and so it is when the stored snapshot
has been loaded instead, which succeeds unless a number in it has too many digits. -/
theorem symbolContext_shows_declaration (project : Project σ) {tree : Folder} {root : List String}
    {force incremental : Bool} (wellNamed : tree.wellNamed = true)
    (reaches : ∃ previous, project.previous? tree root force incremental = .ok previous)
    (ends : ∃ files, project.indexer.walk tree root = .ok files)
    (kept : ∀ path ∈ project.indexer.sourceFiles tree root, KeptNames path)
    (unparsed : ∀ text ∈ project.indexer.texts tree root, ∀ language parsed,
      ¬ project.indexer.Parses text.1 text.2 language parsed)
    (starts : project.StartsFromTexts tree root force incremental) :
    let built := project.build tree root force incremental
    let path := cachePath project.indexer.settings root
    ∃ snapshot, built.2.2.snapshot = some snapshot ∧
      ∀ symbol ∈ snapshot.symbols, ∃ text,
        tree.textAt? (root ++ pathParts symbol.file) = some text ∧
        ∀ later : Folder, later.textAt? (root ++ pathParts symbol.file) = some text →
          built.2.2.ShowsSymbol later text symbol ∧
          ∀ reader : Project σ, built.1 = .ok () → later.textAt? path = built.2.1.textAt? path →
            reader.indexer.settings = project.indexer.settings →
            (reader.load later root).1 = .ok snapshot.toJson.fitsDigits ∧
            ((reader.load later root).1 = .ok true →
              (reader.load later root).2.ShowsSymbol later text symbol) := by
  -- The build gets as far as to scan, so the other outcomes are out of the question.
  intro built path
  have outcome : BuildOutcome project tree root force incremental built :=
    project.buildOutcome tree root force incremental
  clear_value built
  have isFresh := (Indexer.scan_eq_ok_iff wellNamed).mpr ⟨ends, rfl⟩
  obtain ⟨previous, reached⟩ := reaches
  have colonFree : ∀ text ∈ project.indexer.texts tree root,
      project.indexer.ColonFree text.1 text.2 :=
    fun text member language parsed parses => (unparsed text member language parsed parses).elim
  cases outcome with
  | unreached fails => cases reached.symm.trans fails
  | stopped _ stops => cases isFresh.symm.trans stops
  | @indexed _ fresh snapshot changes probe scans origin =>
    obtain ⟨shows, tidy⟩ := starts.shows wellNamed colonFree probe scans origin
    -- The symbols are those of a scan, so they have identifiers of their own.
    have distinct : (snapshot.symbols.map Symbol.id).Nodup := by
      rw [shows.symbols, ← (Indexer.scanned_shows wellNamed colonFree).symbols]
      exact project.indexer.nodup_ids_scan tree root
    have declared := shows.exists_declaration unparsed
    refine ⟨snapshot, rfl, fun symbol listed => ?_⟩
    -- The symbol is declared by a line of a file, which is found again under its name.
    obtain ⟨file, walked, text, read, found, isFound, language, rfl⟩ := declared symbol listed
    obtain ⟨nonempty, free⟩ := Indexer.slashFree_of_mem_sourceFiles wellNamed walked
    have parts : pathParts (joinPath file) = file :=
      pathParts_joinPath nonempty free (kept file walked)
    have relative : pathFrom root (joinPath file) = root ++ pathParts (joinPath file) := by
      rw [pathFrom, startsWith_joinPath nonempty free (kept file walked)]
      rfl
    have code := found.showsDeclaration isFound (joinPath file) (some language)
    have here : tree.textAt? (root ++ pathParts (joinPath file)) = some text := by
      rw [parts]
      exact read
    refine ⟨text, here, fun later same => ?_⟩
    have readLater : later.textAt? (pathFrom root (joinPath file)) = some text := by
      rw [relative]
      exact same
    refine ⟨?_, fun reader succeeds unwritten settings => ?_⟩
    · -- The build has the catalog of its snapshot.
      obtain ⟨context, given, isSymbol, isCode⟩ := @symbolContext_of_listed σ
        { project.withSnapshot snapshot with root := some root, changes } later root snapshot
        rfl rfl distinct _ listed _ readLater
      exact ⟨context, _, given, isSymbol, isCode, code⟩
    · -- What is loaded are the same symbols, since they have no fields that rereading could change.
      have plain : snapshot.reread.symbols = snapshot.symbols := by
        refine (List.map_congr_left (g := id) fun other member => ?_).trans (List.map_id _)
        obtain ⟨_, _, _, _, _, _, _, rfl⟩ := declared other member
        exact Symbol.reread_eq_self rfl
      have isText : later.textAt? (cachePath reader.indexer.settings root)
          = some snapshot.render := by
        rw [settings, unwritten]
        exact textAt?_of_save rfl succeeds
      rw [load_of_textAt? tidy isText]
      cases snapshot.toJson.fitsDigits with
      | false => exact ⟨rfl, fun loads => by cases loads⟩
      | true =>
        obtain ⟨context, given, isSymbol, isCode⟩ := @symbolContext_of_listed σ
          { reader.withSnapshot snapshot.reread with root := some root } later root snapshot.reread
          rfl rfl (plain ▸ distinct) (found.toSymbol (joinPath file) (some language))
          (plain ▸ listed) text readLater
        exact ⟨rfl, fun _ => ⟨context, _, given, isSymbol, isCode, code⟩⟩

end Project

/-- The project after a build is that of the build. -/
theorem Session.project_next_build {σ : Type} (session : Session σ) (root : List String)
    (force incremental : Bool) : (session.next root (.build force incremental)).project
      = (session.project.build session.tree root force incremental).2.2 := by
  rw [next]

/-- The tree after a build is that of the build. -/
theorem Session.tree_next_build {σ : Type} (session : Session σ) (root : List String)
    (force incremental : Bool) : (session.next root (.build force incremental)).tree
      = (session.project.build session.tree root force incremental).2.1 := by
  rw [next]

/-- A project is built and its snapshot loaded, and it is built again from what is stored; both
times it is asked about the last line of a file. -/
theorem Project.symbolContext_shows_declaration_rebuilt :
    let language : Language := {
      identity := { name := "t", displayName := "T", extensions := [".t"] }
      symbolPatterns := []
      referencePatterns := .ok []
      parameterNames := fun _ => []
      inferKind := fun _ kind => kind }
    let project : Project Unit := {
      indexer := ⟨{}, Registry.empty.registerAll [language], none⟩
      advisor := ⟨⟨fun _ => (.ok none, ()), (), none⟩, (), none⟩ }
    let start : Session Unit := ⟨[("a.t", .file "// top\nclass F\nclass G".toUTF8)], project⟩
    let before := start.next [] (.build false true)
    let after := before.next [] (.build false true)
    ((project.load before.tree []).1 = .ok true ∧
      ∃ context,
        (project.load before.tree []).2.symbolContext before.tree "a.t:G" = .ok (some context) ∧
        context.code = some "class F\nclass G") ∧
    ∃ context, after.project.symbolContext after.tree "a.t:G" = .ok (some context) ∧
      context.code = some "class F\nclass G" := by
  -- The first build is evaluated, and what holds of the second one follows from that.
  intro language project start before after
  let content := "// top\nclass F\nclass G"
  let bytes := content.toUTF8
  let place := [".code-index", "cache", "code-index.json"]
  -- Only one text ever occurs, so no two texts are mistaken for one another.
  have tame : project.indexer.Tame (· = content) := Session.tame_of_one_text rfl _
  have decoded : decodeText? bytes = some content := by
    decide +kernel
  have named : joinPath ["a.t"] = "a.t" := by
    decide +kernel
  have isId : Symbol.makeId "a.t" "G" = "a.t:G" := by
    decide +kernel
  have parts : [] ++ pathParts "a.t" = ["a.t"] := by
    decide +kernel
  -- What a build makes of a tree with this file alone, however the stored snapshot came about.
  have shown : ∀ (session : Session Unit)
      (built : Except ProjectFault Unit × Folder × Project Unit),
      session.project.build session.tree [] false true = built →
      session.IsSound project.indexer (· = content) [] →
      (∀ path, path ∈ project.indexer.sourceFiles session.tree [] ↔ path = ["a.t"]) →
      session.tree.textAt? ["a.t"] = some content →
      (∃ previous, session.project.previous? session.tree [] false true = .ok previous) →
      (∃ files, project.indexer.walk session.tree [] = .ok files) →
      ∃ snapshot, built.2.2.snapshot = some snapshot ∧
        ∀ later : Folder, later.textAt? ["a.t"] = some content →
          (∃ context, built.2.2.symbolContext later "a.t:G" = .ok (some context) ∧
            context.code = some "class F\nclass G") ∧
          (built.1 = .ok () → later = built.2.1 →
            (project.load later []).1 = .ok snapshot.toJson.fitsDigits ∧
            ((project.load later []).1 = .ok true →
              ∃ context,
                (project.load later []).2.symbolContext later "a.t:G" = .ok (some context) ∧
                context.code = some "class F\nclass G")) := by
    intro session built isBuilt sound walked read reaches ends
    -- The one file is all that is walked and read.
    have indexed : session.project.indexer = project.indexer := sound.indexed
    have known : ∀ text ∈ project.indexer.texts session.tree [], text.2 = content := by
      refine fun text => Indexer.eq_of_mem_texts fun path listed => ?_
      rw [(walked path).mp listed]
      exact read
    have kept : ∀ path ∈ session.project.indexer.sourceFiles session.tree [], KeptNames path := by
      intro path member
      rw [indexed] at member
      rw [(walked path).mp member]
      simp [KeptNames]
    have unparsed : ∀ text ∈ session.project.indexer.texts session.tree [], ∀ language parsed,
        ¬ session.project.indexer.Parses text.1 text.2 language parsed := by
      intro text _
      rw [indexed]
      exact project.indexer.unparsed_withoutParser text.1 text.2
    obtain ⟨snapshot, present, given⟩ :=
      session.project.symbolContext_shows_declaration sound.wellNamed reaches (indexed ▸ ends) kept
        unparsed (sound.startsFromTexts tame known false true)
    have shows := sound.snapshot_shows tame known reaches ends present
    rw [isBuilt] at present given
    -- The last line of the file declares a symbol of the snapshot.
    have here := (walked ["a.t"]).mpr rfl
    obtain ⟨language, isKnown⟩ := Indexer.exists_language_of_mem_sourceFiles sound.wellNamed here
    rw [named] at isKnown
    let symbol := DeclarationLine.toSymbol ⟨3, "G", "class", "class G"⟩ "a.t" (some language)
    have listed : symbol ∈ snapshot.symbols := by
      rw [shows.symbols]
      refine List.mem_flatMap.mpr
        ⟨("a.t", content), Indexer.mem_texts_iff.mpr ⟨["a.t"], here, read, named⟩, ?_⟩
      have lines : ∀ hash,
          ((Draft.addHash {} "a.t" hash).addLines "a.t" content (some language)).symbols
            = [DeclarationLine.toSymbol ⟨2, "F", "class", "class F"⟩ "a.t" (some language),
              symbol] := by
        unfold content
        exact fun _ => rfl
      rw [Indexer.pieceOf, Indexer.addText_of_no_tree isKnown rfl, lines]
      exact List.mem_cons_of_mem _ (List.mem_cons_self ..)
    obtain ⟨text, isText, shown⟩ := given symbol listed
    have isFile : [] ++ pathParts symbol.file = ["a.t"] := parts
    rw [isFile] at isText shown
    have isContent : text = content := Option.some.inj (isText.symm.trans read)
    rw [isContent] at shown
    -- The excerpt is that of the two last lines.
    have code : ∀ code, ShowsDeclaration content code symbol → code = "class F\nclass G" := by
      intro code shows
      have isStart : symbol.startLine = 3 := rfl
      have isEnd : symbol.endLine = 3 := rfl
      rw [shows.lines, isStart, isEnd]
      decide +kernel
    have answers : ∀ {asked : Project Unit} {later : Folder},
        asked.ShowsSymbol later content symbol →
        ∃ context, asked.symbolContext later "a.t:G" = .ok (some context) ∧
          context.code = some "class F\nclass G" := by
      rintro asked later ⟨context, _, isContext, _, isCode, shows⟩
      rw [code _ shows] at isCode
      have isSymbol : symbol.id = "a.t:G" := isId
      rw [isSymbol] at isContext
      exact ⟨context, isContext, isCode⟩
    refine ⟨snapshot, present, fun later same => ?_⟩
    obtain ⟨shows, loads⟩ := shown later same
    refine ⟨answers shows, fun returns isTree => ?_⟩
    obtain ⟨loaded, again⟩ :=
      loads project returns (by rw [isTree]) (congrArg Indexer.settings indexed.symm)
    exact ⟨loaded, fun isLoaded => answers (again isLoaded)⟩
  -- The start is evaluated, as is what the first build returns.
  have wellNamed : start.tree.wellNamed = true := by
    decide
  have unstored : start.storedText? [] = none := by
    decide +kernel
  have sound : start.IsSound project.indexer (· = content) [] := .of_unstored wellNamed unstored
  have ends : (project.indexer.walk start.tree []).toOption = some [["a.t"]] := by
    decide +kernel
  have ends := eq_ok_of_toOption ends
  have walked : ∀ path, path ∈ project.indexer.sourceFiles start.tree [] ↔ path = ["a.t"] := by
    intro path
    rw [← Indexer.walk_eq_ok wellNamed ends, List.mem_singleton]
  have read : start.tree.textAt? ["a.t"] = some content := by
    decide +kernel
  have reaches : (start.project.previous? start.tree [] false true).toOption.isSome = true := by
    decide +kernel
  have returns : (start.project.build start.tree [] false true).1 = .ok () :=
    eq_ok_of_toOption (by decide +kernel)
  have fits : (start.project.build start.tree [] false true).2.2.snapshot.map
      (fun snapshot => snapshot.toJson.fitsDigits) = some true := by
    decide +kernel
  have found : ((start.tree.provide
      (cachePath start.project.indexer.settings []).dropLast).2.placeFor
      (cachePath start.project.indexer.settings [])).toOption = some place := by
    decide +kernel
  have apart : ["a.t"] ≠ place := by
    simp [place]
  -- From here on the session has the one file and its stored snapshot, build after build.
  have single : before.IsSingle "a.t" bytes place :=
    Session.isSingle_of_build rfl returns found apart
  have skipped : ∃ name ∈ place.dropLast,
      project.indexer.settings.ignoreDirs.contains name = true :=
    ⟨".code-index", by simp [place], by decide⟩
  have wanted : project.indexer.wants [("a.t", .file bytes)] [] (["a.t"], .file bytes) = true := by
    decide +kernel
  have rereads : ∀ {session : Session Unit}, session.IsSingle "a.t" bytes place →
      session.tree.textAt? ["a.t"] = some content := by
    intro session single
    rw [Folder.textAt?, single.bytesAt? (by decide)]
    exact decoded
  have soundBefore : before.IsSound project.indexer (· = content) [] := by
    refine sound.next tame (by simp [SlashFree])
      ⟨fun text => Indexer.eq_of_mem_texts fun path listed => ?_, .inl returns⟩
    rw [(walked path).mp listed]
    exact read
  have isBefore := start.tree_next_build [] false true
  have isAfter := before.project_next_build [] false true
  obtain ⟨endsBefore, walkedBefore⟩ :=
    single.sourceFiles soundBefore.wellNamed (by decide) skipped wanted
  have singleAfter : after.IsSingle "a.t" bytes place := single.next_build apart false true
  obtain ⟨text, stored⟩ := single.stored
  have reachesBefore := previous?_of_textAt? stored false true
  have isBefore : before.tree = _ := isBefore
  have isAfter : after.project = _ := isAfter
  -- Nothing is to be computed any more.
  clear_value after before
  generalize isBuilt : start.project.build start.tree [] false true = built at returns fits isBefore
  constructor
  · -- What the first build stored is loaded.
    obtain ⟨snapshot, present, given⟩ :=
      shown start built isBuilt sound walked read (exists_ok_of_isSome reaches) ⟨_, ends⟩
    rw [present, Option.map_some, Option.some.injEq] at fits
    obtain ⟨loaded, again⟩ := (given before.tree (rereads single)).2 returns isBefore
    rw [fits] at loaded
    exact ⟨loaded, again loaded⟩
  · -- The second build starts from what the first one stored.
    obtain ⟨_, _, given⟩ :=
      shown before _ rfl soundBefore walkedBefore (rereads single) reachesBefore endsBefore
    rw [← isAfter] at given
    exact (given after.tree (rereads singleAfter)).1

end SourceAtlas
