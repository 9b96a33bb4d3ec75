import SourceAtlas.Proofs.Index.Files
import SourceAtlas.Proofs.Language.Registration

/-! The walk over a source tree: when it breaks off, and which files it finds otherwise, each of
them once and in the order of their names at every level. -/

namespace SourceAtlas

namespace Glob

/-- A pattern fits a text: a run takes any stretch of it, and each other piece
one character of its set. -/
inductive Matches : Glob → List Char → Prop
  | nil : Matches [] []
  | run {rest : Glob} {text : List Char} (front : List Char) (fits : Matches rest text) :
      Matches (.run :: rest) (front ++ text)
  | one {set : CharRanges} {rest : Glob} {c : Char} {text : List Char}
      (inside : set.contains c = true) (fits : Matches rest text) :
      Matches (.one set :: rest) (c :: text)

/-- Without pieces a pattern fits the empty text alone. -/
theorem matches_nil_iff {text : List Char} : Matches [] text ↔ text = [] := by
  -- No other rule speaks of a pattern without pieces.
  constructor
  · intro fits
    cases fits
    rfl
  · rintro rfl
    exact .nil

/-- A run takes nothing, or the first character and whatever it takes of the others. -/
theorem matches_run_iff {rest : Glob} {text : List Char} : Matches (.run :: rest) text ↔
    Matches rest text ∨ text ≠ [] ∧ Matches (.run :: rest) text.tail := by
  -- The stretch that a run takes is empty or has a first character.
  constructor
  · intro fits
    cases fits with
    | run front fits =>
      cases front with
      | nil => exact .inl fits
      | cons c front => exact .inr ⟨by simp, .run front fits⟩
  · rintro (fits | ⟨more, fits⟩)
    · exact .run [] fits
    · obtain ⟨c, others, rfl⟩ := List.exists_cons_of_ne_nil more
      rw [List.tail_cons] at fits
      cases fits with
      | run front fits => exact .run (c :: front) fits

/-- The search for a match finds one iff there is one. -/
theorem accepts_iff {glob : Glob} {text : List Char} :
    glob.accepts text = true ↔ glob.Matches text := by
  -- The induction follows the search, which tries a run on nothing before it
  -- gives it another character.
  fun_induction accepts glob text with
  | case1 text => simp [matches_nil_iff]
  | case2 rest ih =>
    rw [ih, matches_run_iff]
    simp
  | case3 rest c text first later =>
    rw [Bool.or_eq_true, first, later, @matches_run_iff rest (c :: text)]
    simp
  | case4 set rest =>
    constructor
    · intro no
      cases no
    · intro fits
      cases fits
  | case5 set rest c text ih =>
    rw [Bool.and_eq_true, ih]
    constructor
    · rintro ⟨inside, fits⟩
      exact .one inside fits
    · intro fits
      cases fits with
      | one inside fits => exact ⟨inside, fits⟩

end Glob

/-- No pattern accepts a name exactly when none of them fits it. -/
theorem matchesAny_eq_false_iff {patterns : List String} {name : String} :
    matchesAny (patterns.map Glob.parse) name = false ↔
      ∀ pattern ∈ patterns, ¬ (Glob.parse pattern).Matches name.toList := by
  -- Acceptance is a search for a fit.
  simp [matchesAny, ← Glob.accepts_iff]

/-! ## Suffixes -/

/-- A name ends in a suffix: a dot that does not start the name, with at least one character and no
further dot behind it. -/
def HasSuffix (name suffix : String) : Prop :=
  ∃ stem tail : List Char, stem ≠ [] ∧ tail ≠ [] ∧ '.' ∉ tail ∧ suffix.toList = '.' :: tail ∧
    name.toList = stem ++ '.' :: tail

namespace Path

/-- The suffix of a name starts at its last dot, which does not start the name. -/
theorem suffixOfName_append {stem tail : List Char} (begun : stem ≠ []) (ended : tail ≠ [])
    (free : '.' ∉ tail) : suffixOfName (stem ++ '.' :: tail) = '.' :: tail := by
  -- Backwards, the characters up to the first dot are those behind the last one.
  have taken : (stem ++ '.' :: tail).reverse.takeWhile (· != '.') = tail.reverse := by
    rw [List.reverse_append, List.reverse_cons, List.append_assoc, List.takeWhile_append_of_pos]
    · simp
    · intro c member
      simp only [bne_iff_ne, ne_eq]
      rintro rfl
      exact free (List.mem_reverse.mp member)
  have long : ¬ (stem ++ '.' :: tail).length ≤ tail.length + 1 := by
    have : 0 < stem.length := List.length_pos_iff.mpr begun
    simp only [List.length_append, List.length_cons]
    omega
  simp only [suffixOfName, taken, List.reverse_reverse]
  rw [if_neg (by simp only [List.isEmpty_iff, ended, long, decide_false, Bool.or_false,
    not_false_eq_true])]

/-- A name that has a suffix has a dot, and characters before and behind it. -/
private theorem exists_stem_of_suffixOfName {name : List Char} (has : suffixOfName name ≠ []) :
    ∃ stem tail, stem ≠ [] ∧ tail ≠ [] ∧ '.' ∉ tail ∧ name = stem ++ '.' :: tail := by
  -- A name that is all stem, or starts with its last dot, has none.
  simp only [suffixOfName] at has
  split at has
  · exact absurd rfl has
  · rename_i long
    simp only [Bool.or_eq_true, List.isEmpty_iff, decide_eq_true_eq, not_or, List.length_reverse,
      List.reverse_eq_nil_iff] at long
    -- The name backwards is what stands after the last dot, the dot and the stem.
    have whole := @List.takeWhile_append_dropWhile _ (· != '.') name.reverse
    have count := congrArg List.length whole
    rw [List.length_append, List.length_reverse] at count
    cases left : name.reverse.dropWhile (· != '.') with
    | nil =>
      rw [left, List.length_nil] at count
      omega
    | cons c others =>
      have dot : c = '.' := by
        have stops :=
          List.head_dropWhile_not (· != '.')
            (show name.reverse.dropWhile (· != '.') ≠ [] by simp [left])
        simpa [left] using stops
      rw [left, List.length_cons] at count
      refine ⟨others.reverse, (name.reverse.takeWhile (· != '.')).reverse, ?_, ?_, ?_, ?_⟩
      · rintro none
        rw [List.reverse_eq_nil_iff.mp none] at count
        simp at count
        omega
      · simpa using long.1
      · intro member
        have passes := List.all_eq_true.mp List.all_takeWhile _ (List.mem_reverse.mp member)
        simp at passes
      · rw [left, dot] at whole
        have back := congrArg List.reverse whole
        simpa using back.symm

/-- A name without slashes is its own last part. -/
private theorem suffix_of_free {name : String} (free : '/' ∉ name.toList) :
    suffix name = String.ofList (suffixOfName name.toList) := by
  -- There is one part, unless the name is empty or a single dot.
  unfold suffix parts
  rw [splitAtChar_of_free free]
  by_cases kept : (name.toList != [] && name.toList != ['.']) = true
  · simp [kept]
  · -- A name that is empty or a single dot has no suffix.
    have short : name.toList = [] ∨ name.toList = ['.'] := by
      simpa [Classical.or_iff_not_imp_left] using kept
    rcases short with isName | isName
    · simp [isName, suffixOfName]
    · simp [isName, suffixOfName]

/-- The suffix of a name is the one it ends in. -/
theorem hasSuffix_iff {name text : String} (free : '/' ∉ name.toList) :
    HasSuffix name text ↔ text ≠ "" ∧ suffix name = text := by
  -- Both say where the last dot stands.
  rw [suffix_of_free free]
  constructor
  · rintro ⟨stem, tail, begun, ended, dotFree, isSuffix, isName⟩
    refine ⟨?_, ?_⟩
    · rintro rfl
      simp at isSuffix
    · rw [isName, suffixOfName_append begun ended dotFree, ← isSuffix, String.ofList_toList]
  · rintro ⟨some, same⟩
    have has : suffixOfName name.toList ≠ [] := by
      intro none
      rw [none] at same
      exact some same.symm
    obtain ⟨stem, tail, begun, ended, dotFree, isName⟩ := exists_stem_of_suffixOfName has
    refine ⟨stem, tail, begun, ended, dotFree, ?_, isName⟩
    rw [← same, String.toList_ofList, isName, suffixOfName_append begun ended dotFree]

end Path

/-! ## Languages -/

namespace Registry

variable {registrations : List Registration} {registry : Registry} {name suffix : String}

/-- The language of a file is that of its suffix. -/
theorem ofPath_of_hasSuffix (has : HasSuffix name suffix) (free : '/' ∉ name.toList) :
    registry.ofPath name = registry.ofExtension suffix := by
  -- The name has the suffix, so its language is looked up by it.
  obtain ⟨nonempty, same⟩ := (Path.hasSuffix_iff free).mp has
  simp [ofPath, same, nonempty]

/-- A file without a suffix has no language. -/
private theorem exists_suffix_of_ofPath (free : '/' ∉ name.toList)
    (told : registry.ofPath name ≠ .ok none) :
    ∃ suffix, HasSuffix name suffix ∧ registry.ofPath name = registry.ofExtension suffix := by
  -- Without a suffix nothing is looked up.
  by_cases absent : Path.suffix name = ""
  · exact absurd (by simp [ofPath, absent]) told
  · have has := (Path.hasSuffix_iff free).mpr ⟨absent, rfl⟩
    exact ⟨_, has, ofPath_of_hasSuffix has free⟩

/-- A suffix starts with a dot already, so as a key it is only made small. -/
private theorem extensionKey_of_hasSuffix (has : HasSuffix name suffix) :
    extensionKey suffix = lower suffix := by
  -- The suffix starts with its dot.
  obtain ⟨stem, tail, -, -, -, starts, -⟩ := has
  exact extensionKey_of_dot starts

/-- The language of a file can be had exactly when its suffix is registered and leads
to no reason against it. -/
theorem exists_language_iff (free : '/' ∉ name.toList) :
    (∃ language, (ofRegistrations registrations).ofPath name = .ok (some language)) ↔
      ∃ suffix, HasSuffix name suffix ∧ lower suffix ∈ (ofRegistrations registrations).extensions ∧
        ∀ reason, (ofRegistrations registrations).ofExtension suffix ≠ .error reason := by
  -- A language comes from a registered suffix, and a registered one gives a language or a reason.
  constructor
  · rintro ⟨language, known⟩
    obtain ⟨suffix, has, same⟩ := exists_suffix_of_ofPath free (by rw [known]; simp)
    rw [same] at known
    refine ⟨suffix, has, ?_, fun reason unusable => ?_⟩
    · -- A suffix that was not registered leads to no language.
      rw [← extensionKey_of_hasSuffix has]
      refine Decidable.byContradiction fun unknown => ?_
      rw [ofExtension_of_not_mem unknown] at known
      cases known
    · rw [known] at unusable
      cases unusable
  · rintro ⟨suffix, has, registered, usable⟩
    rw [← extensionKey_of_hasSuffix has] at registered
    rw [ofPath_of_hasSuffix has free]
    rcases ofExtension_of_mem registered with found | ⟨reason, unusable⟩
    · exact found
    · exact absurd unusable (usable _)

end Registry

namespace Indexer

/-! ## One leaf -/

/-- The name of a file. -/
def nameOf (path : List String) : String :=
  path.getLast?.getD ""

/-- A path leads to a file with some bytes, and no ignored pattern fits its name. -/
def Shows (indexer : Indexer) (project : Folder) (root path : List String) (bytes : ByteArray) :
    Prop :=
  project.Gives (root ++ path) bytes ∧
    ∀ pattern ∈ indexer.settings.ignoreFiles, ¬ (Glob.parse pattern).Matches (nameOf path).toList

variable {indexer : Indexer} {project : Folder} {root path : List String} {entry : Entry}

/-- A path that cannot be followed stops the walk. -/
private theorem inspect_of_misleads {reason : FileFault}
    (misleads : project.Misleads (root ++ path) reason) :
    indexer.inspect project root (path, entry) = .error (.link reason) := by
  -- The file is looked at first.
  simp only [inspect, Folder.fileAt_eq_error_iff_misleads.mpr misleads]
  rfl

/-- What is said of a shown file depends on its language and its size. -/
private theorem inspect_of_shows {bytes : ByteArray}
    (shows_ : indexer.Shows project root path bytes) :
    indexer.inspect project root (path, entry)
      = ((indexer.registry.ofPath (nameOf path)).mapError .language).map fun language =>
        language.isSome && decide ((bytes.size : Int) ≤ indexer.settings.maxFileSize) := by
  -- The file is found and its name kept, so the language is the only thing that can go wrong.
  obtain ⟨gives, fitting⟩ := shows_
  have kept := matchesAny_eq_false_iff.mpr fitting
  rw [nameOf] at kept
  simp only [inspect, Folder.fileAt_eq_some_iff_gives.mpr gives, kept, Bool.false_eq_true, if_false,
    nameOf]
  cases indexer.registry.ofPath (path.getLast?.getD "") with
  | error reason => rfl
  | ok language => rfl

/-- A leaf that leads to no file is passed over. -/
private theorem inspect_of_none (absent : project.fileAt (root ++ path) = .ok none) :
    indexer.inspect project root (path, entry) = .ok false := by
  -- Without a file nothing else is asked.
  simp only [inspect, absent]
  rfl

/-- A file whose name an ignored pattern fits is passed over. -/
private theorem inspect_of_ignored {bytes : ByteArray}
    (found : project.fileAt (root ++ path) = .ok (some bytes))
    (fits : matchesAny (indexer.settings.ignoreFiles.map Glob.parse) (nameOf path) = true) :
    indexer.inspect project root (path, entry) = .ok false := by
  -- The name is tested before the language.
  rw [nameOf] at fits
  simp only [inspect, found, fits, if_true]
  rfl

/-- A leaf that neither misleads nor shows a file is passed over. -/
private theorem inspect_cases (indexer : Indexer) (project : Folder) (root path : List String)
    (entry : Entry) :
    (∃ reason, project.Misleads (root ++ path) reason) ∨
      (∃ bytes, indexer.Shows project root path bytes) ∨
      indexer.inspect project root (path, entry) = .ok false := by
  -- The path fails, leads to nothing, or leads to a file whose name is tested.
  cases found : project.fileAt (root ++ path) with
  | error reason => exact .inl ⟨reason, Folder.fileAt_eq_error_iff_misleads.mp found⟩
  | ok file =>
    cases file with
    | none => exact .inr (.inr (inspect_of_none found))
    | some bytes =>
      cases fits : matchesAny (indexer.settings.ignoreFiles.map Glob.parse) (nameOf path) with
      | false =>
        exact .inr (.inl ⟨bytes, Folder.fileAt_eq_some_iff_gives.mp found,
          matchesAny_eq_false_iff.mp fits⟩)
      | true => exact .inr (.inr (inspect_of_ignored found fits))

/-- A leaf is a file to be read exactly when it shows a file of a known language
that is not too large. -/
private theorem inspect_eq_true_iff : indexer.inspect project root (path, entry) = .ok true ↔
    ∃ bytes language, indexer.Shows project root path bytes ∧
      indexer.registry.ofPath (nameOf path) = .ok (some language) ∧
      (bytes.size : Int) ≤ indexer.settings.maxFileSize := by
  -- Of the three kinds of leaves only those that show a file can be wanted.
  constructor
  · intro wanted
    rcases indexer.inspect_cases project root path entry with
      ⟨reason, misleads⟩ | ⟨bytes, shows_⟩ | passed
    · rw [inspect_of_misleads misleads] at wanted
      cases wanted
    · rw [inspect_of_shows shows_] at wanted
      cases known : indexer.registry.ofPath (nameOf path) with
      | error reason =>
        rw [known] at wanted
        cases wanted
      | ok language =>
        rw [known] at wanted
        cases language with
        | none => cases wanted
        | some language =>
          have small := Except.ok.inj wanted
          exact ⟨bytes, language, shows_, rfl, by simpa using small⟩
    · rw [passed] at wanted
      cases wanted
  · rintro ⟨bytes, language, shows_, known, small⟩
    rw [inspect_of_shows shows_, known]
    exact congrArg Except.ok (by simp [small])

/-- A leaf stops the walk exactly when it cannot be followed, or shows a file whose
language cannot be had. -/
private theorem inspect_fails_iff :
    (∃ fault, indexer.inspect project root (path, entry) = .error fault) ↔
    (∃ reason, project.Misleads (root ++ path) reason) ∨
    ∃ bytes reason, indexer.Shows project root path bytes ∧
      indexer.registry.ofPath (nameOf path) = .error reason := by
  -- Of the three kinds of leaves those that are passed over do not fail.
  constructor
  · rintro ⟨fault, fails⟩
    rcases indexer.inspect_cases project root path entry with misled | ⟨bytes, shows_⟩ | passed
    · exact .inl misled
    · rw [inspect_of_shows shows_] at fails
      cases known : indexer.registry.ofPath (nameOf path) with
      | error reason => exact .inr ⟨bytes, reason, shows_, rfl⟩
      | ok language =>
        rw [known] at fails
        cases fails
    · rw [passed] at fails
      cases fails
  · rintro (⟨reason, misleads⟩ | ⟨bytes, reason, shows_, unusable⟩)
    · exact ⟨_, inspect_of_misleads misleads⟩
    · rw [inspect_of_shows shows_, unusable]
      exact ⟨_, rfl⟩

/-- The name of a leaf that is met has no slash. -/
theorem Meets.slashFree (wellNamed : project.wellNamed = true)
    (meets : indexer.Meets project root path entry) : '/' ∉ (nameOf path).toList := by
  -- It is the last name on the way to the leaf.
  obtain ⟨named, found, -⟩ := meets
  rw [nameOf, List.getLast?_eq_some_getLast named, Option.getD_some]
  exact (Folder.wellNamed_at? wellNamed found).2 _ (by simp [List.getLast_mem])

/-! ## The files of a walk -/

/-- A walk ends unless it meets a link that goes on behind a file, over too many links or to a name
that is too long, or a file whose language cannot be had. It then has found, each of them once and
in the order of names at every level, all files and links to files below the root that stand in
folders with no ignored name, have a name that no ignored pattern fits, end in a registered suffix
and are not too large. -/
theorem walk_exact (settings : Settings) (registrations : List Registration)
    (parser : Option StructuralParser) (project : Folder) (root : List String)
    (wellNamed : project.wellNamed = true) :
    let registry := Registry.ofRegistrations registrations
    let indexer : Indexer := ⟨settings, registry, parser⟩
    ((∃ files, indexer.walk project root = .ok files) ↔
      ∀ path entry, indexer.Meets project root path entry →
        (∀ reason, ¬ project.Misleads (root ++ path) reason) ∧
        ∀ bytes suffix reason, indexer.Shows project root path bytes →
          HasSuffix (nameOf path) suffix → registry.ofExtension suffix ≠ .error reason) ∧
    ∀ files, indexer.walk project root = .ok files →
      (∀ path, path ∈ files ↔ ∃ entry bytes suffix, indexer.Meets project root path entry ∧
        indexer.Shows project root path bytes ∧ HasSuffix (nameOf path) suffix ∧
        lower suffix ∈ registry.extensions ∧ (bytes.size : Int) ≤ settings.maxFileSize) ∧
      files.Pairwise (· < ·) := by
  intro registry indexer
  refine ⟨?_, fun files ends => ?_⟩
  · -- Leaf by leaf: what stops the walk is a misleading link, or a suffix whose language
    -- cannot be had.
    rw [walk_ends_iff wellNamed]
    refine forall_congr' fun path => forall_congr' fun entry => forall_congr' fun meets => ?_
    have free := meets.slashFree wellNamed
    rw [inspect_fails_iff, not_or]
    constructor
    · rintro ⟨leads, usable⟩
      refine ⟨fun reason misleads => leads ⟨reason, misleads⟩, ?_⟩
      intro bytes suffix reason shows_ has unusable
      rw [← Registry.ofPath_of_hasSuffix has free] at unusable
      exact usable ⟨bytes, reason, shows_, unusable⟩
    · rintro ⟨leads, usable⟩
      refine ⟨fun misled => misled.elim leads, ?_⟩
      rintro ⟨bytes, reason, shows_, unusable⟩
      obtain ⟨suffix, has, same⟩ := Registry.exists_suffix_of_ofPath free (by rw [unusable]; simp)
      rw [same] at unusable
      exact usable bytes suffix reason shows_ has unusable
  · -- Since nothing stopped the walk, a registered suffix is one whose language can be had.
    have unstopped := (walk_ends_iff wellNamed).mp ⟨files, ends⟩
    rw [walk_eq_ok wellNamed ends]
    refine ⟨fun path => ?_, indexer.pairwise_sourceFiles wellNamed root⟩
    simp only [mem_sourceFiles_iff wellNamed, wants_iff]
    constructor
    · rintro ⟨entry, meets, wanted⟩
      obtain ⟨bytes, language, shows_, known, small⟩ := inspect_eq_true_iff.mp wanted
      have free := meets.slashFree wellNamed
      obtain ⟨suffix, has, registered, -⟩ :=
        (Registry.exists_language_iff free).mp ⟨language, known⟩
      exact ⟨entry, bytes, suffix, meets, shows_, has, registered, small⟩
    · rintro ⟨entry, bytes, suffix, meets, shows_, has, registered, small⟩
      have free := meets.slashFree wellNamed
      have usable (reason : RegistryFault) : registry.ofExtension suffix ≠ .error reason := by
        intro unusable
        rw [← Registry.ofPath_of_hasSuffix has free] at unusable
        exact unstopped path entry meets
          (inspect_fails_iff.mpr (.inr ⟨bytes, reason, shows_, unusable⟩))
      obtain ⟨language, known⟩ :=
        (Registry.exists_language_iff free).mpr ⟨suffix, has, registered, usable⟩
      exact ⟨entry, meets, inspect_eq_true_iff.mpr ⟨bytes, language, shows_, known, small⟩⟩

/-- A link from the top that leads over another link, up and down again to a file elsewhere is found
under its own name, with the size of that file. -/
theorem walk_exact_through_link :
    let registrations : List Registration :=
      [⟨"script", .ok (Registry.plainLanguage "script" []), ["JS"]⟩]
    let indexer : Indexer := ⟨{ ignoreFiles := [] }, Registry.ofRegistrations registrations, none⟩
    let project : Folder := [("p", .folder [("d", .folder [("l.js", .link "/../m/d/.././z.txt")])]),
      ("q", .folder [("d", .folder []), ("z.txt", .file ⟨#[1, 2, 3]⟩)]), ("m", .link "p/../q")]
    project.wellNamed = true ∧ indexer.walk project ["p"] = .ok [["d", "l.js"]] ∧
      ∃ entry bytes suffix, indexer.Meets project ["p"] ["d", "l.js"] entry ∧
        indexer.Shows project ["p"] ["d", "l.js"] bytes ∧ HasSuffix "l.js" suffix ∧
        lower suffix ∈ indexer.registry.extensions ∧
        (bytes.size : Int) ≤ indexer.settings.maxFileSize := by
  -- The walk is evaluated, and what it finds is then explained.
  intro registrations indexer project
  have wellNamed : project.wellNamed = true := by decide +kernel
  have found : (indexer.walk project ["p"]).toOption = some [["d", "l.js"]] := by decide +kernel
  have ends := eq_ok_of_toOption found
  obtain ⟨found, _⟩ :=
    (walk_exact { ignoreFiles := [] } registrations none project ["p"] wellNamed).2 _ ends
  exact ⟨wellNamed, ends, (found ["d", "l.js"]).mp (by simp)⟩

/-- A link through a file stops the walk, and the file itself is not found. -/
theorem walk_stopped_by_link :
    let registrations : List Registration :=
      [⟨"script", .ok (Registry.plainLanguage "script" []), ["js"]⟩]
    let indexer : Indexer := ⟨{ ignoreFiles := [] }, Registry.ofRegistrations registrations, none⟩
    let project : Folder := [("a.js", .link "f.js/x"), ("f.js", .file ⟨#[120]⟩)]
    project.wellNamed = true ∧
      (∃ entry bytes suffix, indexer.Meets project [] ["f.js"] entry ∧
        indexer.Shows project [] ["f.js"] bytes ∧ HasSuffix "f.js" suffix ∧
        lower suffix ∈ indexer.registry.extensions ∧
        (bytes.size : Int) ≤ indexer.settings.maxFileSize) ∧
      ¬ ∃ files, indexer.walk project [] = .ok files := by
  -- The file alone would be found, for it is shown and its suffix is registered.
  intro registrations indexer project
  have wellNamed : project.wellNamed = true := by decide +kernel
  have linked : project.at? ["a.js"] = some (.link "f.js/x") := by simp [project]
  have stands : project.at? ["f.js"] = some (.file ⟨#[120]⟩) := by simp [project]
  have meets : indexer.Meets project [] ["f.js"] (.file ⟨#[120]⟩) := ⟨by simp, stands, rfl, by simp⟩
  have gives : project.Gives ["f.js"] ⟨#[120]⟩ :=
    ⟨0, [], "f.js", by decide, .here, by decide, stands⟩
  refine ⟨wellNamed, ⟨_, _, ".js", meets, ⟨gives, by simp [indexer]⟩, ?_, ?_, by decide⟩, ?_⟩
  · exact ⟨['f'], ['j', 's'], by decide, by decide, by decide, by decide, by decide⟩
  · exact Registry.mem_extensions_iff.mpr (Option.isSome_iff_exists.mp (by decide +kernel))
  · -- The link goes on behind the file it names.
    rw [walk_ends_iff wellNamed]
    intro unstopped
    have parts : Folder.linkParts "f.js/x" = ["f.js", "x"] := by decide +kernel
    have start : Folder.linkStart [] "f.js/x" = [] := by decide +kernel
    have leads : Folder.Leads project [] ["f.js", "x"] 1 [] ["a.js"] := by
      refine .follow (by decide) linked ?_
      rw [parts, start]
      exact .here
    have misleads : project.Misleads ["a.js"] .throughFile :=
      .throughFile (by decide) leads (by decide) stands
    exact unstopped ["a.js"] _ ⟨by simp, linked, rfl, by simp⟩ ⟨_, inspect_of_misleads misleads⟩

end Indexer

end SourceAtlas
