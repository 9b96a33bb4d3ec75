import SourceAtlas.Proofs.FileTree.Naming
import SourceAtlas.Proofs.Index.References
import SourceAtlas.Proofs.Index.Texts
import SourceAtlas.Proofs.Project.Cache

/-! Histories of a project: after every build, however the stored snapshot came about, the
snapshot is that of a scan. -/

namespace SourceAtlas

/-- A project and the file tree that it works on. -/
structure Session (σ : Type) where
  tree : Folder
  project : Project σ

/-- What can happen to a project and its tree. -/
inductive Step where
  /-- Someone changes the tree. -/
  | edit (tree : Folder)
  | build (force incremental : Bool)
  | load
  | clear

namespace Session

variable {σ : Type}

/-- What is left after a step, whether it succeeds or fails. -/
def next (root : List String) (session : Session σ) : Step → Session σ
  | .edit tree => { session with tree }
  | .build force incremental =>
    let built := session.project.build session.tree root force incremental
    { tree := built.2.1, project := built.2.2 }
  | .load => { session with project := (session.project.load session.tree root).2 }
  | .clear =>
    let cleared := session.project.clear session.tree root
    { tree := cleared.2.1, project := cleared.2.2 }

/-- What is left after some steps. -/
def run (root : List String) (session : Session σ) (steps : List Step) : Session σ :=
  steps.foldl (next root) session

/-- The text of the stored snapshot. -/
def storedText? (root : List String) (session : Session σ) : Option String :=
  session.tree.textAt? (Project.cachePath session.project.indexer.settings root)

/-- No text has come to stand where the snapshot is stored. -/
def StoresNothing (root : List String) (session after : Session σ) : Prop :=
  ∀ text, after.storedText? root = some text → session.storedText? root = some text

/-- A step that can be expected: edits give trees with proper names, builds find texts that may
occur, and nothing but a build that succeeds writes the stored snapshot. -/
def Allows (occurs : String → Prop) (root : List String) (session : Session σ) (step : Step) :
    Prop :=
  match step with
  | .edit tree => tree.wellNamed = true ∧ session.StoresNothing root (session.next root step)
  | .build force incremental =>
    (∀ text ∈ session.project.indexer.texts session.tree root, occurs text.2) ∧
      ((session.project.build session.tree root force incremental).1 = .ok () ∨
        session.StoresNothing root (session.next root step))
  | .load => True
  | .clear => True

/-- A history each step of which can be expected. -/
def AllowsAll (occurs : String → Prop) (root : List String) : Session σ → List Step → Prop
  | _, [] => True
  | session, step :: steps =>
    session.Allows occurs root step ∧ AllowsAll occurs root (session.next root step) steps

end Session

/-- What is asked of an indexer on the texts that may occur: the names that it finds have no colons,
the other fields of its symbols have no doubles, and different texts have different fingerprints. -/
structure Indexer.Tame (indexer : Indexer) (occurs : String → Prop) : Prop where
  colonFree : ∀ file content, occurs content → indexer.ColonFree file content
  plain : ∀ file content symbol, occurs content → indexer.Candidate file content symbol →
    (Json.obj symbol.extras).keysDistinct = true ∧ (Json.obj symbol.extras).floatFree = true
  apart : ∀ content other, occurs content → occurs other → fingerprint content = fingerprint other →
    content = other

namespace Project

variable {σ : Type}

/-- The snapshot that a build starts from, if any, shows texts with distinct names, and none of them
is mistaken for a text that is there now. -/
def StartsFromTexts (project : Project σ) (tree : Folder) (root : List String)
    (force incremental : Bool) : Prop :=
  ∀ previous, project.previous? tree root force incremental = .ok (some previous) →
    ∃ old, previous.Shows project.indexer old ∧ old.keys.Nodup ∧
      ∀ text ∈ project.indexer.texts tree root, ∀ other ∈ old,
        fingerprint text.2 = fingerprint other.2 → text.2 = other.2

/-- A scan, and a refresh of what a build starts from, show the texts in the tree. -/
theorem StartsFromTexts.shows {project : Project σ} {tree : Folder} {root : List String}
    {force incremental : Bool} (starts : project.StartsFromTexts tree root force incremental)
    (wellNamed : tree.wellNamed = true)
    (colonFree : ∀ text ∈ project.indexer.texts tree root, project.indexer.ColonFree text.1 text.2)
    {previous : Option Snapshot} {fresh snapshot : Snapshot}
    (probe : project.previous? tree root force incremental = .ok previous)
    (scans : project.indexer.scan tree root = .ok fresh)
    (origin : Origin project.indexer tree root previous fresh snapshot) :
    snapshot.Shows project.indexer (project.indexer.texts tree root) ∧ snapshot.IsTidy := by
  -- A build takes a scan or a refresh.
  have distinct := project.indexer.nodup_keys_texts wellNamed root
  cases origin with
  | scan =>
    -- A scan shows what it reads.
    rw [((Indexer.scan_eq_ok_iff wellNamed).mp scans).2]
    have shows := Indexer.scanned_shows wellNamed colonFree
    exact ⟨shows, shows.isTidy distinct (project.indexer.tidy_references tree root {} _).1⟩
  | @refresh earlier refreshed changes isPrevious returns =>
    -- A refresh starts from a snapshot of older texts, and equal fingerprints mean equal texts.
    obtain ⟨old, shown, oldDistinct, apart⟩ := starts earlier (isPrevious ▸ probe)
    have isRefresh := congrArg Prod.fst ((Indexer.refresh_eq_ok_iff wellNamed).mp returns).2
    dsimp only at isRefresh
    rw [isRefresh]
    have shows := Indexer.refreshed_shows wellNamed colonFree oldDistinct shown apart
    exact ⟨shows, shows.isTidy distinct (project.indexer.tidy_references tree root earlier _).2⟩

/-- Saving keeps names proper. -/
private theorem wellNamed_save (project : Project σ) {tree : Folder} {root : List String}
    (wellNamed : tree.wellNamed = true) (free : SlashFree root) :
    (project.save tree root).2.wellNamed = true := by
  -- Names of folders that are made and of the file come from a path without slashes.
  have pathFree : SlashFree (cachePath project.indexer.settings root) :=
    (free.pathFrom _).pathFrom _
  rw [save]
  cases project.snapshot with
  | none => exact wellNamed
  | some snapshot =>
    dsimp only
    have provided := Folder.wellNamed_provide wellNamed pathFree.dropLast
    cases isProvided : tree.provide (cachePath project.indexer.settings root).dropLast with
    | mk result middle =>
      rw [isProvided] at provided
      cases result with
      | error fault => exact provided
      | ok =>
        dsimp only
        split
        · cases written : middle.write (cachePath project.indexer.settings root)
              snapshot.render.toUTF8 with
          | error fault => exact provided
          | ok after => exact Folder.wellNamed_write provided pathFree written
        · exact provided

/-- Loading keeps the indexer. -/
private theorem indexer_load (project : Project σ) (tree : Folder) (root : List String) :
    (project.load tree root).2.indexer = project.indexer := by
  -- Whatever is found, only the snapshot and the root are taken.
  rw [load]
  split
  · rfl
  · split <;> rfl

end Project

/-- A text that some snapshot of texts with distinct names that may occur is stored as. -/
def Indexer.IsStored (indexer : Indexer) (occurs : String → Prop) (stored : String) : Prop :=
  ∃ texts snapshot, stored = Snapshot.render snapshot ∧ snapshot.isWritable = true ∧
    snapshot.IsTidy ∧ snapshot.Shows indexer texts ∧ texts.keys.Nodup ∧
    ∀ text ∈ texts, occurs text.2

namespace Session

variable {σ : Type}

/-- What holds all along a history: names are proper, and the stored snapshot, if
any, is that of texts. -/
structure IsSound (indexer : Indexer) (occurs : String → Prop) (root : List String)
    (session : Session σ) : Prop where
  indexed : session.project.indexer = indexer
  wellNamed : session.tree.wellNamed = true
  stored : ∀ text, session.storedText? root = some text → indexer.IsStored occurs text

variable {indexer : Indexer} {occurs : String → Prop} {root : List String} {session : Session σ}

/-- A session in which nothing is stored yet is sound. -/
theorem IsSound.of_unstored (wellNamed : session.tree.wellNamed = true)
    (unstored : session.storedText? root = none) :
    session.IsSound session.project.indexer occurs root :=
  ⟨rfl, wellNamed, fun _ isText => absurd (unstored.symm.trans isText) (by simp)⟩

/-- The snapshot that a build starts from shows the texts of an earlier build. -/
theorem IsSound.previous (sound : session.IsSound indexer occurs root) (tame : indexer.Tame occurs)
    {force incremental : Bool} {previous : Snapshot}
    (found : session.project.previous? session.tree root force incremental = .ok (some previous)) :
    ∃ texts, previous.Shows indexer texts ∧ texts.keys.Nodup ∧ ∀ text ∈ texts, occurs text.2 := by
  -- What is stored was rendered from a snapshot of texts, and reading gives that snapshot back.
  obtain ⟨value, held, accepted⟩ := Project.previous?_eq_some found
  obtain ⟨text, isText, parsed⟩ := Project.stored?_eq_some_iff.mp held
  obtain ⟨texts, snapshot, rfl, writable, tidy, shows, distinct, known⟩ := sound.stored text isText
  cases Snapshot.eq_reread_of_parse tidy parsed accepted
  -- Symbols without doubles that could be written are read back as they were.
  have same : snapshot.symbols.map Symbol.reread = snapshot.symbols := by
    refine (List.map_congr_left (g := id) fun symbol member => ?_).trans (List.map_id _)
    rw [Snapshot.isWritable, Bool.and_eq_true] at writable
    have whole := Snapshot.isWhole_of_isWritable (List.all_eq_true.mp writable.1 symbol member)
    rw [shows.symbols] at member
    obtain ⟨text, listed, inside⟩ := List.mem_flatMap.mp member
    obtain ⟨keys, exact_⟩ := tame.plain text.1 text.2 symbol (known text listed)
      ((indexer.pieceOf_spec text.1 text.2).1 symbol inside)
    exact Symbol.reread_eq_self (by simp [Json.isPlain, keys, exact_, whole])
  exact ⟨texts, ⟨same.trans shows.symbols, shows.fileHashes⟩, distinct, known⟩

/-- Along a history that can be expected, a build starts from texts. -/
theorem IsSound.startsFromTexts (sound : session.IsSound indexer occurs root)
    (tame : indexer.Tame occurs) (known : ∀ text ∈ indexer.texts session.tree root, occurs text.2)
    (force incremental : Bool) :
    session.project.StartsFromTexts session.tree root force incremental := by
  -- Both the texts that are there and those of the stored snapshot may occur.
  intro previous found
  obtain ⟨old, earlier, distinct, oldKnown⟩ := sound.previous tame found
  rw [sound.indexed]
  exact ⟨old, earlier, distinct, fun text member other listed =>
    tame.apart _ _ (known text member) (oldKnown other listed)⟩

/-- A build takes a snapshot of the texts in the tree. -/
theorem IsSound.build (sound : session.IsSound indexer occurs root) (tame : indexer.Tame occurs)
    {force incremental : Bool} (known : ∀ text ∈ indexer.texts session.tree root, occurs text.2)
    {previous : Option Snapshot} {fresh snapshot : Snapshot}
    (probe : session.project.previous? session.tree root force incremental = .ok previous)
    (scans : indexer.scan session.tree root = .ok fresh)
    (origin : Project.Origin indexer session.tree root previous fresh snapshot) :
    snapshot.Shows indexer (indexer.texts session.tree root) ∧ snapshot.IsTidy := by
  -- The names that are found in texts that may occur have no colons.
  obtain rfl := sound.indexed
  exact (sound.startsFromTexts tame known force incremental).shows sound.wellNamed
    (fun text member => tame.colonFree text.1 text.2 (known text member)) probe scans origin

/-- The snapshot after a build that gets as far as to scan shows the texts in the tree. -/
theorem IsSound.snapshot_shows (sound : session.IsSound indexer occurs root)
    (tame : indexer.Tame occurs) {force incremental : Bool}
    (known : ∀ text ∈ indexer.texts session.tree root, occurs text.2)
    (reaches : ∃ previous,
      session.project.previous? session.tree root force incremental = .ok previous)
    (ends : ∃ files, indexer.walk session.tree root = .ok files) {snapshot : Snapshot}
    (has : (session.project.build session.tree root force incremental).2.2.snapshot
      = some snapshot) :
    snapshot.Shows indexer (indexer.texts session.tree root) := by
  -- The walk ends, so the build gets as far as to scan.
  have isFresh := (Indexer.scan_eq_ok_iff sound.wellNamed).mpr ⟨ends, rfl⟩
  have outcome := session.project.buildOutcome session.tree root force incremental
  generalize session.project.build session.tree root force incremental = built at outcome has
  obtain ⟨previous, reached⟩ := reaches
  cases outcome with
  | unreached fails => cases fails.symm.trans reached
  | stopped _ stops =>
    rw [sound.indexed] at stops
    cases stops.symm.trans isFresh
  | indexed probe scans origin =>
    cases has
    rw [sound.indexed] at scans origin
    exact (sound.build tame known probe scans origin).1

/-- A build that can be expected keeps a session sound. -/
theorem IsSound.next_build (sound : session.IsSound indexer occurs root)
    (tame : indexer.Tame occurs) (free : SlashFree root) {force incremental : Bool}
    (allowed : session.Allows occurs root (.build force incremental)) :
    (session.next root (.build force incremental)).IsSound indexer occurs root := by
  -- The outcome tells which tree and which project are left.
  obtain ⟨known, keeps⟩ := allowed
  rw [sound.indexed] at known
  have outcome := session.project.buildOutcome session.tree root force incremental
  generalize isAfter : session.next root (.build force incremental) = after at keeps ⊢
  have isTree : after.tree = (session.project.build session.tree root force incremental).2.1 := by
    rw [← isAfter]
    rfl
  have isProject : after.project
      = (session.project.build session.tree root force incremental).2.2 := by
    rw [← isAfter]
    rfl
  have sameIndexer : after.project.indexer = indexer := by
    rw [isProject, session.project.indexer_build]
    exact sound.indexed
  clear isAfter
  generalize session.project.build session.tree root force incremental = built
    at outcome keeps isTree isProject
  -- A build that stores no text leaves the stored one, if any.
  have unstored : after.tree.wellNamed = true → session.StoresNothing root after →
      after.IsSound indexer occurs root := fun wellNamed keeps =>
    ⟨sameIndexer, wellNamed, fun text isText => sound.stored text (keeps text isText)⟩
  -- A build that does not get as far as its scan leaves the tree.
  have untouched : after.tree = session.tree → after.IsSound indexer occurs root :=
    fun sameTree => unstored (sameTree ▸ sound.wellNamed) fun text isText => by
      rwa [storedText?, sameTree, sameIndexer, ← sound.indexed] at isText
  cases outcome with
  | unreached probe => exact untouched isTree
  | stopped probe stops => exact untouched isTree
  | @indexed previous fresh snapshot changes probe scans origin =>
    have has : (session.project.withSnapshot snapshot).snapshot = some snapshot := rfl
    have wellNamed : after.tree.wellNamed = true := by
      rw [isTree]
      exact Project.wellNamed_save _ sound.wellNamed free
    by_cases saved : ((session.project.withSnapshot snapshot).save session.tree root).1 = .ok ()
    · -- The stored text is the one just rendered, of the texts just read.
      rw [sound.indexed] at scans origin
      obtain ⟨shows, tidy⟩ := sound.build tame known probe scans origin
      have writable := ((Project.save_eq_ok_iff has).mp saved).1
      refine ⟨sameIndexer, wellNamed, fun text isText => ?_⟩
      have isRender := Project.textAt?_of_save has saved
      rw [storedText?, isTree, isProject] at isText
      cases isRender.symm.trans isText
      exact ⟨_, snapshot, rfl, writable, tidy, shows,
        indexer.nodup_keys_texts sound.wellNamed root, known⟩
    · exact unstored wellNamed (keeps.resolve_left saved)

/-- A step that can be expected keeps a session sound. -/
theorem IsSound.next (sound : session.IsSound indexer occurs root) (tame : indexer.Tame occurs)
    (free : SlashFree root) {step : Step} (allowed : session.Allows occurs root step) :
    (session.next root step).IsSound indexer occurs root := by
  -- Each step leaves the stored text, removes it or is a build.
  cases step with
  | edit tree =>
    -- An edit leaves the stored text or removes it.
    obtain ⟨wellNamed, keeps⟩ := allowed
    exact ⟨sound.indexed, wellNamed, fun text isText => sound.stored text (keeps text isText)⟩
  | build force incremental => exact sound.next_build tame free allowed
  | load =>
    -- Loading changes the project only, and keeps its indexer.
    have sameIndexer := session.project.indexer_load session.tree root
    refine ⟨sameIndexer.trans sound.indexed, sound.wellNamed,
      fun text isText => sound.stored text ?_⟩
    rw [storedText?] at isText ⊢
    rw [← isText, ← sameIndexer]
    rfl
  | clear =>
    -- Clearing does nothing, fails, or removes an entry, and removing brings no
    -- text that was not there.
    rw [Session.next]
    rcases session.project.clear_cases session.tree root with
      ⟨fault, cleared⟩ | ⟨after, cleared, rfl | ⟨names, rfl⟩⟩
    · rw [cleared]
      exact sound
    · rw [cleared]
      exact ⟨sound.indexed, sound.wellNamed, sound.stored⟩
    · rw [cleared]
      exact ⟨sound.indexed, Folder.wellNamed_remove sound.wellNamed _,
        fun text isText => sound.stored text ((Folder.within_remove session.tree _).textAt? isText)⟩

/-- A history that can be expected keeps a session sound. -/
theorem IsSound.run (sound : session.IsSound indexer occurs root) (tame : indexer.Tame occurs)
    (free : SlashFree root) {steps : List Step} (allowed : session.AllowsAll occurs root steps) :
    (session.run root steps).IsSound indexer occurs root := by
  -- The induction is on the steps, with the step above.
  induction steps generalizing session with
  | nil => exact sound
  | cons step steps ih => exact ih (sound.next tame free allowed.1) allowed.2

/-- The last step of a history that can be expected can be expected where the others lead. -/
theorem AllowsAll.last {steps : List Step} {step : Step}
    (allowed : session.AllowsAll occurs root (steps ++ [step])) :
    session.AllowsAll occurs root steps ∧ (session.run root steps).Allows occurs root step := by
  -- The induction is on the steps before the last.
  induction steps generalizing session with
  | nil => exact ⟨trivial, allowed.1⟩
  | cons first steps ih => exact ⟨⟨allowed.1, (ih allowed.2).1⟩, (ih allowed.2).2⟩

end Session

/-- Two snapshots have the same symbols, the same fingerprints and the same count of files. -/
structure Snapshot.Matches (snapshot other : Snapshot) : Prop where
  symbols : snapshot.symbols = other.symbols
  fileHashes : snapshot.fileHashes = other.fileHashes
  totalFiles : snapshot.stats.totalFiles = other.stats.totalFiles

namespace Session

variable {σ : Type}

/-- In a sound session a build that gets as far as its scan takes what that scan finds. -/
private theorem IsSound.matches_scan {session : Session σ} {indexer : Indexer}
    {occurs : String → Prop} {root : List String} (sound : session.IsSound indexer occurs root)
    (tame : indexer.Tame occurs) (known : ∀ text ∈ indexer.texts session.tree root, occurs text.2)
    {force incremental : Bool} {previous : Option Snapshot} {fresh snapshot : Snapshot}
    (reached : session.project.previous? session.tree root force incremental = .ok previous)
    (scans : indexer.scan session.tree root = .ok fresh)
    (origin : Project.Origin indexer session.tree root previous fresh snapshot) :
    snapshot.Matches fresh := by
  -- Both the snapshot and the scan show the texts of the tree.
  obtain ⟨shows, _⟩ := sound.build tame known reached scans origin
  have isFresh := ((Indexer.scan_eq_ok_iff sound.wellNamed).mp scans).2
  have scanned := Indexer.scanned_shows sound.wellNamed fun text member =>
    tame.colonFree text.1 text.2 (known text member)
  rw [← isFresh] at scanned
  -- The fingerprints and the count are those of the scan, whatever the build started from.
  exact ⟨shows.symbols.trans scanned.symbols.symm, (origin.counts scans).1,
    (origin.counts scans).2.1⟩

/-- From a start without a stored snapshot, every build of every history that gets as far as its
scan takes the symbols, fingerprints and count of files of that scan; and also those of a scan of
the tree that it leaves, when every file that is walked could be reached before and is not the
stored snapshot. A build that does not get so far leaves tree and snapshot as they were. -/
theorem build_matches_scan {start : Session σ} {root : List String} {occurs : String → Prop}
    (free : SlashFree root) (wellNamed : start.tree.wellNamed = true)
    (unstored : start.storedText? root = none) (tame : start.project.indexer.Tame occurs)
    (steps : List Step) (force incremental : Bool)
    (allowed : start.AllowsAll occurs root (steps ++ [.build force incremental])) :
    let indexer := start.project.indexer
    let before := start.run root steps
    let after := before.next root (.build force incremental)
    let path := Project.cachePath indexer.settings root
    let probe := before.project.previous? before.tree root force incremental
    (∀ previous fresh, probe = .ok previous → indexer.scan before.tree root = .ok fresh →
      ∃ snapshot, after.project.snapshot = some snapshot ∧ snapshot.Matches fresh ∧
        (indexer.LeavesAside root (after.tree.locate path).toOption before.tree after.tree →
          ∀ later, indexer.scan after.tree root = .ok later → snapshot.Matches later)) ∧
    ((∃ fault, probe = .error fault) ∨ (∃ fault, indexer.scan before.tree root = .error fault) →
      after.tree = before.tree ∧ before.project.KeepsIndex after.project) := by
  -- The history up to the build keeps the session sound, and the build itself does too.
  intro indexer before after path probe
  obtain ⟨allowedBefore, allowedBuild⟩ := AllowsAll.last allowed
  have startSound : start.IsSound indexer occurs root := .of_unstored wellNamed unstored
  have sound : before.IsSound indexer occurs root := startSound.run tame free allowedBefore
  have afterSound : after.IsSound indexer occurs root := sound.next tame free allowedBuild
  have known : ∀ text ∈ indexer.texts before.tree root, occurs text.2 := by
    have known := allowedBuild.1
    rwa [sound.indexed] at known
  have outcome := before.project.buildOutcome before.tree root force incremental
  have isTree : after.tree = (before.project.build before.tree root force incremental).2.1 := rfl
  have isProject : after.project = (before.project.build before.tree root force incremental).2.2 :=
    rfl
  -- Whatever comes of the build, it writes at the place of the stored snapshot only.
  have grows := before.project.growsBeside_build before.tree root force incremental
  rw [← isTree, sound.indexed] at grows
  clear_value after before
  generalize before.project.build before.tree root force incremental = built
    at outcome isTree isProject
  cases outcome with
  -- The build could not tell whether a snapshot is stored, so it did nothing.
  | unreached fails =>
    refine ⟨fun previous fresh reached => ?_, fun _ => ?_⟩
    · cases fails.symm.trans reached
    · rw [isTree, isProject]
      exact ⟨rfl, rfl, rfl⟩
  | stopped reached stops =>
    -- The walk broke off, so nothing was taken.
    rw [sound.indexed] at stops
    refine ⟨fun previous fresh _ scans => ?_, fun _ => ?_⟩
    · cases stops.symm.trans scans
    · rw [isTree, isProject]
      exact ⟨rfl, rfl, rfl⟩
  | @indexed previous fresh snapshot changes reached scans origin =>
    rw [sound.indexed] at scans origin
    refine ⟨fun other fresh' _ scans' => ?_, fun fails => ?_⟩
    · cases scans.symm.trans scans'
      have same := sound.matches_scan tame known reached scans origin
      refine ⟨snapshot, by rw [isProject]; rfl, same, fun aside later scansLater => ?_⟩
      -- The walk leaves aside the one place where saving may have put a file.
      have isFresh := ((Indexer.scan_eq_ok_iff sound.wellNamed).mp scans).2
      have isLater := ((Indexer.scan_eq_ok_iff afterSound.wellNamed).mp scansLater).2
      rwa [isLater, Indexer.scanned_of_grows sound.wellNamed afterSound.wellNamed grows aside,
        ← isFresh]
    · -- The build has got as far as to scan.
      rcases fails with ⟨fault, fails⟩ | ⟨fault, stops⟩
      · cases reached.symm.trans fails
      · cases scans.symm.trans stops

/-- Without a parser only the fingerprints matter: the names that are found have no colons, and
there are no other fields. -/
theorem tame_of_unparsed {indexer : Indexer} {occurs : String → Prop}
    (unparsed : indexer.parser = none)
    (apart : ∀ content other, occurs content → occurs other →
      fingerprint content = fingerprint other → content = other) : indexer.Tame occurs := by
  -- Without a parser there are no trees, so all symbols come from lines.
  have noTree : ∀ file content language tree, ¬ indexer.Parses file content language tree := by
    rintro file content language tree ⟨_, parser, grammar, found, _⟩
    simp [unparsed] at found
  refine ⟨fun file content _ language tree parses => (noTree _ _ _ _ parses).elim, ?_, apart⟩
  intro file content symbol _ candidate
  cases candidate with
  | declared language listed => exact ⟨rfl, rfl⟩
  | matched parses => exact (noTree _ _ _ _ parses).elim

/-- Without a parser and with only one text there is nothing to be mistaken. -/
theorem tame_of_one_text {indexer : Indexer} (unparsed : indexer.parser = none)
    (content : String) : indexer.Tame (· = content) :=
  tame_of_unparsed unparsed fun _ _ isContent isOther _ => isContent.trans isOther.symm

/-- Without a parser symbols and references have no other fields, so what is
scanned can be written. -/
private theorem isWritable_of_unparsed {indexer : Indexer} (unparsed : indexer.parser = none)
    {tree : Folder} (wellNamed : tree.wellNamed = true) (root : List String) :
    (indexer.scanned tree root).isWritable = true := by
  -- Without a parser there are no trees, so all symbols come from lines.
  have noTree : ∀ file content language parsed, ¬ indexer.Parses file content language parsed := by
    rintro file content language tree ⟨_, parser, grammar, found, _⟩
    simp [unparsed] at found
  have shows := Indexer.scanned_shows wellNamed fun text (_ : text ∈ indexer.texts tree root) =>
    fun language parsed parses => (noTree text.1 text.2 language parsed parses).elim
  rw [Snapshot.isWritable, Bool.and_eq_true, List.all_eq_true, List.all_eq_true, shows.symbols,
    Indexer.references_scanned]
  constructor
  · -- Symbols from lines have no other fields.
    intro symbol member
    obtain ⟨text, _, inside⟩ := List.mem_flatMap.mp member
    cases (indexer.pieceOf_spec text.1 text.2).1 symbol inside with
    | declared => rfl
    | matched parses => exact (noTree _ _ _ _ parses).elim
  · intro reference member
    obtain ⟨path, _, inside⟩ := List.mem_flatMap.mp member
    rw [Indexer.referencesAt] at inside
    split at inside
    · rename_i content _
      -- Where the language is known the lines are read, and elsewhere nothing.
      rw [Indexer.referencesOf, Indexer.addText, unparsed] at inside
      split at inside
      · cases inside
      · dsimp only [Draft.addLines, Draft.addReferences] at inside
        rw [Draft.references_foldl fun draft found => Draft.references_addSymbol draft _] at inside
        obtain ⟨found, _, rfl⟩ := List.mem_map.mp inside
        rfl
    · cases inside

section Builds

variable {root : List String} {session : Session σ} {force incremental : Bool}

/-- A build that succeeds writes the stored snapshot at the place for it. -/
private theorem next_build_writes {place : List String}
    (returns : (session.project.build session.tree root force incremental).1 = .ok ())
    (found : ((session.tree.provide
      (Project.cachePath session.project.indexer.settings root).dropLast).2.placeFor
      (Project.cachePath session.project.indexer.settings root)).toOption = some place) :
    let after := session.next root (.build force incremental)
    ∃ bytes, session.tree.Writes place bytes after.tree ∧
      after.tree.locate (Project.cachePath session.project.indexer.settings root) = .ok place := by
  -- Of the outcomes only a snapshot that is saved returns.
  intro after
  have isTree : after.tree = (session.project.build session.tree root force incremental).2.1 := rfl
  clear_value after
  have outcome := session.project.buildOutcome session.tree root force incremental
  generalize session.project.build session.tree root force incremental = built
    at outcome returns isTree
  cases outcome with
  | unreached => cases returns
  | stopped => cases returns
  | @indexed _ _ snapshot _ _ _ _ =>
    have saving := @Project.saveOutcome _ (session.project.withSnapshot snapshot) snapshot rfl
      session.tree root
    generalize (session.project.withSnapshot snapshot).save session.tree root = result
      at saving returns isTree
    cases saving with
    | displaced => cases returns
    | unwritable => cases returns
    | saved _ _ isPlace writes leads =>
      rw [show Project.cachePath (session.project.withSnapshot snapshot).indexer.settings root
        = Project.cachePath session.project.indexer.settings root from rfl] at isPlace leads
      rw [isPlace] at found
      cases Option.some.inj found
      rw [isTree]
      exact ⟨_, writes, leads⟩

/-- Without a parser a build succeeds when it gets as far as its scan and has a
place for the snapshot. -/
private theorem build_returns (unparsed : session.project.indexer.parser = none)
    (wellNamed : session.tree.wellNamed = true)
    (reaches : ∃ previous,
      session.project.previous? session.tree root force incremental = .ok previous)
    (ends : ∃ files, session.project.indexer.walk session.tree root = .ok files)
    (hasPlace : session.tree.HasPlace (Project.cachePath session.project.indexer.settings root)) :
    (session.project.build session.tree root force incremental).1 = .ok () := by
  -- The walk ends, so a snapshot is taken, and the rest is up to the save.
  have isFresh := (Indexer.scan_eq_ok_iff wellNamed).mpr ⟨ends, rfl⟩
  have outcome := session.project.buildOutcome session.tree root force incremental
  generalize session.project.build session.tree root force incremental = built at outcome
  obtain ⟨previous, reached⟩ := reaches
  cases outcome with
  | unreached fails => cases fails.symm.trans reached
  | stopped _ stops => cases stops.symm.trans isFresh
  | @indexed _ fresh snapshot _ _ scans origin =>
    refine (Project.save_eq_ok_iff rfl).mpr ⟨?_, hasPlace⟩
    -- A refresh is taken only if it can be written, and a scan without a parser always can.
    cases origin with
    | refresh _ _ writable => exact writable
    | scan =>
      cases scans.symm.trans isFresh
      exact isWritable_of_unparsed unparsed wellNamed root

/-- A build over a stored text can be expected wherever its texts can. -/
private theorem allows_build_of_stored {occurs : String → Prop} {text : String}
    (stored : session.storedText? root = some text)
    (known : ∀ text ∈ session.project.indexer.texts session.tree root, occurs text.2) :
    session.Allows occurs root (.build force incremental) := by
  -- A build that returns may write what it likes.
  refine ⟨known, ?_⟩
  by_cases returns : (session.project.build session.tree root force incremental).1 = .ok ()
  · exact .inl returns
  · -- A build that fails has left the tree and with it the text.
    refine .inr fun other isOther => ?_
    have sameTree := Project.tree_of_failed_build stored returns
    have sameIndexer := session.project.indexer_build session.tree root force incremental
    rw [storedText?, Session.next] at isOther
    rwa [sameTree, sameIndexer] at isOther

/-- A session over one file at the top of the tree, with a stored snapshot beside it. -/
structure IsSingle (name : String) (bytes : ByteArray) (place : List String) (session : Session σ) :
    Prop where
  stands : session.tree.at? [name] = some (.file bytes)
  beside : ∀ {path entry}, entry.isFolder = false → path ≠ place →
    session.tree.at? path = some entry → path = [name]
  leads : session.tree.locate (Project.cachePath session.project.indexer.settings []) = .ok place
  stored : ∃ text, session.storedText? [] = some text

variable {name : String} {bytes : ByteArray} {place : List String}

/-- A build that succeeds where there is one file leaves that file and the stored snapshot. -/
theorem isSingle_of_build (single : session.tree = [(name, .file bytes)])
    (returns : (session.project.build session.tree [] force incremental).1 = .ok ())
    (found : ((session.tree.provide
      (Project.cachePath session.project.indexer.settings []).dropLast).2.placeFor
      (Project.cachePath session.project.indexer.settings [])).toOption = some place)
    (apart : [name] ≠ place) :
    (session.next [] (.build force incremental)).IsSingle name bytes place := by
  -- The one file is left alone, and what is written stands at its place.
  have sameIndexer := session.project.indexer_build session.tree [] force incremental
  obtain ⟨_, writes, leads⟩ := next_build_writes returns found
  obtain ⟨_, _, snapshot, _, _, _, _, _, stored⟩ := Project.snapshot_of_build returns
  refine ⟨?_, ?_, ?_, snapshot.render, ?_⟩
  · refine (writes.leaves rfl apart).mpr ?_
    simp [single]
  · -- Whatever stands elsewhere stood in the tree before.
    intro path entry isLeaf elsewhere stands
    have before := (writes.leaves isLeaf elsewhere).mp stands
    rw [single] at before
    obtain ⟨only, rfl, listed⟩ := Folder.leaf_of_flat (by simp [Entry.isFolder]) isLeaf before
    simp only [List.mem_singleton, Prod.mk.injEq] at listed
    rw [listed.1]
  · rw [Session.next, sameIndexer]
    exact leads
  · rw [storedText?, Session.next, sameIndexer]
    exact stored

/-- A further build leaves the file and the stored snapshot, whether it succeeds or fails. -/
theorem IsSingle.next_build (single : session.IsSingle name bytes place) (apart : [name] ≠ place)
    (force incremental : Bool) :
    (session.next [] (.build force incremental)).IsSingle name bytes place := by
  -- The stored snapshot has its place already, and nothing else is written.
  have sameIndexer := session.project.indexer_build session.tree [] force incremental
  have grows := session.project.growsBeside_build session.tree [] force incremental
  have leads : (session.project.build session.tree [] force incremental).2.1.locate
      (Project.cachePath session.project.indexer.settings []) = .ok place :=
    grows.larger.resolve single.leads
  rw [leads] at grows
  have elsewhere : ∀ {path : List String}, path ≠ place →
      some path ≠ (Except.ok place : Except FileFault _).toOption :=
    fun differs same => differs (Option.some.inj same)
  refine ⟨(grows.leaves rfl (elsewhere apart)).mpr single.stands, ?_, ?_, ?_⟩
  · intro path entry isLeaf differs stands
    exact single.beside isLeaf differs ((grows.leaves isLeaf (elsewhere differs)).mp stands)
  · rw [Session.next, sameIndexer]
    exact leads
  · -- The text is a new one, or the old one is left.
    obtain ⟨text, stored⟩ := single.stored
    rw [storedText?, Session.next, sameIndexer]
    by_cases returns : (session.project.build session.tree [] force incremental).1 = .ok ()
    · obtain ⟨_, _, snapshot, _, _, _, _, _, stored⟩ := Project.snapshot_of_build returns
      exact ⟨_, stored⟩
    · exact ⟨text, by rw [Project.tree_of_failed_build stored returns]; exact stored⟩

/-- The file is read under its name. -/
theorem IsSingle.bytesAt? (single : session.IsSingle name bytes place)
    (named : Folder.isName name = true) : session.tree.bytesAt? [name] = some bytes :=
  Folder.bytesAt?_eq_some_iff.mpr ⟨_, Folder.locate_of_file (by simpa using named) single.stands,
    single.stands⟩

/-- Where the stored snapshot lies in a folder that is skipped, the file is
the only one that is met. -/
theorem IsSingle.meets {indexer : Indexer} (single : session.IsSingle name bytes place)
    (skipped : ∃ name ∈ place.dropLast, indexer.settings.ignoreDirs.contains name = true)
    {path : List String} {entry : Entry} (meets : indexer.Meets session.tree [] path entry) :
    path = [name] := by
  -- The stored snapshot is not met, since its folder is skipped.
  obtain ⟨_, stands, isLeaf, passed⟩ := meets
  refine single.beside isLeaf ?_ stands
  rintro rfl
  obtain ⟨name, inside, isSkipped⟩ := skipped
  exact passed name inside (by simpa using isSkipped)

/-- The walk then ends and has found the file, if that is wanted where it stands alone. -/
theorem IsSingle.sourceFiles {indexer : Indexer} (single : session.IsSingle name bytes place)
    (wellNamed : session.tree.wellNamed = true) (named : Folder.isName name = true)
    (skipped : ∃ name ∈ place.dropLast, indexer.settings.ignoreDirs.contains name = true)
    (wanted : indexer.wants [(name, .file bytes)] [] ([name], .file bytes) = true) :
    (∃ files, indexer.walk session.tree [] = .ok files) ∧
      ∀ path, path ∈ indexer.sourceFiles session.tree [] ↔ path = [name] := by
  -- What is wanted depends on the bytes of a file, and they are the same in both trees.
  have alone : Folder.bytesAt? [(name, .file bytes)] [name] = some bytes := by
    have stands : Folder.at? [(name, .file bytes)] [name] = some (.file bytes) := by
      simp
    exact Folder.bytesAt?_eq_some_iff.mpr
      ⟨_, Folder.locate_of_file (by simpa using named) stands, stands⟩
  have isWanted : ∀ entry, indexer.wants session.tree [] ([name], entry) = true := by
    intro entry
    rw [← wanted]
    exact indexer.wants_of_bytesAt? ((single.bytesAt? named).trans alone.symm)
  refine ⟨Indexer.walk_ends_of_wanted wellNamed fun path entry meets => ?_, fun path => ?_⟩
  · rw [single.meets skipped meets]
    exact isWanted entry
  · rw [Indexer.mem_sourceFiles_iff wellNamed]
    constructor
    · -- Nothing else is met.
      rintro ⟨entry, meets, _⟩
      exact single.meets skipped meets
    · rintro rfl
      exact ⟨_, ⟨by simp, single.stands, rfl, by simp⟩, isWanted _⟩

end Builds

/-- A tree with one file is built twice, the second time from the stored snapshot of the first. -/
theorem build_matches_scan_twice :
    let language : Language := {
      identity := { name := "t", displayName := "T", extensions := [".t"] }
      symbolPatterns := []
      referencePatterns := .ok []
      parameterNames := fun _ => []
      inferKind := fun _ kind => kind }
    let project : Project Unit := {
      indexer := ⟨{}, Registry.empty.registerAll [language], none⟩
      advisor := ⟨⟨fun _ => (.ok none, ()), (), none⟩, (), none⟩ }
    let start : Session Unit := ⟨[("a.t", .file "class F".toUTF8)], project⟩
    let before := start.run [] [.build false true]
    let after := before.next [] (.build false true)
    ∃ snapshot later, after.project.snapshot = some snapshot ∧
      project.indexer.scan after.tree [] = .ok later ∧ snapshot.Matches later := by
  -- Only one text ever occurs, so no two texts are mistaken for one another.
  intro language project start before after
  let bytes := "class F".toUTF8
  let place := [".code-index", "cache", "code-index.json"]
  have tame : project.indexer.Tame (· = "class F") := tame_of_one_text rfl _
  have free : SlashFree [] := by
    simp [SlashFree]
  have wellNamed : start.tree.wellNamed = true := by
    decide
  have unstored : start.storedText? [] = none := by
    decide +kernel
  have known : ∀ text ∈ project.indexer.texts start.tree [], text.2 = "class F" := by
    decide +kernel
  -- The first build returns, and leaves the file and the stored snapshot.
  have sound : start.IsSound project.indexer (· = "class F") [] := .of_unstored wellNamed unstored
  have returns : (start.project.build start.tree [] false true).1 = .ok () :=
    eq_ok_of_toOption (by decide +kernel)
  have found : ((start.tree.provide
      (Project.cachePath start.project.indexer.settings []).dropLast).2.placeFor
      (Project.cachePath start.project.indexer.settings [])).toOption = some place := by
    decide +kernel
  have apart : ["a.t"] ≠ place := by
    simp [place]
  have allowed : start.Allows (· = "class F") [] (.build false true) := ⟨known, .inl returns⟩
  have soundBefore : before.IsSound project.indexer (· = "class F") [] :=
    sound.next tame free allowed
  have singleBefore : before.IsSingle "a.t" bytes place := isSingle_of_build rfl returns found apart
  -- The second build meets the same file, and the snapshot of the first.
  have skipped : ∃ name ∈ place.dropLast,
      project.indexer.settings.ignoreDirs.contains name = true :=
    ⟨".code-index", by simp [place], by decide⟩
  have wanted : project.indexer.wants [("a.t", .file bytes)] [] (["a.t"], .file bytes) = true := by
    decide +kernel
  obtain ⟨endsBefore, walkedBefore⟩ :=
    singleBefore.sourceFiles soundBefore.wellNamed (by decide) skipped wanted
  have knownBefore : ∀ text ∈ before.project.indexer.texts before.tree [], text.2 = "class F" := by
    have decoded : decodeText? bytes = some "class F" := by
      decide +kernel
    rw [soundBefore.indexed]
    refine fun text => Indexer.eq_of_mem_texts fun path listed => ?_
    rw [(walkedBefore path).mp listed, List.nil_append, Folder.textAt?,
      singleBefore.bytesAt? (by decide)]
    exact decoded
  obtain ⟨text, stored⟩ := singleBefore.stored
  have allowedBefore : before.Allows (· = "class F") [] (.build false true) :=
    allows_build_of_stored stored knownBefore
  -- The second build leaves them too.
  have soundAfter : after.IsSound project.indexer (· = "class F") [] :=
    soundBefore.next tame free allowedBefore
  have singleAfter : after.IsSingle "a.t" bytes place := singleBefore.next_build apart false true
  obtain ⟨endsAfter, walkedAfter⟩ :=
    singleAfter.sourceFiles soundAfter.wellNamed (by decide) skipped wanted
  have isFresh := (Indexer.scan_eq_ok_iff soundBefore.wellNamed).mpr ⟨endsBefore, rfl⟩
  have isLater := (Indexer.scan_eq_ok_iff soundAfter.wellNamed).mpr ⟨endsAfter, rfl⟩
  obtain ⟨previous, probe⟩ := Project.previous?_of_textAt? stored false true
  -- The file is not the stored snapshot, and could be reached before.
  have aside : project.indexer.LeavesAside [] (after.tree.locate
      (Project.cachePath project.indexer.settings [])).toOption before.tree after.tree := by
    have leads := singleAfter.leads
    rw [soundAfter.indexed] at leads
    rw [leads]
    intro path member
    rw [member.elim (walkedBefore path).mp (walkedAfter path).mp]
    exact ⟨fun same => apart (Option.some.inj same), ["a.t"],
      Folder.locate_of_file (by decide) singleBefore.stands,
      fun same => apart (Option.some.inj same)⟩
  have matches_ := (@build_matches_scan Unit start [] _ free wellNamed unstored tame
    [.build false true] false true ⟨allowed, allowedBefore, trivial⟩).1 previous _ probe isFresh
  obtain ⟨snapshot, isSnapshot, _, same⟩ := matches_
  exact ⟨snapshot, _, isSnapshot, isLater, same aside _ isLater⟩

/-- A link at the top that goes into a folder and out again leads to the file beside the folder. -/
private theorem locate_link_through_folder {tree : Folder} {name target folder file : String}
    {bytes : ByteArray} (isName : Folder.isName name = true)
    (link : tree.at? [name] = some (.link target))
    (parts : Folder.linkParts target = [folder, "..", file])
    (begins : Folder.linkStart [] target = []) (isFolderName : Folder.isName folder = true)
    (stands : tree.IsFolderAt [folder]) (isFileName : Folder.isName file = true)
    (found : tree.at? [file] = some (.file bytes)) : tree.locate [name] = .ok [file] := by
  -- The link is the first part of the way, the folder and the step up are the next two.
  rw [Folder.locate, Folder.linkLimit, Folder.resolve_link isName rfl link, Folder.follower,
    parts, begins, List.append_nil, Folder.resolve_folder isFolderName rfl stands,
    Folder.resolve_up]
  exact Folder.resolve_file isFileName rfl found

/-- A link that leads through the folder of the stored snapshot is dead to the build that
makes this folder and alive from then on, so the snapshot lacks a file that a scan of the
tree finds afterwards. -/
theorem build_misses_revived_link :
    let language : Language := {
      identity := { name := "javascript", displayName := "JavaScript", extensions := [".js"] }
      symbolPatterns := []
      referencePatterns := .ok []
      parameterNames := fun _ => []
      inferKind := fun _ kind => kind }
    let project : Project Unit := {
      indexer := ⟨{}, Registry.empty.registerAll [language], none⟩
      advisor := ⟨⟨fun _ => (.ok none, ()), (), none⟩, (), none⟩ }
    let content := "function g() \x7b\x7d\n"
    let start : Session Unit :=
      ⟨[("a.js", .link ".code-index/../b.js"), ("b.js", .file content.toUTF8)], project⟩
    let after := start.next [] (.build false true)
    project.indexer.Tame (· = content) ∧ start.tree.wellNamed = true ∧ start.storedText? [] = none ∧
      start.AllowsAll (· = content) [] [.build false true] ∧
      (∀ path ∈ project.indexer.sourceFiles after.tree [], after.tree.locate path = .ok ["b.js"]) ∧
      ∃ snapshot later, after.project.snapshot = some snapshot ∧
        project.indexer.scan after.tree [] = .ok later ∧ ¬ snapshot.Matches later := by
  -- The build is not evaluated as a whole, but told from what its parts give.
  intro language project content start after
  let place := [".code-index", "cache", "code-index.json"]
  let path := Project.cachePath start.project.indexer.settings []
  have tame : project.indexer.Tame (· = content) := tame_of_one_text rfl _
  have wellNamed : start.tree.wellNamed = true := by
    decide
  have unstored : start.storedText? [] = none := by
    decide +kernel
  have flat : ∀ pair ∈ start.tree, pair.2.isFolder = false := by
    simp [start, Entry.isFolder]
  have skipped : ∃ name ∈ place.dropLast,
      project.indexer.settings.ignoreDirs.contains name = true :=
    ⟨".code-index", by simp [place], by decide⟩
  -- Before the build the link leads nowhere.
  have dead : (project.indexer.inspect start.tree []
      (["a.js"], .link ".code-index/../b.js")).toOption = some false := by
    decide +kernel
  -- The file is found.
  have alive : (project.indexer.inspect start.tree [] (["b.js"], .file content.toUTF8)).toOption
      = some true := by
    decide +kernel
  have listed : ∀ {tree : Folder}, (∀ path entry, entry.isFolder = false → path ≠ place →
      tree.at? path = some entry → start.tree.at? path = some entry) → ∀ {path entry},
      project.indexer.Meets tree [] path entry →
      path = ["a.js"] ∧ entry = .link ".code-index/../b.js" ∨
        path = ["b.js"] ∧ entry = .file content.toUTF8 := by
    intro tree grown path entry meets
    obtain ⟨name, rfl, listed⟩ := Indexer.meets_of_grown flat skipped grown meets
    simpa [start] using listed
  -- No entry stops the walk, which finds the file alone.
  have ends : ∃ files, project.indexer.walk start.tree [] = .ok files := by
    rw [Indexer.walk_ends_iff wellNamed]
    rintro path entry meets ⟨fault, fails⟩
    rcases listed (fun _ _ _ _ found => found) meets with ⟨rfl, rfl⟩ | ⟨rfl, rfl⟩
    · rw [fails] at dead
      cases dead
    · rw [fails] at alive
      cases alive
  have walked : ∀ path ∈ project.indexer.sourceFiles start.tree [], path = ["b.js"] := by
    intro path member
    obtain ⟨entry, meets, wanted⟩ := (Indexer.mem_sourceFiles_iff wellNamed).mp member
    rcases listed (fun _ _ _ _ found => found) meets with ⟨rfl, rfl⟩ | ⟨rfl, _⟩
    · rw [Indexer.wants, dead] at wanted
      cases wanted
    · rfl
  have known : ∀ text ∈ project.indexer.texts start.tree [], text.2 = content := by
    have read : start.tree.textAt? ["b.js"] = some content := by
      decide +kernel
    refine fun text => Indexer.eq_of_mem_texts fun path listed => ?_
    rw [walked path listed]
    exact read
  -- The build succeeds and makes the folder.
  have provided : (start.tree.provide path.dropLast).1 = .ok () :=
    eq_ok_of_toOption (by decide +kernel)
  have found : ((start.tree.provide path.dropLast).2.placeFor path).toOption = some place := by
    decide +kernel
  have probe : (start.project.previous? start.tree [] false true).toOption.isSome = true := by
    decide +kernel
  have returns : (start.project.build start.tree [] false true).1 = .ok () :=
    build_returns rfl wellNamed (exists_ok_of_isSome probe) ends
      ⟨provided, place, eq_ok_of_toOption found⟩
  have allowed : start.Allows (· = content) [] (.build false true) := ⟨known, .inl returns⟩
  have sound : start.IsSound project.indexer (· = content) [] := .of_unstored wellNamed unstored
  have soundAfter : after.IsSound project.indexer (· = content) [] :=
    sound.next tame (by simp [SlashFree]) allowed
  obtain ⟨_, writes, _⟩ := next_build_writes returns found
  have writes : start.tree.Writes place _ after.tree := writes
  -- After it both names lead to the file.
  have link : after.tree.at? ["a.js"] = some (.link ".code-index/../b.js") :=
    (writes.leaves rfl (by simp [place])).mpr (by simp [start])
  have file : after.tree.at? ["b.js"] = some (.file content.toUTF8) :=
    (writes.leaves rfl (by simp [place])).mpr (by simp [start])
  have folder : after.tree.IsFolderAt [".code-index"] :=
    @Folder.isFolderAt_of_at?_append _ [".code-index"] ["cache", "code-index.json"] _
      writes.written (by simp)
  have direct : after.tree.locate ["b.js"] = .ok ["b.js"] := Folder.locate_of_file (by decide) file
  have linked : after.tree.locate ["a.js"] = .ok ["b.js"] :=
    locate_link_through_folder (by decide) link (by decide +kernel) (by decide +kernel) (by decide)
      folder (by decide) file
  have read : ∀ {path : List String}, after.tree.locate path = .ok ["b.js"] →
      after.tree.bytesAt? path = some content.toUTF8 := fun leads =>
    Folder.bytesAt?_eq_some_iff.mpr ⟨_, leads, file⟩
  -- The two are wanted as two files of the same text are.
  let plain : Folder := [("a.js", .file content.toUTF8), ("b.js", .file content.toUTF8)]
  have wantedAs : ∀ {path : List String} {entry : Entry},
      project.indexer.wants plain [] (path, .link "") = true →
      plain.bytesAt? path = some content.toUTF8 → after.tree.locate path = .ok ["b.js"] →
      project.indexer.wants after.tree [] (path, entry) = true := fun isWanted same leads =>
    (project.indexer.wants_of_bytesAt? ((read leads).trans same.symm)).trans isWanted
  have wanted : ∀ path entry, project.indexer.Meets after.tree [] path entry →
      after.tree.locate path = .ok ["b.js"] ∧
        project.indexer.wants after.tree [] (path, entry) = true := by
    intro path entry meets
    have grown : ∀ path entry, entry.isFolder = false → path ≠ place →
        after.tree.at? path = some entry → start.tree.at? path = some entry :=
      fun _ _ isLeaf elsewhere => (writes.leaves isLeaf elsewhere).mp
    rcases listed grown meets with ⟨rfl, rfl⟩ | ⟨rfl, rfl⟩
    · exact ⟨linked, wantedAs (by decide +kernel) (by decide +kernel) linked⟩
    · exact ⟨direct, wantedAs (by decide +kernel) (by decide +kernel) direct⟩
  have walkedAfter : ∀ path ∈ project.indexer.sourceFiles after.tree [],
      after.tree.locate path = .ok ["b.js"] := by
    intro path member
    obtain ⟨entry, meets, _⟩ := (Indexer.mem_sourceFiles_iff soundAfter.wellNamed).mp member
    exact (wanted path entry meets).1
  -- So the link is walked as well.
  have revived : ["a.js"] ∈ project.indexer.sourceFiles after.tree [] := by
    have meets : project.indexer.Meets after.tree [] ["a.js"] _ := ⟨by simp, link, rfl, by simp⟩
    exact (Indexer.mem_sourceFiles_iff soundAfter.wellNamed).mpr ⟨_, meets, (wanted _ _ meets).2⟩
  have readAfter : ∀ path ∈ project.indexer.sourceFiles after.tree [],
      after.tree.textAt? ([] ++ path) = some content := by
    intro path member
    have decoded : decodeText? content.toUTF8 = some content := by
      decide +kernel
    rw [List.nil_append, Folder.textAt?, read (walkedAfter path member)]
    exact decoded
  have scanned : (project.indexer.scanned after.tree []).Shows project.indexer
      (project.indexer.texts after.tree []) :=
    Indexer.scanned_shows soundAfter.wellNamed fun text member =>
      tame.colonFree _ _ (Indexer.eq_of_mem_texts readAfter member)
  have endsAfter := Indexer.walk_ends_of_wanted soundAfter.wellNamed fun path entry meets =>
    (wanted path entry meets).2
  obtain ⟨_, fresh, snapshot, _, scans, origin, isSnapshot, _⟩ := Project.snapshot_of_build returns
  refine ⟨tame, wellNamed, unstored, ⟨allowed, trivial⟩, walkedAfter, snapshot, _, isSnapshot,
    (Indexer.scan_eq_ok_iff soundAfter.wellNamed).mpr ⟨endsAfter, rfl⟩, fun same => ?_⟩
  -- The revived name has a fingerprint in the scan only.
  have inScan : ("a.js", fingerprint content) ∈ snapshot.fileHashes := by
    rw [same.fileHashes, scanned.fileHashes]
    have named : joinPath ["a.js"] = "a.js" := by
      decide +kernel
    have isText : ("a.js", content) ∈ project.indexer.texts after.tree [] :=
      Indexer.mem_texts_iff.mpr ⟨["a.js"], revived, readAfter _ revived, named⟩
    exact List.mem_map.mpr ⟨_, isText, rfl⟩
  rw [(origin.counts scans).1, ((Indexer.scan_eq_ok_iff wellNamed).mp scans).2,
    (Indexer.scanned_shows wellNamed fun text member =>
      tame.colonFree _ _ (known text member)).fileHashes] at inScan
  obtain ⟨text, member, isEntry⟩ := List.mem_map.mp inScan
  obtain ⟨path, listed, _, named⟩ := Indexer.mem_texts_iff.mp member
  rw [walked path listed, congrArg Prod.fst isEntry] at named
  exact absurd named (by decide +kernel)

end Session

end SourceAtlas
