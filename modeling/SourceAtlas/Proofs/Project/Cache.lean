import SourceAtlas.Project
import SourceAtlas.Proofs.FileTree.Store
import SourceAtlas.Proofs.Index.Refresh
import SourceAtlas.Proofs.Json.StoredText
import SourceAtlas.Proofs.Snapshot.RoundTrip

/-! The stored snapshot of a project: what is saved is loaded, and no stored
content misleads a build. -/

namespace SourceAtlas.Project

variable {σ : Type} {project reader : Project σ} {tree : Folder} {root : List String}
  {snapshot : Snapshot}

/-! ## Saving -/

/-- What saving does to a tree: the snapshot is written under its path, or only folders are made. -/
inductive SaveOutcome (project : Project σ) (snapshot : Snapshot) (tree : Folder)
    (root : List String) : Except ProjectFault Unit × Folder → Prop where
  | saved {after : Folder} {place : List String}
      (writable : snapshot.isWritable = true)
      (hasPlace : tree.HasPlace (cachePath project.indexer.settings root))
      (isPlace : (tree.provide (cachePath project.indexer.settings root).dropLast).2.placeFor
        (cachePath project.indexer.settings root) = .ok place)
      (writes : tree.Writes place snapshot.render.toUTF8 after)
      (leads : after.locate (cachePath project.indexer.settings root) = .ok place) :
      SaveOutcome project snapshot tree root (.ok (), after)
  | displaced {after : Folder} {fault : FileFault}
      (noPlace : ¬ tree.HasPlace (cachePath project.indexer.settings root))
      (added : tree.AddsFolders after) :
      SaveOutcome project snapshot tree root (.error (.file fault), after)
  | unwritable
      (unwritable : snapshot.isWritable = false)
      (hasFolder : (tree.provide (cachePath project.indexer.settings root).dropLast).1 = .ok ()) :
      SaveOutcome project snapshot tree root
        (.error .unwritable, (tree.provide (cachePath project.indexer.settings root).dropLast).2)

/-- Saving has one of these outcomes. -/
theorem saveOutcome (has : project.snapshot = some snapshot) (tree : Folder) (root : List String) :
    SaveOutcome project snapshot tree root (project.save tree root) := by
  -- The folder is provided first, then the snapshot is asked for a text, then the file is written.
  rw [save, has]
  dsimp only
  generalize isPath : cachePath project.indexer.settings root = path
  have added := tree.addsFolders_provide path.dropLast
  cases provided : tree.provide path.dropLast with
  | mk result middle =>
    rw [provided] at added
    cases result with
    | error fault =>
      refine .displaced (fun place => ?_) added
      -- Without its folder the file has no place.
      have fails := place.1
      rw [isPath, provided] at fails
      cases fails
    | ok =>
      cases writable : snapshot.isWritable with
      | false =>
        have outcome := @SaveOutcome.unwritable _ project _ tree root writable
        rw [isPath, provided] at outcome
        exact outcome rfl
      | true =>
        dsimp only
        cases written : middle.write path snapshot.render.toUTF8 with
        | error fault =>
          refine .displaced (fun place => ?_) added
          obtain ⟨_, spot, isSpot⟩ := place
          rw [isPath, provided] at isSpot
          simp [Folder.write, isSpot, Except.map] at written
        | ok after =>
          obtain ⟨place, isPlace, writes, leads⟩ := Folder.write_spec written
          refine .saved writable ?_ ?_ (added.writes writes ?_) (isPath ▸ leads)
          · rw [isPath]
            exact ⟨by rw [provided], place, by rw [provided]; exact isPlace⟩
          · rw [isPath, provided]
            exact isPlace
          · -- A folder at the place would still be there when the file is written.
            intro folder
            obtain ⟨entries, stands⟩ := added.folders folder
            rcases writes.replaced with free | ⟨old, was⟩
            · rw [free] at stands
              cases stands
            · rw [was] at stands
              cases stands

/-- Saving succeeds exactly when the snapshot can be written and there is a place for it. -/
theorem save_eq_ok_iff (has : project.snapshot = some snapshot) :
    (project.save tree root).1 = .ok () ↔
      snapshot.isWritable = true ∧ tree.HasPlace (cachePath project.indexer.settings root) := by
  -- Of the three outcomes only the first succeeds.
  have outcome := saveOutcome has tree root
  generalize project.save tree root = result at outcome
  cases outcome with
  | saved writable hasPlace => simp [writable, hasPlace]
  | displaced noPlace => simp [noPlace]
  | unwritable unwritable => simp [unwritable]

/-- What was saved is the text that is read under its path. -/
theorem textAt?_of_save (has : project.snapshot = some snapshot)
    (saved : (project.save tree root).1 = .ok ()) :
    (project.save tree root).2.textAt? (cachePath project.indexer.settings root)
      = some snapshot.render := by
  -- The file is found where the path leads, and its bytes are those of the text.
  have outcome := saveOutcome has tree root
  generalize project.save tree root = result at outcome saved
  cases outcome with
  | saved _ _ _ writes leads =>
    have bytes := Folder.bytesAt?_eq_some_iff.mpr ⟨_, leads, writes.written⟩
    rw [Folder.textAt?, bytes, Option.bind_some, Snapshot.render]
    exact Json.decodeText?_render snapshot.toJson
  | displaced => cases saved
  | unwritable => cases saved

/-- Saving makes a tree grow beside the place of the stored snapshot. -/
theorem growsBeside_save (has : project.snapshot = some snapshot) :
    tree.GrowsBeside ((project.save tree root).2.locate
      (cachePath project.indexer.settings root)).toOption (project.save tree root).2 := by
  -- The written file is the place itself, and folders that are made are in no one's way.
  have outcome := saveOutcome has tree root
  generalize project.save tree root = result at outcome
  cases outcome with
  | saved _ _ _ writes leads =>
    rw [leads]
    exact writes.grows
  | displaced _ added => exact added.grows _
  | unwritable => exact (tree.addsFolders_provide _).grows _

/-! ## Loading -/

/-- What is stored is the value of the text that is read. -/
theorem stored?_eq_some_iff {value : Json} : project.stored? tree root = some value ↔
    ∃ text, tree.textAt? (cachePath project.indexer.settings root) = some text ∧
      Json.parseExact text = .ok value := by
  -- A text that is no value is as good as none.
  have option : ∀ text, (Json.parseExact text).toOption = some value ↔
      Json.parseExact text = .ok value := by
    intro text
    cases Json.parseExact text <;> simp [Except.toOption]
  simp [stored?, Option.bind_eq_some_iff, option]

/-- A path under which a text is read leads somewhere. -/
theorem isThere_of_textAt? {path : List String} {text : String}
    (read : tree.textAt? path = some text) : tree.isThere path = .ok true := by
  -- The text has bytes, and they have a place.
  obtain ⟨bytes, found, _⟩ := Option.bind_eq_some_iff.mp read
  obtain ⟨place, leads, _⟩ := Folder.bytesAt?_eq_some_iff.mp found
  rw [Folder.isThere, leads]

/-- Where the text of a snapshot is stored, it has a value exactly when no
integer has too many digits. -/
theorem exists_stored?_iff
    (text : tree.textAt? (cachePath project.indexer.settings root) = some snapshot.render) :
    (∃ value, project.stored? tree root = some value) ↔ snapshot.toJson.fitsDigits = true := by
  -- The text that is stored is the one the value was read from.
  constructor
  · rintro ⟨value, stored⟩
    obtain ⟨_, same, parsed⟩ := stored?_eq_some_iff.mp stored
    cases text.symm.trans same
    exact Snapshot.fitsDigits_of_parse parsed
  · intro fits
    exact ⟨_, stored?_eq_some_iff.mpr ⟨_, text, Json.parseExact_render fits⟩⟩

/-- Where the text of a tidy snapshot is stored, its value is read as the
snapshot that rereading says. -/
theorem read_of_stored? (tidy : snapshot.IsTidy)
    (text : tree.textAt? (cachePath project.indexer.settings root) = some snapshot.render)
    {value : Json} (stored : project.stored? tree root = some value) :
    Snapshot.read value = .good snapshot.reread := by
  -- Both values come from the one text.
  obtain ⟨_, same, parsed⟩ := stored?_eq_some_iff.mp stored
  cases text.symm.trans same
  obtain ⟨_, reparsed, read⟩ := Snapshot.parse_render tidy (Snapshot.fitsDigits_of_parse parsed)
  cases parsed.symm.trans reparsed
  exact read

/-- A stored text with an integer of too many digits is not loaded. -/
private theorem load_of_oversized (oversized : snapshot.toJson.fitsDigits = false)
    (text : tree.textAt? (cachePath reader.indexer.settings root) = some snapshot.render) :
    reader.load tree root = (.ok false, reader) := by
  -- A value would have been read from the text, which has none.
  have unread : reader.stored? tree root = none := by
    cases stored : reader.stored? tree root with
    | none => rfl
    | some value =>
      rw [(exists_stored?_iff text).mp ⟨value, stored⟩] at oversized
      cases oversized
  rw [load, isThere_of_textAt? text, unread]
  rfl

/-- Where the text of a tidy snapshot is stored, loading gives the snapshot that rereading says,
unless an integer has too many digits. -/
theorem load_of_textAt? (tidy : snapshot.IsTidy)
    (text : tree.textAt? (cachePath reader.indexer.settings root) = some snapshot.render) :
    reader.load tree root = if snapshot.toJson.fitsDigits
      then (.ok true, { reader.withSnapshot snapshot.reread with root := some root })
      else (.ok false, reader) := by
  -- The text is there, and all that is left to ask is whether it has a value.
  cases fits : snapshot.toJson.fitsDigits with
  | true =>
    obtain ⟨value, stored⟩ := (exists_stored?_iff text).mpr fits
    rw [load, isThere_of_textAt? text, stored]
    simp [read_of_stored? tidy text stored]
  | false => rw [load_of_oversized fits text, if_neg (by decide)]

/-- What can be unlinked is an entry of the tree, which is removed. -/
private theorem exists_remove_of_unlink {path : List String} {after : Folder}
    (removed : tree.unlink path = .ok after) : ∃ names, after = tree.remove names := by
  -- The path has a last name, its folder is found, and an entry that is no folder stands there.
  unfold Folder.unlink at removed
  split at removed
  · cases removed
  · split at removed
    · cases removed
    · cases above : tree.locate path.dropLast with
      | error fault =>
        rw [above] at removed
        cases removed
      | ok place =>
        rw [above] at removed
        simp only [Except.bind] at removed
        split at removed
        · cases removed
        · exact ⟨_, (Except.ok.inj removed).symm⟩
        · cases removed

/-- Clearing fails and changes nothing, or forgets the snapshot and at most removes an entry. -/
theorem clear_cases (project : Project σ) (tree : Folder) (root : List String) :
    (∃ fault, project.clear tree root = (.error (.file fault), tree, project)) ∨
      ∃ after, project.clear tree root = (.ok (), after,
        { project with snapshot := none, catalog := none }) ∧
        (after = tree ∨ ∃ names, after = tree.remove names) := by
  -- Only the removal of the file can fail, and it comes before all else.
  rw [clear]
  generalize cachePath project.indexer.settings root = path
  -- Nothing is removed that is not there.
  have removes : ∀ {after}, (tree.isThere path).bind
      (fun found => if found then tree.unlink path else .ok tree) = .ok after →
      after = tree ∨ ∃ names, after = tree.remove names := by
    intro after removed
    cases there : tree.isThere path with
    | error fault =>
      rw [there] at removed
      cases removed
    | ok found =>
      rw [there] at removed
      cases found with
      | false => exact .inl (Except.ok.inj removed).symm
      | true => exact .inr (exists_remove_of_unlink removed)
  cases removed : (tree.isThere path).bind
      (fun found => if found then tree.unlink path else .ok tree) with
  | error fault => exact .inl ⟨fault, rfl⟩
  | ok after => exact .inr ⟨after, rfl, removes removed⟩

/-! ## Building -/

/-- A build starts only from what is stored and accepted. -/
theorem previous?_eq_some {force incremental : Bool} {previous : Snapshot}
    (found : project.previous? tree root force incremental = .ok (some previous)) :
    ∃ value, project.stored? tree root = some value ∧ Snapshot.coerce value = .good previous := by
  -- What is stored is looked at only in an incremental build that is not forced.
  unfold previous? at found
  split at found
  · cases probe : tree.isThere (cachePath project.indexer.settings root) with
    | error fault =>
      rw [probe] at found
      cases found
    | ok isThere =>
      rw [probe] at found
      obtain ⟨value, stored, coerced⟩ := Option.bind_eq_some_iff.mp (Except.ok.inj found)
      exact ⟨value, stored, Checked.value?_eq_some_iff.mp coerced⟩
  · cases found

/-- Where a text is stored, a build can begin. -/
theorem previous?_of_textAt? {text : String}
    (stored : tree.textAt? (cachePath project.indexer.settings root) = some text)
    (force incremental : Bool) :
    ∃ previous, project.previous? tree root force incremental = .ok previous := by
  -- The file is there, so asking for it does not fail.
  rw [previous?, isThere_of_textAt? stored]
  split
  · exact ⟨_, rfl⟩
  · exact ⟨none, rfl⟩

/-- Where a build comes from: a scan, unless a refresh of what is stored can be written. -/
inductive Origin (indexer : Indexer) (tree : Folder) (root : List String)
    (previous : Option Snapshot) (fresh : Snapshot) : Snapshot → Prop where
  | scan (unused : ∀ earlier refreshed changes, previous = some earlier →
      indexer.refresh tree root earlier = .ok (refreshed, changes) → refreshed.isWritable = false) :
      Origin indexer tree root previous fresh fresh
  | refresh {earlier refreshed : Snapshot} {changes : Changes}
      (isPrevious : previous = some earlier)
      (returns : indexer.refresh tree root earlier = .ok (refreshed, changes))
      (writable : refreshed.isWritable = true) : Origin indexer tree root previous fresh refreshed

/-- What a build does: it cannot tell whether a snapshot is stored, or its walk breaks off, and then
it leaves snapshot and tree alone; or it takes a new snapshot and saves it. -/
inductive BuildOutcome (project : Project σ) (tree : Folder) (root : List String)
    (force incremental : Bool) : Except ProjectFault Unit × Folder × Project σ → Prop where
  | unreached {fault : FileFault}
      (probe : project.previous? tree root force incremental = .error fault) :
      BuildOutcome project tree root force incremental
        (.error (.file fault), tree, { project with root := some root })
  | stopped {previous : Option Snapshot} {fault : WalkFault}
      (probe : project.previous? tree root force incremental = .ok previous)
      (stops : project.indexer.scan tree root = .error fault) :
      BuildOutcome project tree root force incremental
        (.error (.walk fault), tree, { project with root := some root, changes := none })
  | indexed {previous : Option Snapshot} {fresh snapshot : Snapshot} {changes : Option Changes}
      (probe : project.previous? tree root force incremental = .ok previous)
      (scans : project.indexer.scan tree root = .ok fresh)
      (origin : Origin project.indexer tree root previous fresh snapshot) :
      BuildOutcome project tree root force incremental
        (((project.withSnapshot snapshot).save tree root).1,
          ((project.withSnapshot snapshot).save tree root).2,
          { project.withSnapshot snapshot with root := some root, changes })

/-- With a text stored, saving a snapshot fails only when it cannot be written, and then
leaves the tree alone. -/
private theorem save_of_textAt? (has : project.snapshot = some snapshot) {text : String}
    (stored : tree.textAt? (cachePath project.indexer.settings root) = some text)
    (fails : (project.save tree root).1 ≠ .ok ()) :
    snapshot.isWritable = false ∧ (project.save tree root).2 = tree := by
  -- There is a place for the snapshot where the text is, and its folder is there too.
  obtain ⟨bytes, found, _⟩ := Option.bind_eq_some_iff.mp stored
  obtain ⟨hasPlace, provided⟩ := Folder.hasPlace_of_file found
  have outcome := saveOutcome has tree root
  generalize project.save tree root = result at outcome fails
  cases outcome with
  | saved => exact absurd rfl fails
  | displaced noPlace => exact absurd hasPlace noPlace
  | unwritable unwritable => exact ⟨unwritable, by rw [provided]⟩

/-- A scan that ends is taken as the snapshot and saved. -/
private theorem rebuild_of_scan {fresh : Snapshot}
    (scans : project.indexer.scan tree root = .ok fresh) :
    project.rebuild tree root = (((project.withSnapshot fresh).save tree root).1,
      ((project.withSnapshot fresh).save tree root).2,
      { project.withSnapshot fresh with changes := none }) := by
  -- The walk ends, so its snapshot is the one to save.
  rw [rebuild]
  dsimp only
  rw [scans]
  rfl

/-- A scan whose walk breaks off leaves snapshot and tree alone. -/
private theorem rebuild_of_stopped {fault : WalkFault}
    (stops : project.indexer.scan tree root = .error fault) :
    project.rebuild tree root = (.error (.walk fault), tree, { project with changes := none }) := by
  -- The walk breaks off before anything is taken or saved.
  rw [rebuild]
  dsimp only
  rw [stops]

/-- An update takes the refreshed snapshot if it can be written, and that of a scan otherwise. -/
theorem update_cases {text : String}
    (stored : tree.textAt? (cachePath project.indexer.settings root) = some text)
    {earlier refreshed fresh : Snapshot} {changes : Changes}
    (returns : project.indexer.refresh tree root earlier = .ok (refreshed, changes))
    (scans : project.indexer.scan tree root = .ok fresh) :
    (refreshed.isWritable = true ∧ project.update tree root earlier
      = (((project.withSnapshot refreshed).save tree root).1,
        ((project.withSnapshot refreshed).save tree root).2,
        { project.withSnapshot refreshed with changes := some changes })) ∨
    (refreshed.isWritable = false ∧ project.update tree root earlier
      = (((project.withSnapshot fresh).save tree root).1,
        ((project.withSnapshot fresh).save tree root).2,
        { project.withSnapshot fresh with changes := none })) := by
  -- The refreshed snapshot is saved first, and a scan follows where that fails.
  rw [update, returns]
  dsimp only
  generalize isNext : { project.withSnapshot refreshed with changes := some changes } = next
  have has : next.snapshot = some refreshed := by
    rw [← isNext]
    rfl
  have stored' : tree.textAt? (cachePath next.indexer.settings root) = some text := by
    rw [← isNext]
    exact stored
  have sameSave : (project.withSnapshot refreshed).save tree root = next.save tree root := by
    rw [← isNext]
    rfl
  have fails := @save_of_textAt? _ next tree root refreshed has text stored'
  have succeeds := @save_eq_ok_iff _ next tree root refreshed has
  rw [sameSave]
  cases isSaved : next.save tree root with
  | mk outcome after =>
    rw [isSaved] at fails succeeds
    cases outcome with
    | ok => exact .inl ⟨(succeeds.mp rfl).1, rfl⟩
    | error fault =>
      -- The failed save left the tree alone, so the scan sees the same files.
      obtain ⟨unwritable, same⟩ := fails (by simp)
      refine .inr ⟨unwritable, ?_⟩
      dsimp only at same ⊢
      rw [same, rebuild_of_scan (by rw [← isNext]; exact scans), ← isNext]
      rfl

/-- A build has one of these outcomes. -/
theorem buildOutcome (project : Project σ) (tree : Folder) (root : List String)
    (force incremental : Bool) :
    BuildOutcome project tree root force incremental
      (project.build tree root force incremental) := by
  -- The root is noted before all else, and neither the indexer nor what is stored depends on it.
  generalize isCaller : ({ project with root := some root } : Project σ) = caller
  have sameIndexer : caller.indexer = project.indexer := by
    rw [← isCaller]
  have sameProbe : caller.previous? tree root force incremental
      = project.previous? tree root force incremental := by
    rw [← isCaller]
    rfl
  rw [build, isCaller, sameProbe]
  cases probe : project.previous? tree root force incremental with
  | error fault =>
    rw [← isCaller]
    exact .unreached probe
  | ok previous =>
    cases previous with
    | none =>
      dsimp only
      cases scans : project.indexer.scan tree root with
      | error fault =>
        -- Nothing usable is stored, so the tree is scanned.
        rw [rebuild_of_stopped (sameIndexer ▸ scans), ← isCaller]
        exact .stopped probe scans
      | ok fresh =>
        rw [rebuild_of_scan (sameIndexer ▸ scans), ← isCaller]
        refine .indexed probe scans (.scan fun earlier _ _ isPrevious _ => ?_)
        cases isPrevious
    | some earlier =>
      dsimp only
      rcases project.indexer.refresh_cases tree root earlier with
        ⟨fault, scans, returns⟩ | ⟨fresh, refreshed, changes, scans, returns, _⟩
      · -- A refresh walks the tree like a scan, so it breaks off like one.
        rw [update, sameIndexer, returns]
        dsimp only
        rw [rebuild_of_stopped (sameIndexer ▸ scans), ← isCaller]
        exact .stopped probe scans
      · obtain ⟨value, stored, _⟩ := previous?_eq_some probe
        obtain ⟨text, read, _⟩ := stored?_eq_some_iff.mp stored
        rcases update_cases (sameIndexer ▸ read) (sameIndexer ▸ returns) (sameIndexer ▸ scans) with
          ⟨writable, isUpdate⟩ | ⟨unwritable, isUpdate⟩
        · rw [isUpdate, ← isCaller]
          exact .indexed probe scans (.refresh rfl returns writable)
        · rw [isUpdate, ← isCaller]
          refine .indexed probe scans (.scan fun other _ _ isPrevious returns' => ?_)
          cases isPrevious
          cases returns.symm.trans returns'
          exact unwritable

/-- A build keeps the indexer. -/
theorem indexer_build (project : Project σ) (tree : Folder) (root : List String)
    (force incremental : Bool) :
    (project.build tree root force incremental).2.2.indexer = project.indexer := by
  -- No outcome touches the indexer.
  have outcome := project.buildOutcome tree root force incremental
  generalize project.build tree root force incremental = built at outcome
  cases outcome <;> rfl

/-- A build that succeeds has taken a snapshot and stored it. -/
theorem snapshot_of_build {force incremental : Bool}
    (returns : (project.build tree root force incremental).1 = .ok ()) :
    ∃ previous fresh snapshot, project.previous? tree root force incremental = .ok previous ∧
      project.indexer.scan tree root = .ok fresh ∧
      Origin project.indexer tree root previous fresh snapshot ∧
      (project.build tree root force incremental).2.2.snapshot = some snapshot ∧
      snapshot.isWritable = true ∧ (project.build tree root force incremental).2.1.textAt?
        (cachePath project.indexer.settings root) = some snapshot.render := by
  -- Of the three outcomes only one can succeed, and it does by its save.
  have outcome := project.buildOutcome tree root force incremental
  generalize project.build tree root force incremental = built at outcome returns
  cases outcome with
  | unreached => cases returns
  | stopped => cases returns
  | @indexed previous fresh snapshot _ probe scans origin =>
    exact ⟨previous, fresh, snapshot, probe, scans, origin, rfl,
      ((save_eq_ok_iff rfl).mp returns).1, textAt?_of_save rfl returns⟩

/-- With a text stored, a build that fails leaves the tree as it was. -/
theorem tree_of_failed_build {text : String}
    (stored : tree.textAt? (cachePath project.indexer.settings root) = some text)
    {force incremental : Bool} (fails : (project.build tree root force incremental).1 ≠ .ok ()) :
    (project.build tree root force incremental).2.1 = tree := by
  -- Where the walk breaks off nothing is written, and what fails later is the save.
  have outcome := project.buildOutcome tree root force incremental
  generalize project.build tree root force incremental = built at outcome fails
  cases outcome with
  | unreached => rfl
  | stopped => rfl
  | @indexed _ _ snapshot _ _ _ _ =>
    have has : (project.withSnapshot snapshot).snapshot = some snapshot := rfl
    exact (save_of_textAt? has stored fails).2

/-- A build makes a tree grow beside the place of the stored snapshot. -/
theorem growsBeside_build (project : Project σ) (tree : Folder) (root : List String)
    (force incremental : Bool) :
    tree.GrowsBeside ((project.build tree root force incremental).2.1.locate
      (cachePath project.indexer.settings root)).toOption
      (project.build tree root force incremental).2.1 := by
  -- Only the save writes.
  have outcome := project.buildOutcome tree root force incremental
  generalize project.build tree root force incremental = built at outcome
  cases outcome with
  | unreached => exact (Folder.AddsFolders.refl tree).grows _
  | stopped => exact (Folder.AddsFolders.refl tree).grows _
  | @indexed _ _ snapshot _ _ _ _ => exact @growsBeside_save _ _ tree root snapshot rfl

/-- What a build takes as the snapshot has the fingerprints of a scan and counts what it lists. -/
theorem Origin.counts {indexer : Indexer} {previous : Option Snapshot} {fresh : Snapshot}
    (origin : Origin indexer tree root previous fresh snapshot)
    (scans : indexer.scan tree root = .ok fresh) :
    snapshot.fileHashes = fresh.fileHashes ∧ snapshot.stats.totalFiles = fresh.stats.totalFiles ∧
      snapshot.stats.totalSymbols = snapshot.symbols.length ∧
      snapshot.stats.totalReferences = snapshot.references.length := by
  -- Both start from the fingerprints of the same walk.
  cases origin with
  | scan => exact ⟨rfl, rfl, Indexer.stats_of_scan scans⟩
  | @refresh earlier refreshed changes _ returns =>
    -- A refresh records what a scan records, whatever it started from.
    rcases indexer.refresh_cases tree root earlier with
      ⟨fault, stops, _⟩ | ⟨fresh', refreshed', changes', scans', returns', counts⟩
    · rw [scans] at stops
      cases stops
    · cases scans.symm.trans scans'
      cases returns.symm.trans returns'
      exact counts

/-- The snapshot and what answers questions about it are the same as in another project. -/
def KeepsIndex (before after : Project σ) : Prop :=
  after.snapshot = before.snapshot ∧ after.catalog = before.catalog

end SourceAtlas.Project
