import SourceAtlas.Proofs.Assoc
import SourceAtlas.Schema.Checked

/-! Reading fields succeeds exactly when every part of it does. -/

namespace SourceAtlas

namespace Checked

variable {α β : Type}

/-- A good value stays good under a function. -/
@[simp] theorem map_good (f : α → β) (x : α) : f <$> Checked.good x = .good (f x) := rfl

/-- A good function applied to a good value gives a good value. -/
@[simp] theorem seq_good (f : α → β) (x : α) :
    Checked.good f <*> Checked.good x = .good (f x) := rfl

/-- A good value has no faults to place. -/
@[simp] theorem under_good (step : PathStep) (x : α) : (Checked.good x).under step = .good x := rfl

/-- A good value is the value. -/
@[simp] theorem value?_good (x : α) : (Checked.good x).value? = some x := rfl

/-- Applying a function gives a value iff there is one to apply it to. -/
theorem map_eq_good_iff {f : α → β} {checked : Checked α} {y : β} :
    f <$> checked = .good y ↔ ∃ x, checked = .good x ∧ f x = y := by
  cases checked with
  | good x => simp
  | bad errors =>
    -- Faults pass through unchanged.
    have bad : f <$> Checked.bad errors = (.bad errors : Checked β) := rfl
    simp [bad]

/-- Applying a checked function gives a value iff both sides are good. -/
theorem seq_eq_good_iff {f : Checked (α → β)} {checked : Checked α} {y : β} :
    f <*> checked = .good y ↔ ∃ g x, f = .good g ∧ checked = .good x ∧ g x = y := by
  -- Of the four ways in which two readings meet, only two good ones give a value.
  cases f with
  | good g =>
    cases checked with
    | good x => simp
    | bad errors =>
      have bad : Checked.good g <*> Checked.bad errors = (.bad errors : Checked β) := rfl
      simp [bad]
  | bad errors =>
    cases checked with
    | good x =>
      have bad : (Checked.bad errors : Checked (α → β)) <*> Checked.good x = .bad errors := rfl
      simp [bad]
    | bad more =>
      -- The faults of both sides are gathered, which still gives no value.
      have bad : (Checked.bad errors : Checked (α → β)) <*> Checked.bad more
          = .bad (errors ++ more) := rfl
      simp [bad]

/-- A step outside changes faults only. -/
theorem under_eq_good_iff {step : PathStep} {checked : Checked α} {x : α} :
    checked.under step = .good x ↔ checked = .good x := by
  -- The step is added to each fault, and a good value has none.
  cases checked <;> simp [under]

/-- There is a value iff the reading is good. -/
theorem value?_eq_some_iff {checked : Checked α} {x : α} :
    checked.value? = some x ↔ checked = .good x := by
  cases checked <;> simp [value?]

end Checked

variable {α : Type}

/-- A field with a default is read iff its value is accepted or it is left out. -/
theorem defaultField_eq_good_iff {fields : Assoc Json} {name : String} {read : FieldReader α}
    {default x : α} :
    defaultField fields name read default = .good x ↔
      (∃ value, fields.get? name = some value ∧ read value = .good x) ∨
        (fields.get? name = none ∧ default = x) := by
  -- A field that is there is read, whatever the default is.
  unfold defaultField
  cases fields.get? name with
  | none => simp
  | some value => simp [Checked.under_eq_good_iff]

namespace FieldReader

/-- A record is read from an object only. -/
theorem record_eq_good_iff {read : Assoc Json → Checked α} {value : Json} {x : α} :
    FieldReader.record read value = .good x ↔ ∃ fields, value = .obj fields ∧
    read fields = .good x := by
  -- Any other kind of value is a fault.
  cases value <;> simp [FieldReader.record, Checked.fault]

/-- Items are read from an array only. -/
theorem array_eq_good_iff {read : FieldReader α} {value : Json} {results : List α} :
    FieldReader.array read value = .good results ↔
      ∃ items, value = .arr items ∧ FieldReader.items read 0 items = .good results := by
  -- Any other kind of value is a fault.
  cases value <;> simp [FieldReader.array, Checked.fault]

/-- Entries are read from an object only. -/
theorem mapping_eq_good_iff {read : FieldReader α} {value : Json} {results : Assoc α} :
    FieldReader.mapping read value = .good results ↔
      ∃ fields, value = .obj fields ∧ FieldReader.entries read fields = .good results := by
  -- Any other kind of value is a fault.
  cases value <;> simp [FieldReader.mapping, Checked.fault]

/-- Items that are each read from what they are written as are read together. -/
theorem items_map {read : FieldReader α} {write : α → Json} {values : List α}
    (each : ∀ value ∈ values, read (write value) = .good value) (index : Nat) :
    FieldReader.items read index (values.map write) = .good values := by
  -- The index only labels faults, so it stays quantified over.
  induction values generalizing index with
  | nil => rfl
  | cons value values ih =>
    simp [FieldReader.items, each value (by simp),
      ih (fun other member => each other (by simp [member]))]

/-- Whatever is read from items is read from one of them. -/
theorem exists_of_mem_items {read : FieldReader α} {values : List Json} {index : Nat}
    {results : List α} (accepted : FieldReader.items read index values = .good results) {x : α}
    (member : x ∈ results) :
    ∃ value ∈ values, read value = .good x := by
  -- The index grows from item to item, so it stays quantified over with the results.
  induction values generalizing index results with
  | nil =>
    simp only [FieldReader.items, Checked.good.injEq] at accepted
    simp [← accepted] at member
  | cons value values ih =>
    -- A good result is made of a good first item and a good rest.
    simp only [FieldReader.items, Checked.seq_eq_good_iff, Checked.map_eq_good_iff,
      Checked.under_eq_good_iff] at accepted
    obtain ⟨_, rest, ⟨first, readFirst, rfl⟩, readRest, rfl⟩ := accepted
    rcases List.mem_cons.mp member with rfl | later
    · exact ⟨value, by simp, readFirst⟩
    · obtain ⟨other, inside, readOther⟩ := ih readRest later
      exact ⟨other, by simp [inside], readOther⟩

/-- Entries of a mapping are read together from what they are written as. -/
theorem entries_map {read : FieldReader α} {write : α → Json}
    (each : ∀ value, read (write value) = .good value) (entries : Assoc α) :
    FieldReader.entries read (entries.map fun entry => (entry.1, write entry.2))
      = .good entries := by
  -- Entry by entry the key stays and the value is read back.
  induction entries with
  | nil => rfl
  | cons entry entries ih => simp [FieldReader.entries, each, ih]

/-- Whatever is read from a mapping has the keys of the mapping. -/
theorem keys_of_entries {read : FieldReader α} {fields : List (String × Json)} {results : Assoc α}
    (accepted : FieldReader.entries read fields = .good results) :
    results.keys = Assoc.keys fields := by
  -- Entry by entry the key is taken over, whatever becomes of the value.
  induction fields generalizing results with
  | nil =>
    simp only [FieldReader.entries, Checked.good.injEq] at accepted
    simp [← accepted]
  | cons field fields ih =>
    simp only [FieldReader.entries, Checked.seq_eq_good_iff, Checked.map_eq_good_iff,
      Checked.under_eq_good_iff] at accepted
    obtain ⟨_, rest, ⟨first, _, rfl⟩, readRest, rfl⟩ := accepted
    simp [ih readRest]

end FieldReader

end SourceAtlas
