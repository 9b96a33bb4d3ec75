import SourceAtlas.Assoc

/-! Association lists: what putting keeps, and when keys are distinct. -/

namespace SourceAtlas

/-- Items are told apart by what they are mapped to, where that is distinct. -/
theorem eq_of_nodup_map {α β : Type} {view : α → β} {items : List α}
    (distinct : (items.map view).Nodup) {item other : α} (member : item ∈ items)
    (otherMember : other ∈ items) (same : view item = view other) :
    item = other := by
  -- Two items of one view would be two equal entries of the mapped list.
  induction items with
  | nil => cases member
  | cons first items ih =>
    rw [List.map_cons, List.nodup_cons] at distinct
    rcases List.mem_cons.mp member with rfl | later
    · rcases List.mem_cons.mp otherMember with rfl | otherLater
      · rfl
      · -- The first item would come again later among the views.
        exact absurd (List.mem_map.mpr ⟨other, otherLater, same.symm⟩) distinct.1
    · rcases List.mem_cons.mp otherMember with rfl | otherLater
      · exact absurd (List.mem_map.mpr ⟨item, later, same⟩) distinct.1
      · exact ih distinct.2 later otherLater

namespace Assoc

variable {α : Type}

/-- An empty list has no keys. -/
@[simp] theorem keys_nil : keys ([] : Assoc α) = [] := rfl

/-- The key of the first entry comes first. -/
@[simp] theorem keys_cons (entry : String × α) (entries : Assoc α) :
    keys (entry :: entries) = entry.1 :: keys entries := rfl

/-- Keys come in the order of the lists. -/
@[simp] theorem keys_append (entries others : Assoc α) :
    keys (entries ++ others) = keys entries ++ keys others := by
  simp [keys]

/-- Nothing is found in an empty list. -/
@[simp] theorem get?_nil (key : String) : get? ([] : Assoc α) key = none := rfl

/-- A lookup tries the first entry first. -/
@[simp] theorem get?_cons (name : String) (value : α) (entries : Assoc α) (key : String) :
    get? ((name, value) :: entries) key = if key = name then some value else get? entries key := by
  -- The lookup stops at the first entry exactly when its key is the one asked for.
  by_cases same : key = name
  · simp [get?, same]
  · have differs : (key == name) = false := by simpa using same
    simp [get?, List.lookup_cons, differs, same]

/-- A key has a value iff it is among the keys. -/
@[simp] theorem has_iff {entries : Assoc α} {key : String} :
    entries.has key = true ↔ key ∈ entries.keys := by
  simp [has, keys]

/-- A key has no value iff it is not among the keys. -/
@[simp] theorem has_eq_false {entries : Assoc α} {key : String} :
    entries.has key = false ↔ key ∉ entries.keys := by
  rw [← Bool.not_eq_true, has_iff]

/-- Nothing is found under a key that is not there, and only there. -/
theorem get?_eq_none_iff {entries : Assoc α} {key : String} :
    entries.get? key = none ↔ key ∉ entries.keys := by
  -- The first entry either has the key or can be passed by.
  induction entries with
  | nil => simp
  | cons entry entries ih =>
    obtain ⟨name, value⟩ := entry
    by_cases same : key = name
    · simp [same]
    · simp [same, ih]

/-- What is found under a key stands among the entries. -/
theorem mem_of_get?_eq_some {entries : Assoc α} {key : String} {value : α}
    (found : entries.get? key = some value) : (key, value) ∈ entries := by
  -- The lookup stops at an entry with the key, or goes on behind the first one.
  induction entries with
  | nil => simp at found
  | cons entry entries ih =>
    obtain ⟨name, other⟩ := entry
    by_cases same : key = name
    · simp only [get?_cons, same, if_true, Option.some.injEq] at found
      simp [same, found]
    · simp only [get?_cons, same, if_false] at found
      exact List.mem_cons_of_mem _ (ih found)

/-- The key of an entry is among the keys. -/
theorem mem_keys_of_mem {entries : Assoc α} {entry : String × α} (member : entry ∈ entries) :
    entry.1 ∈ entries.keys :=
  List.mem_map.mpr ⟨entry, member, rfl⟩

/-- An entry is what is found under its key when keys are distinct. -/
theorem get?_of_mem {entries : Assoc α} (distinct : entries.keys.Nodup) {key : String} {value : α}
    (member : (key, value) ∈ entries) : entries.get? key = some value := by
  -- Distinct keys are needed so that no earlier entry hides the one that is meant.
  induction entries with
  | nil => simp at member
  | cons entry entries ih =>
    obtain ⟨name, other⟩ := entry
    simp only [keys_cons, List.nodup_cons] at distinct
    rcases List.mem_cons.mp member with same | later
    · cases same
      simp
    · -- A later entry has another key than the first, so the lookup passes the first by.
      have differs : key ≠ name := by
        rintro rfl
        exact distinct.1 (mem_keys_of_mem later)
      simpa [differs] using ih distinct.2 later

/-- A lookup in two lists tries the first one first. -/
theorem get?_append (entries others : Assoc α) (key : String) :
    get? (entries ++ others) key = (entries.get? key).or (others.get? key) := by
  -- The first list answers as soon as it has the key.
  induction entries with
  | nil => simp
  | cons entry entries ih =>
    obtain ⟨name, value⟩ := entry
    by_cases same : key = name
    · simp [same]
    · simpa [same] using ih

/-- A new key goes to the end. -/
theorem put_of_not_mem {entries : Assoc α} {key : String} (fresh : key ∉ entries.keys) (value : α) :
    entries.put key value = entries ++ [(key, value)] := by
  simp [put, has_eq_false.mpr fresh]

/-- A known key keeps its place. -/
theorem put_of_mem {entries : Assoc α} {key : String} (known : key ∈ entries.keys) (value : α) :
    entries.put key value = entries.map fun entry => if entry.1 == key then (key, value)
      else entry := by
  simp [put, has_iff.mpr known]

/-- Putting adds the key at most once. -/
theorem keys_put (entries : Assoc α) (key : String) (value : α) :
    (entries.put key value).keys = if key ∈ entries.keys then entries.keys
      else entries.keys ++ [key] := by
  split
  · -- Replacing a value leaves every key in its place.
    rename_i known
    rw [put_of_mem known]
    simp only [keys, List.map_map]
    refine List.map_congr_left fun entry _ => ?_
    by_cases same : entry.1 = key <;> simp [same]
  · rename_i fresh
    simp [put_of_not_mem fresh]

/-- What is put is new, and everything else was there. -/
theorem mem_put {entries : Assoc α} {key : String} {value : α} {entry : String × α}
    (member : entry ∈ entries.put key value) : entry ∈ entries ∨ entry = (key, value) := by
  -- Either the key was known and an entry is replaced, or a new entry goes to the end.
  unfold put at member
  split at member
  · obtain ⟨old, inside, rfl⟩ := List.mem_map.mp member
    split
    · exact .inr rfl
    · exact .inl inside
  · rcases List.mem_append.mp member with old | new
    · exact .inl old
    · exact .inr (by simpa using new)

/-- Putting keeps keys distinct. -/
theorem nodup_keys_put {entries : Assoc α} (distinct : entries.keys.Nodup) (key : String)
    (value : α) :
    (entries.put key value).keys.Nodup := by
  -- The keys stay as they are or get one more that was not there.
  rw [keys_put]
  split
  · exact distinct
  · rename_i fresh
    refine List.nodup_append.mpr ⟨distinct, by simp, ?_⟩
    rintro a member b isKey rfl
    simp_all

/-- What is found after a value is replaced. -/
theorem get?_replace (entries : Assoc α) (key : String) (value : α) (other : String) :
    get? (entries.map fun entry => if entry.1 == key then (key, value) else entry) other
      = if other = key then (entries.get? key).map fun _ => value else entries.get? other := by
  -- The lookup and the replacement go through the entries side by side.
  induction entries with
  | nil => simp
  | cons entry entries ih =>
    obtain ⟨name, old⟩ := entry
    -- Either the first entry is replaced or it stays, and either it is the one asked for or not.
    by_cases renamed : name = key
    · subst renamed
      by_cases asked : other = name
      · simp [asked]
      · simpa [asked] using ih
    · by_cases asked : other = key
      · subst asked
        simpa [renamed, Ne.symm renamed] using ih
      · by_cases same : other = name
        · subst same
          simp [renamed]
        · simpa [renamed, asked, same] using ih

/-- After putting, the key has the value and all other keys have what they had. -/
theorem get?_put (entries : Assoc α) (key : String) (value : α) (other : String) :
    (entries.put key value).get? other = if other = key then some value
      else entries.get? other := by
  by_cases known : key ∈ entries.keys
  · -- A known key has a value to replace.
    rw [put_of_mem known, get?_replace]
    split
    · cases found : entries.get? key with
      | none => exact absurd known (get?_eq_none_iff.mp found)
      | some old => rfl
    · rfl
  · -- A new key is found at the end, behind entries that do not have it.
    rw [put_of_not_mem known, get?_append]
    split
    · rename_i asked
      simp [asked, get?_eq_none_iff.mpr known]
    · rename_i asked
      simp [asked]

/-- Adding a value to the list under a key lengthens that list and no other. -/
theorem getD_push (entries : Assoc (List α)) (key : String) (value : α) (other : String) :
    ((entries.push key value).get? other).getD []
      = (entries.get? other).getD [] ++ if other = key then [value] else [] := by
  -- Adding to a list is putting a longer list under its key.
  rw [push, get?_put]
  by_cases asked : other = key
  · simp [asked]
  · simp [asked]

/-- After a key is removed, nothing is found under it and all other keys have what they had. -/
theorem get?_erase (entries : Assoc α) (key other : String) :
    (entries.erase key).get? other = if other = key then none else entries.get? other := by
  -- A removed entry is passed by in both lookups, a kept one is met in both.
  induction entries with
  | nil => simp [erase]
  | cons entry entries ih =>
    obtain ⟨name, value⟩ := entry
    by_cases removed : name = key
    · subst removed
      by_cases asked : other = name
      · simpa [erase, asked] using ih
      · simpa [erase, asked] using ih
    · by_cases same : other = name
      · subst same
        simp [erase, removed]
      · simpa [erase, removed, same] using ih

/-- Removing keys in another order makes no difference. -/
theorem erase_comm (entries : Assoc α) (key other : String) :
    (entries.erase key).erase other = (entries.erase other).erase key := by
  -- Both keep the entries that have neither key.
  simp only [erase, List.filter_filter, Bool.and_comm]

/-- What is put under a key goes when the key is removed, and leaves nothing behind. -/
theorem erase_put (entries : Assoc α) (key : String) (value : α) :
    (entries.put key value).erase key = entries.erase key := by
  by_cases known : key ∈ entries.keys
  · -- Every entry either has the key and goes, or stays as it is.
    rw [put_of_mem known]
    clear known
    induction entries with
    | nil => rfl
    | cons entry entries ih => by_cases same : entry.1 = key <;> simp_all [erase]
  · rw [put_of_not_mem known]
    simp [erase]

/-- Entries with new and distinct keys are put as they are. -/
theorem putAll_of_nodup {entries others : Assoc α} (distinct : (entries ++ others).keys.Nodup) :
    entries.putAll others = entries ++ others := by
  -- The entries grow with every step, so they stay quantified over.
  induction others generalizing entries with
  | nil => simp [putAll]
  | cons entry others ih =>
    obtain ⟨name, value⟩ := entry
    have fresh : name ∉ entries.keys := by
      rw [keys_append, List.nodup_append] at distinct
      intro member
      exact distinct.2.2 name member name (by simp) rfl
    have rest := @ih (entries ++ [(name, value)]) (by simpa using distinct)
    simpa [putAll, put_of_not_mem fresh] using rest

/-- Putting nothing changes nothing. -/
@[simp] theorem putAll_nil (entries : Assoc α) : entries.putAll [] = entries := rfl

/-- Entries are put one after the other. -/
@[simp] theorem putAll_cons (entries : Assoc α) (name : String) (value : α) (others : Assoc α) :
    entries.putAll ((name, value) :: others) = (entries.put name value).putAll others := rfl

/-- Entries of two lists are put one list after the other. -/
theorem putAll_append (entries others more : Assoc α) :
    entries.putAll (others ++ more) = (entries.putAll others).putAll more := by
  simp [putAll]

/-- Entries that are not met by a key stay in front of what putting does. -/
theorem put_append {entries : Assoc α} {key : String} (apart : key ∉ entries.keys)
    (others : Assoc α) (value : α) :
    Assoc.put (entries ++ others) key value = entries ++ others.put key value := by
  -- Putting either replaces among the others or adds behind them.
  by_cases known : key ∈ others.keys
  · have whole : key ∈ keys (entries ++ others) := by simp [known]
    rw [put_of_mem known, put_of_mem whole, List.map_append]
    congr 1
    -- No entry in front has the key, so none of them is replaced.
    refine List.map_congr_left (g := id) (fun entry member => ?_) |>.trans (List.map_id _)
    have differs : entry.1 ≠ key := by
      rintro rfl
      exact apart (mem_keys_of_mem member)
    simp [differs]
  · rw [put_of_not_mem known, put_of_not_mem (by simp [apart, known]), List.append_assoc]

/-- Entries that are not met by any key stay in front. -/
theorem putAll_append_of_disjoint {entries : Assoc α} (more : Assoc α) :
    ∀ others : Assoc α, (∀ key ∈ more.keys, key ∉ entries.keys) →
      Assoc.putAll (entries ++ others) more = entries ++ others.putAll more := by
  -- Each key is put behind the entries in front, which the induction carries along.
  induction more with
  | nil => simp
  | cons entry more ih =>
    intro others apart
    obtain ⟨name, value⟩ := entry
    rw [putAll_cons, putAll_cons, put_append (apart name (by simp))]
    exact ih _ fun key member => apart key (by simp [member])

/-- Putting several values brings no keys but theirs. -/
theorem mem_keys_putAll {entries others : Assoc α} {key : String}
    (member : key ∈ (entries.putAll others).keys) : key ∈ entries.keys ∨ key ∈ others.keys := by
  -- The entries grow with every key that is put, so they stay quantified over.
  induction others generalizing entries with
  | nil => exact .inl member
  | cons entry others ih =>
    obtain ⟨name, value⟩ := entry
    rcases ih member with before | later
    · -- The key was there before the rest was put: of old, or as the first of the new ones.
      rw [keys_put] at before
      split at before
      · exact .inl before
      · rcases List.mem_append.mp before with old | new
        · exact .inl old
        · exact .inr (by simp_all)
    · exact .inr (by simp [later])

end Assoc

end SourceAtlas
