import SourceAtlas.Language.Registry
import SourceAtlas.Proofs.Assoc
import SourceAtlas.Proofs.Text.Case

/-! What a registry holds after any number of registrations: under a name, an alias or an
extension always what the last registration with it gave, and under a name that is also an alias
what the alias leads to. -/

namespace SourceAtlas

/-- A language, or why there is none, registered under a name. -/
structure Registration where
  name : String
  language : Except String Language
  /-- The extensions to take instead of the language's own. -/
  extensions : List String := []

namespace Registration

/-- The name under which the language is kept. -/
def key (registration : Registration) : String :=
  lower registration.name

/-- The aliases that lead to the language; one that could not be made has none. -/
def aliases (registration : Registration) : List String :=
  match registration.language with
  | .error _ => []
  | .ok language => language.identity.aliases.map lower

/-- The extensions that lead to the language; one that could not be made has none. -/
def extensionKeys (registration : Registration) : List String :=
  match registration.language with
  | .error _ => []
  | .ok language =>
    (if registration.extensions.isEmpty then language.identity.extensions
      else registration.extensions).map Registry.extensionKey

/-- What a lookup that leads here gives. -/
def outcome (registration : Registration) : Except RegistryFault Language :=
  registration.language.mapError .unusable

/-- The last of some registrations that passes a test. -/
def last? (registrations : List Registration) (test : Registration → Bool) : Option Registration :=
  registrations.reverse.find? test

/-- The last registration under a name. -/
def lastUnder? (registrations : List Registration) (name : String) : Option Registration :=
  last? registrations (·.key == name)

/-- The last registration that lists an alias. -/
def lastListing? (registrations : List Registration) (name : String) : Option Registration :=
  last? registrations (·.aliases.contains name)

/-- The last registration of all is looked at first. -/
private theorem last?_append_singleton (registrations : List Registration)
    (registration : Registration) (test : Registration → Bool) :
    last? (registrations ++ [registration]) test
      = if test registration then some registration else last? registrations test := by
  -- Reversed, it stands in front.
  simp only [last?, List.reverse_append, List.reverse_singleton, List.singleton_append,
    List.find?_cons]
  split
  · rename_i passes
    simp [passes]
  · rename_i fails
    simp [fails]

/-- A registration that passes a test is among those given. -/
theorem mem_of_last? {registrations : List Registration} {test : Registration → Bool}
    {registration : Registration} (found : last? registrations test = some registration) :
    registration ∈ registrations ∧ test registration = true :=
  ⟨List.mem_reverse.mp (List.mem_of_find?_eq_some found), List.find?_some found⟩

/-- A name that was registered has a last registration. -/
private theorem exists_lastUnder? {registrations : List Registration} {registration : Registration}
    (member : registration ∈ registrations) :
    ∃ own, lastUnder? registrations registration.key = some own := by
  -- The search from the end finds one at the latest where the name was registered.
  rw [← Option.isSome_iff_exists, lastUnder?, last?, List.find?_isSome]
  exact ⟨registration, List.mem_reverse.mpr member, by simp⟩

end Registration

namespace Registry

open Registration

variable {registry : Registry} {registration : Registration} {registrations : List Registration}

/-- Registers several languages, one after the other. -/
def ofRegistrations (registrations : List Registration) : Registry :=
  registrations.foldl
    (fun registry registration =>
      registry.register registration.name registration.language registration.extensions) empty

/-- One more registration is made after all others. -/
private theorem ofRegistrations_append_singleton (registrations : List Registration)
    (registration : Registration) :
    ofRegistrations (registrations ++ [registration])
      = (ofRegistrations registrations).register registration.name registration.language
        registration.extensions := by
  -- Registrations are made from left to right.
  simp [ofRegistrations]

/-- Names that are all given to one owner have that owner, and the others keep theirs. -/
theorem get?_foldl_put (names : List String) (key : String → String) (owner : String)
    (owners : Assoc String) (name : String) :
    (names.foldl (fun owners name => owners.put (key name) owner) owners).get? name
      = if name ∈ names.map key then some owner else owners.get? name := by
  -- A later name overrides an earlier one only with the same owner.
  induction names generalizing owners with
  | nil => simp
  | cons first names ih =>
    rw [List.foldl_cons, ih, Assoc.get?_put]
    by_cases later : name ∈ names.map key
    · simp [later]
    · by_cases same : name = key first
      · simp [same]
      · simp [later, same]

/-- A registration puts its language under its name. -/
private theorem languages_register (registry : Registry) (registration : Registration) :
    (registry.register registration.name registration.language registration.extensions).languages
      = registry.languages.put registration.key registration.language := by
  -- Also the reason why there is none is kept.
  cases made : registration.language with
  | error reason => rfl
  | ok language => rfl

/-- A registration takes over its aliases. -/
private theorem aliasOwners_register (registry : Registry) (registration : Registration)
    (name : String) :
    (registry.register registration.name registration.language
      registration.extensions).aliasOwners.get? name
      = if registration.aliases.contains name then some registration.key
        else registry.aliasOwners.get? name := by
  -- One that could not be made takes over nothing.
  cases made : registration.language with
  | error reason => simp [register, aliases, made]
  | ok language =>
    simp only [register, claim, aliases, made]
    rw [get?_foldl_put]
    simp [key]

/-- A registration takes over its extensions. -/
private theorem extensionOwners_register (registry : Registry) (registration : Registration)
    (extension : String) :
    (registry.register registration.name registration.language
      registration.extensions).extensionOwners.get? extension
      = if registration.extensionKeys.contains extension then some registration.key
        else registry.extensionOwners.get? extension := by
  -- One that could not be made takes over nothing.
  cases made : registration.language with
  | error reason => simp [register, extensionKeys, made]
  | ok language =>
    simp only [register, claim, extensionKeys, made]
    rw [get?_foldl_put]
    simp [key]

/-- A table that every registration changes only where it passes a test holds what the last
one that passes it gave. -/
theorem get?_ofRegistrations {α : Type} (table : Registry → Assoc α) (isEmpty : table empty = [])
    (test : String → Registration → Bool) (value : Registration → α)
    (step : ∀ registry registration name,
      (table (registry.register registration.name registration.language
          registration.extensions)).get? name
        = if test name registration then some (value registration)
          else (table registry).get? name)
    (registrations : List Registration) (name : String) :
    (table (ofRegistrations registrations)).get? name
      = (last? registrations (test name)).map value := by
  -- The induction adds registrations at the end, where they are made.
  rw [← List.reverse_reverse registrations]
  induction registrations.reverse with
  | nil => simp [ofRegistrations, isEmpty, last?]
  | cons registration earlier ih =>
    rw [List.reverse_cons, ofRegistrations_append_singleton, step, last?_append_singleton, ih]
    split <;> rfl

/-- Under a name stands what was registered last under it. -/
theorem languages_ofRegistrations (registrations : List Registration) (name : String) :
    (ofRegistrations registrations).languages.get? name
      = (lastUnder? registrations name).map language := by
  -- A registration changes its own name and no other.
  refine get?_ofRegistrations languages rfl (fun name registration => registration.key == name)
    language ?_ _ _
  intro registry registration name
  rw [languages_register, Assoc.get?_put]
  by_cases same : name = registration.key
  · simp [same]
  · simp [same, Ne.symm same]

/-- An alias leads to the name of the last language that lists it. -/
private theorem aliasOwners_ofRegistrations (registrations : List Registration) (name : String) :
    (ofRegistrations registrations).aliasOwners.get? name
      = (lastListing? registrations name).map key :=
  get?_ofRegistrations aliasOwners rfl
    (fun name registration => registration.aliases.contains name) key
    aliasOwners_register registrations name

/-- An extension leads to the name of the last language that was registered with it. -/
private theorem extensionOwners_ofRegistrations (registrations : List Registration)
    (extension : String) :
    (ofRegistrations registrations).extensionOwners.get? extension
      = (last? registrations (·.extensionKeys.contains extension)).map key :=
  get?_ofRegistrations extensionOwners rfl
    (fun name registration => registration.extensionKeys.contains name) key
    extensionOwners_register registrations extension

/-- A key stands in a table iff something is found under it. -/
theorem mem_sortTexts_keys {α : Type} {table : Assoc α} {name : String} :
    name ∈ sortTexts table.keys ↔ (table.get? name).isSome = true := by
  -- Sorting keeps the keys.
  rw [sortTexts, List.mem_mergeSort, ← Decidable.not_iff_not, ← Assoc.get?_eq_none_iff]
  simp

/-- The names of a registry are those under which something was registered. -/
theorem mem_names_iff {name : String} :
    name ∈ (ofRegistrations registrations).names ↔
      ∃ own, lastUnder? registrations name = some own := by
  -- Something is found under a name when something was registered under it.
  rw [names, mem_sortTexts_keys, languages_ofRegistrations, Option.isSome_map,
    Option.isSome_iff_exists]

/-- The extensions of a registry are those that were registered. -/
theorem mem_extensions_iff {extension : String} :
    extension ∈ (ofRegistrations registrations).extensions ↔
      ∃ owner, last? registrations (·.extensionKeys.contains extension) = some owner := by
  -- An extension has an owner when it was registered.
  rw [extensions, mem_sortTexts_keys, extensionOwners_ofRegistrations, Option.isSome_map,
    Option.isSome_iff_exists]

/-- A lookup gives what the last registration under the name found gave. -/
private theorem find_of_resolveName {name : String} {own : Registration}
    (isLast : lastUnder? registrations
      ((ofRegistrations registrations).resolveName name) = some own) :
    (ofRegistrations registrations).find name = own.outcome := by
  -- What is found under the name is kept there since.
  have found :=
    languages_ofRegistrations registrations ((ofRegistrations registrations).resolveName name)
  rw [isLast, Option.map_some] at found
  rw [find, found, outcome]
  cases own.language with
  | error reason => rfl
  | ok language => rfl

/-- An extension that was not registered leads to no language. -/
theorem ofExtension_of_not_mem {extension : String}
    (unknown : extensionKey extension ∉ (ofRegistrations registrations).extensions) :
    (ofRegistrations registrations).ofExtension extension = .ok none := by
  -- Nobody owns the extension.
  have nobody : (ofRegistrations registrations).extensionOwners.get?
      (extensionKey extension) = none := by
    rw [extensions, mem_sortTexts_keys] at unknown
    simpa using unknown
  rw [ofExtension, nobody]

/-- An extension that was registered leads to a language, or to the reason why there is none. -/
theorem ofExtension_of_mem {extension : String}
    (known : extensionKey extension ∈ (ofRegistrations registrations).extensions) :
    (∃ language, (ofRegistrations registrations).ofExtension extension = .ok (some language)) ∨
      ∃ reason, (ofRegistrations registrations).ofExtension extension
        = .error (.unusable reason) := by
  -- The owner of the extension was registered under its name, if only last.
  obtain ⟨owner, isOwner⟩ := mem_extensions_iff.mp known
  obtain ⟨holder, isHolder⟩ := exists_lastUnder? (mem_of_last? isOwner).1
  have named := extensionOwners_ofRegistrations registrations (extensionKey extension)
  have kept := languages_ofRegistrations registrations owner.key
  rw [isOwner] at named
  rw [isHolder] at kept
  simp only [ofExtension, named, Option.map_some, kept]
  cases holder.language with
  | error reason => exact .inr ⟨reason, rfl⟩
  | ok language => exact .inl ⟨language, rfl⟩

/-- An extension with its dot is looked up in lower case. -/
theorem extensionKey_of_dot {extension : String} {rest : List Char}
    (starts : extension.toList = '.' :: rest) : extensionKey extension = lower extension := by
  -- The dot has no lower case, so the key starts with it as well.
  obtain ⟨others, isLower⟩ := toList_lower_of_dot starts
  have dotted : (lower extension).startsWith "." = true := by
    rw [String.startsWith_string_iff, isLower]
    exact ⟨others, rfl⟩
  simp [extensionKey, dotted]

/-- The name under which a listed name is looked up: that of the last language to list it
as an alias, or its own. -/
private theorem resolveName_of_lastUnder? {name : String} {own : Registration}
    (isLast : lastUnder? registrations name = some own) :
    (ofRegistrations registrations).resolveName name
      = ((lastListing? registrations name).map key).getD name := by
  -- A listed name is in lower case already.
  have isKey : lower name = name := by
    have same : own.key = name := by simpa using (mem_of_last? isLast).2
    rw [← same, key, lower_lower]
  rw [resolveName, isKey, aliasOwners_ofRegistrations]

/-- A listed name leads to what was registered last under it, unless a language lists it as
an alias: then it leads to what was registered last under the name of the last such
language, whatever that is. -/
theorem find_listed_name (registrations : List Registration) (name : String)
    (listed : name ∈ (ofRegistrations registrations).names) :
    ∃ own, lastUnder? registrations name = some own ∧
      ((ofRegistrations registrations).find name = own.outcome ↔
        ∀ other holder, lastListing? registrations name = some other →
          lastUnder? registrations other.key = some holder → holder.outcome = own.outcome) ∧
      ∀ other, lastListing? registrations name = some other →
        ∃ holder, lastUnder? registrations other.key = some holder ∧
          (ofRegistrations registrations).find name = holder.outcome := by
  -- The alias decides, if there is one.
  obtain ⟨own, isLast⟩ := mem_names_iff.mp listed
  have resolved := resolveName_of_lastUnder? isLast
  refine ⟨own, isLast, ?_⟩
  cases lists : lastListing? registrations name with
  | none =>
    -- Nothing lists the name as an alias, so it stands for itself.
    have leads : (ofRegistrations registrations).resolveName name = name := by
      rw [resolved, lists]
      rfl
    refine ⟨⟨fun _ => by simp, fun _ => ?_⟩, by simp⟩
    exact find_of_resolveName (by rw [leads, isLast])
  | some other =>
    have leads : (ofRegistrations registrations).resolveName name = other.key := by
      rw [resolved, lists]
      rfl
    -- The name of the language that lists it may itself have been registered again since.
    obtain ⟨holder, isHolder⟩ := exists_lastUnder? (mem_of_last? lists).1
    have found : (ofRegistrations registrations).find name = holder.outcome :=
      find_of_resolveName (by rw [leads, isHolder])
    refine ⟨⟨fun same => ?_, fun all => ?_⟩, ?_⟩
    · rintro _ held ⟨⟩ isHeld
      rw [isHolder] at isHeld
      cases isHeld
      rw [← found, same]
    · rw [found, all other holder rfl isHolder]
    · rintro _ ⟨⟩
      exact ⟨holder, isHolder, found⟩

/-- A language that only has names. -/
def plainLanguage (name : String) (aliases : List String) : Language where
  identity := { name, displayName := name, aliases }
  symbolPatterns := []
  referencePatterns := .ok []
  parameterNames _ := []
  inferKind kind _ := kind

/-- A name that another language took as an alias leads to its own language again
when that takes it back. -/
theorem find_listed_name_taken_back :
    let registrations : List Registration := [⟨"a", .ok (plainLanguage "a" []), []⟩,
      ⟨"b", .ok (plainLanguage "b" ["A"]), []⟩, ⟨"A", .ok (plainLanguage "a" ["a"]), []⟩]
    "a" ∈ (ofRegistrations registrations).names ∧
      ∃ own, lastUnder? registrations "a" = some own ∧
        (ofRegistrations registrations).find "a" = own.outcome := by
  -- The last language to list the name is the one of that name.
  intro registrations
  have listed : "a" ∈ (ofRegistrations registrations).names :=
    mem_names_iff.mpr (Option.isSome_iff_exists.mp (by decide +kernel))
  have takenBack : (lastListing? registrations "a").all (·.key == "a") = true := by
    decide +kernel
  obtain ⟨own, isLast, reaches, -⟩ := find_listed_name registrations "a" listed
  refine ⟨listed, own, isLast, reaches.mpr fun other holder lists isHolder => ?_⟩
  rw [lists] at takenBack
  have same : other.key = "a" := by simpa using takenBack
  rw [same, isLast] at isHolder
  cases isHolder
  rfl

/-- A language that lists the name of another as an alias is found in its place. -/
theorem find_name_shadowed :
    let registrations : List Registration :=
      [⟨"a", .ok (plainLanguage "a" []), []⟩, ⟨"b", .ok (plainLanguage "b" ["a"]), []⟩]
    "a" ∈ (ofRegistrations registrations).names ∧
      ∃ own, lastUnder? registrations "a" = some own ∧
        (ofRegistrations registrations).find "a" ≠ own.outcome := by
  -- The name is registered, and leads to the language that lists it.
  intro registrations
  let nameOf (found : Except RegistryFault Language) : Option String :=
    found.toOption.map (·.identity.name)
  have registered : ∃ own, lastUnder? registrations "a" = some own :=
    Option.isSome_iff_exists.mp (by decide +kernel)
  have itself : ((lastUnder? registrations "a").all fun own => nameOf own.outcome == some "a")
      = true := by
    decide +kernel
  have other : nameOf ((ofRegistrations registrations).find "a") = some "b" := by
    decide +kernel
  obtain ⟨own, isLast⟩ := registered
  refine ⟨mem_names_iff.mpr ⟨own, isLast⟩, own, isLast, fun same => ?_⟩
  rw [isLast] at itself
  rw [same, eq_of_beq itself] at other
  exact absurd other (by decide)

end Registry

end SourceAtlas
