import SourceAtlas.Language.Basic
import SourceAtlas.Text.Cut

/-! The registry: languages by name, alias and file extension. -/

namespace SourceAtlas

/-- Languages by lower-case name, and the names that extensions and aliases lead to. -/
structure Registry where
  /-- The languages; one that could not be made stands there with the reason. -/
  languages : Assoc (Except String Language)
  extensionOwners : Assoc String
  aliasOwners : Assoc String

/-- Why a registry has no language to give. -/
inductive RegistryFault where
  | notRegistered (name : String) (known : List String)
  | unusable (reason : String)

/-- Texts in ascending order of their code points. -/
def sortTexts (texts : List String) : List String :=
  texts.mergeSort fun a b => decide (a ≤ b)

/-- The wording of a fault. -/
def RegistryFault.message : RegistryFault → String
  | notRegistered name known =>
    "Language '" ++ name ++ "' not registered. Available: " ++ joinWith ", " known
  | unusable reason => reason

namespace Registry

/-- The registry of no language. -/
def empty : Registry := ⟨[], [], []⟩

/-- An extension in lower case with its dot. -/
def extensionKey (extension : String) : String :=
  let key := lower extension
  -- The dot may be left out when an extension is registered or asked for.
  if key.startsWith "." then key else "." ++ key

/-- The names of the registered languages in order. -/
def names (registry : Registry) : List String :=
  sortTexts registry.languages.keys

/-- The registered extensions in order. -/
def extensions (registry : Registry) : List String :=
  sortTexts registry.extensionOwners.keys

/-- Gives extensions and aliases to a name; a later owner takes over from an earlier one. -/
def claim (registry : Registry) (name : String) (extensions aliases : List String) : Registry :=
  { registry with
    -- Extensions and aliases are each put one after the other, so the last one counts within a list
    -- too.
    extensionOwners := extensions.foldl (fun owners extension =>
      owners.put (extensionKey extension) name) registry.extensionOwners
    aliasOwners := aliases.foldl (fun owners alias_ => owners.put (lower alias_) name)
      registry.aliasOwners }

/-- Registers a language under a name; without extensions of its own the language's are taken. -/
def register (registry : Registry) (name : String) (language : Except String Language)
    (extensions : List String) : Registry :=
  -- Names are told apart in lower case only.
  let key := lower name
  let entered := { registry with languages := registry.languages.put key language }
  match language with
  -- A language that could not be made owns nothing.
  | .error _ => entered
  | .ok language =>
    -- An empty list stands for the extensions of the language.
    let taken := if extensions.isEmpty then language.identity.extensions else extensions
    entered.claim key taken language.identity.aliases

/-- Registers languages under their own names. -/
def registerAll (registry : Registry) (languages : List Language) : Registry :=
  languages.foldl (fun done language => done.register language.identity.name (.ok language) [])
    registry

/-- The registered name that a name or an alias stands for; aliases are asked first. -/
def resolveName (registry : Registry) (name : String) : String :=
  let key := lower name
  -- An alias may hide the name of another language.
  (registry.aliasOwners.get? key).getD key

/-- The language of a name or an alias. -/
def find (registry : Registry) (name : String) : Except RegistryFault Language :=
  let key := registry.resolveName name
  match registry.languages.get? key with
  -- The message tells the name that was looked for, after aliases.
  | none => .error (.notRegistered key registry.names)
  | some (.error reason) => .error (.unusable reason)
  | some (.ok language) => .ok language

/-- The language that owns an extension, with or without its dot. -/
def ofExtension (registry : Registry) (extension : String) :
    Except RegistryFault (Option Language) :=
  match registry.extensionOwners.get? (extensionKey extension) with
  | none => .ok none
  | some name =>
    match registry.languages.get? name with
    -- The owner may have been replaced since.
    | none => .ok none
    | some (.error reason) => .error (.unusable reason)
    | some (.ok language) => .ok (some language)

/-- The language of a file, by the suffix of its path; a path without a suffix has none. -/
def ofPath (registry : Registry) (path : String) : Except RegistryFault (Option Language) :=
  let suffix := Path.suffix path
  -- A dot at the end makes no suffix.
  if suffix = "" then .ok none else registry.ofExtension suffix

/-- The usable language of a file. -/
def ofPath? (registry : Registry) (path : String) : Option Language :=
  match registry.ofPath path with
  | .ok found => found
  -- A language that could not be made is none for reading a file.
  | .error _ => none

end Registry

end SourceAtlas
