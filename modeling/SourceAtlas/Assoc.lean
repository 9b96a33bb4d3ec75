/-! Association lists that keep the order in which keys were first put. -/

namespace SourceAtlas

/-- Values under string keys, in the order of first insertion. -/
abbrev Assoc (α : Type) := List (String × α)

namespace Assoc

variable {α : Type}

/-- The value under a key. -/
def get? (entries : Assoc α) (key : String) : Option α :=
  -- The first entry counts, but keys that were put occur once.
  entries.lookup key

/-- Whether a key has a value. -/
def has (entries : Assoc α) (key : String) : Bool :=
  entries.any fun entry => entry.1 == key

/-- The keys in order. -/
def keys (entries : Assoc α) : List String :=
  entries.map Prod.fst

/-- The values in order. -/
def values (entries : Assoc α) : List α :=
  entries.map Prod.snd

/-- Puts a value under a key: a known key keeps its place, a new one goes to the end. -/
def put (entries : Assoc α) (key : String) (value : α) : Assoc α :=
  -- All entries of the key are replaced in place, of which there is one at most.
  if entries.has key then entries.map fun entry => if entry.1 == key then (key, value) else entry
  else entries ++ [(key, value)]

/-- Puts a value under a key that has none yet; a known key keeps its value. -/
def putNew (entries : Assoc α) (key : String) (value : α) : Assoc α :=
  if entries.has key then entries else entries ++ [(key, value)]

/-- Puts several values in order. -/
def putAll (entries : Assoc α) (others : Assoc α) : Assoc α :=
  others.foldl (fun done entry => done.put entry.1 entry.2) entries

/-- Removes a key. -/
def erase (entries : Assoc α) (key : String) : Assoc α :=
  entries.filter fun entry => entry.1 != key

/-- Adds a value to the list under a key. -/
def push (entries : Assoc (List α)) (key : String) (value : α) : Assoc (List α) :=
  -- A key without a list starts with an empty one.
  entries.put key ((entries.get? key).getD [] ++ [value])

end Assoc

end SourceAtlas
