/-! Optional parts that are made when they are first asked for. -/

namespace SourceAtlas

/-- What making a part gives: the part or nothing, or the reason why it cannot be made. -/
abbrev Making (α : Type) := Except String (Option α)

/-- An optional part, made at most once from a supply; what making it gave is kept. -/
structure Capability (σ α : Type) where
  make : σ → Making α × σ
  supply : σ
  found : Option (Making α) := none

namespace Capability

variable {σ α : Type}

/-- Whether making the part has been tried. -/
def probed (capability : Capability σ α) : Bool :=
  capability.found.isSome

/-- Tries to make the part unless that has been tried. -/
def probe (capability : Capability σ α) : Capability σ α :=
  match capability.found with
  -- What was tried once is not tried again, not even where it failed.
  | some _ => capability
  | none =>
    let (made, supply) := capability.make capability.supply
    { capability with supply, found := some made }

/-- The part, if making it gave one. -/
def value? (capability : Capability σ α) : Option α :=
  match capability.found with
  -- A part may also be missing without a reason.
  | some (.ok made) => made
  | _ => none

/-- Why the part could not be made. -/
def fault? (capability : Capability σ α) : Option String :=
  match capability.found with
  | some (.error reason) => some reason
  | _ => none

/-- The part, made now if it has not been tried. -/
def get (capability : Capability σ α) : Option α × Capability σ α :=
  let capability := capability.probe
  -- The capability after that knows what making gave.
  (capability.value?, capability)

/-- Forgets what making the part gave. -/
def reset (capability : Capability σ α) : Capability σ α :=
  -- The supply stays as it is, so making it again may give something else.
  { capability with found := none }

/-- The notice about a part that cannot be made. -/
def notice (name reason : String) : String :=
  name ++ " not available: " ++ reason

end Capability

/-- A part that is there already, or known to be missing. -/
def Capability.ofValue {α : Type} (value : Option α) : Capability Unit α where
  make _ := (.ok value, ())
  supply := ()
  -- It counts as tried, so nothing is ever made.
  found := some (.ok value)

end SourceAtlas
