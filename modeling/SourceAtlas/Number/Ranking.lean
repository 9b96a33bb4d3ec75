import SourceAtlas.Number.Binary64

/-! Ordering items by a double, the highest first. -/

namespace SourceAtlas

variable {α : Type}

/-- The place for a value among ascending ones, found by halving the stretch that is left. -/
def placeFor (value : Binary64) (keys : Array Binary64) (low high : Nat) : Nat :=
  if low < high then
    -- An equal value goes behind those that are there.
    let middle := low + (high - low) / 2
    if value.lt (keys.getD middle .zero) then placeFor value keys low middle
    else placeFor value keys (middle + 1) high
  else low
termination_by high - low

/-- Puts an item among ascending ones. -/
def insertAscending (key : α → Binary64) (done : List α) (item : α) : List α :=
  -- The halving needs the keys in an array, but the result is a list again.
  let place := placeFor (key item) (done.map key).toArray 0 done.length
  done.take place ++ item :: done.drop place

/-- The items after a first one that go on strictly falling, and the rest. -/
def fallingRun (key : α → Binary64) : α → List α → List α × List α
  | _, [] => ([], [])
  | last, item :: items =>
    -- A falling run is turned round, so it must not hold equal items.
    if (key item).lt (key last) then
      let (run, rest) := fallingRun key item items
      (item :: run, rest)
    else ([], item :: items)

/-- The items after a first one that go on without falling, and the rest. -/
def risingRun (key : α → Binary64) : α → List α → List α × List α
  | _, [] => ([], [])
  | last, item :: items =>
    -- Equal items may follow, as the run keeps its order.
    if (key item).lt (key last) then ([], item :: items)
    else
      let (run, rest) := risingRun key item items
      (item :: run, rest)

/-- Orders items by inserting what follows their first run; what is no number stays
where halving leads it. -/
def sortAscending (key : α → Binary64) : List α → List α
  | [] => []
  | [item] => [item]
  | first :: second :: items =>
    -- The first two items decide which kind of run it is.
    let (start, rest) := if (key second).lt (key first) then
        let (run, rest) := fallingRun key second items
        ((first :: second :: run).reverse, rest)
      else
        let (run, rest) := risingRun key second items
        (first :: second :: run, rest)
    rest.foldl (insertAscending key) start

/-- Orders items by a double, the highest first; equal ones keep their order. -/
def sortDescending (key : α → Binary64) (items : List α) : List α :=
  -- Turning twice keeps equal items in order; without what is no number any stable order does.
  if items.any fun item => (key item).isNaN then (sortAscending key items.reverse).reverse
  else items.mergeSort fun a b => !(key a).lt (key b)

end SourceAtlas
