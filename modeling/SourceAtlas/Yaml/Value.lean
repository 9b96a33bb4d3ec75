import SourceAtlas.Json.Value
import SourceAtlas.Number.Numeral
import SourceAtlas.Yaml.Node

/-! The values of YAML documents. -/

namespace SourceAtlas.Yaml

/-- A value; moments are told from everything else and not kept further. -/
inductive Value where
  | null
  | bool (value : Bool)
  | int (value : Int)
  | float (value : Binary64)
  | str (value : String)
  | list (items : List Value)
  | mapping (entries : List (Value × Value))
  | time
  deriving Inhabited

namespace Value

/-- Whether a value counts as present. -/
def truthy : Value → Bool
  -- Zero counts as absent, and what is no number as present.
  | null => false
  | bool value => value
  | int value => value != 0
  | float value => value.isNaN || value.magnitudeBits != 0
  | str value => value != ""
  | list items => !items.isEmpty
  | mapping entries => !entries.isEmpty
  | time => true

/-- Whether a value may be the key of a mapping. -/
def isKey : Value → Bool
  -- Only single values can be compared, as keys must be.
  | list _ => false
  | mapping _ => false
  | _ => true

/-- The value of digits in a base, if there are any. -/
def digitsIn? (base : Nat) (digits : List Char) : Outcome Nat :=
  -- A digit that the base does not have spoils the number.
  let value := digits.foldl
    (fun value c => do
      let digit ← hexValue? c
      if digit < base then return (← value) * base + digit else none)
    (some 0)
  match value with
  | some value => if digits.isEmpty then .error .unreadableNumber else .ok value
  | none => .error .unreadableNumber

/-- The parts of a text between colons. -/
def clockParts (text : List Char) : List (List Char) :=
  -- From the right, each colon starts a new part.
  text.foldr
    (fun c parts =>
      if c == ':' then [] :: parts
      else match parts with
        | [] => [[c]]
        | part :: others => (c :: part) :: others)
    [[]]

/-- An integer in base two, eight, ten or sixteen, or in parts of sixty. -/
def integerOf (text : String) : Outcome Int := do
  -- Underscores may stand anywhere and are dropped first.
  let digits := text.toList.filter (· != '_')
  let negative := digits.head? == some '-'
  let body := unsigned digits
  let value ← show Outcome Nat from match body with
    | [] => .error (if digits.isEmpty then .emptyNumber else .unreadableNumber)
    | ['0'] => .ok 0
    | '0' :: 'b' :: rest => digitsIn? 2 rest
    | '0' :: 'x' :: rest => digitsIn? 16 rest
    | '0' :: rest => digitsIn? 8 ('0' :: rest)
    -- Without a colon there is only one part.
    | body =>
      (clockParts body).foldlM (fun value part => return value * 60 + (← digitsIn? 10 part)) 0
  return if negative then -(value : Int) else value

/-- A number with a point, an infinity, no number, or a number in parts of sixty. -/
def numberOf (text : String) : Outcome Binary64 := do
  -- The words may stand in any case.
  let chars := (text.toList.filter (· != '_')).map Char.toLower
  let negative := chars.head? == some '-'
  let body := unsigned chars
  -- The sign is put on at the end, and turns that of what was read.
  let signed := fun (x : Binary64) => Binary64.ofParts (x.isNegative != negative) x.magnitudeBits
  let read := fun (part : List Char) => match numberInText? part with
    | some value => Except.ok value
    | none => Except.error Fault.unreadableNumber
  if chars.isEmpty then .error .emptyNumber
  else if body == ".inf".toList then return signed Binary64.infinity
  else if body == ".nan".toList then return Binary64.nan
  else if body.contains ':' then do
    let parts ← (clockParts body).mapM read
    -- The last part counts once, each one in front of it sixty times as much.
    let (total, _) := parts.reverse.foldl
      (fun (total, base) part => (Binary64.add total (part.timesNat base), base * 60))
        (Binary64.zero, 1)
    return signed total
  else return signed (← read body)

/-- The boolean that a word stands for. -/
def booleanOf (text : String) : Outcome Bool :=
  -- The word may stand in any case, unlike where the tag is guessed.
  match booleanWords.lookup (String.ofList (text.toList.map Char.toLower)) with
  | some value => .ok value
  | none => .error .unknownBoolean

/-- The number of days in a month. -/
def daysIn (year month : Nat) : Nat :=
  -- Centuries are no leap years, but for every fourth.
  if month == 2 then
    if year % 4 == 0 && (year % 100 != 0 || year % 400 == 0) then 29 else 28
  else if month == 4 || month == 6 || month == 9 || month == 11 then 30
  else 31

/-- Whether a moment is in the calendar. -/
def exists_ (moment : Moment) : Bool :=
  -- The zone must be shorter than a day.
  1 ≤ moment.year && 1 ≤ moment.month && moment.month ≤ 12 && 1 ≤ moment.day &&
    moment.day ≤ daysIn moment.year moment.month && moment.hour < 24 && moment.minute < 60 &&
    moment.second < 60 && moment.zone.1 * 60 + moment.zone.2 < 1440

/-- The value of a tagged text. -/
def ofScalar (tag text : String) : Outcome Value :=
  -- A tag that is not known is a fault, as is one for another form.
  if tag == coreTag "str" then .ok (.str text)
  else if tag == coreTag "null" then .ok .null
  else if tag == coreTag "bool" then .bool <$> booleanOf text
  else if tag == coreTag "int" then .int <$> integerOf text
  else if tag == coreTag "float" then .float <$> numberOf text
  else if tag == coreTag "timestamp" then
    match momentOf? text.toList with
    | some moment => if exists_ moment then .ok .time else .error .noSuchMoment
    | none => .error .unreadableMoment
  else .error .malformed

/-- The entries of a mapping: those merged into it come first, so that its own win. -/
abbrev Merged := List (Value × Value) × List (Value × Value)

mutual

/-- The value of a node. -/
def ofNode : Node → Outcome Value
  | .scalar tag text => ofScalar tag text
  | .list tag items => do
    -- Lists of pairs keep their order, and the pairs are lists of two.
    if tag == coreTag "seq" then return .list (← ofNodes items)
    else if tag == coreTag "omap" || tag == coreTag "pairs" then return .list (← ofPairs items)
    else .error .malformed
  | .mapping tag entries => do
    -- The keys of a set are all that counts of it.
    let (merged, own) ← ofEntries entries
    if tag == coreTag "map" then return .mapping (merged ++ own)
    else if tag == coreTag "set" then return .list ((merged ++ own).map Prod.fst)
    else .error .malformed

/-- The values of nodes. -/
def ofNodes : List Node → Outcome (List Value)
  | [] => return []
  | node :: nodes => return (← ofNode node) :: (← ofNodes nodes)

/-- The values of a list of mappings with one entry each. -/
def ofPairs : List Node → Outcome (List Value)
  | [] => return []
  | .mapping _ [(key, value)] :: nodes =>
    -- The tag of the inner mapping is not looked at.
    return .list [← ofNode key, ← ofNode value] :: (← ofPairs nodes)
  | _ :: _ => .error .malformed

/-- The entries of a mapping. -/
def ofEntries : List (Node × Node) → Outcome Merged
  | [] => return ([], [])
  | (key, value) :: entries => do
    -- What is merged stands in front, wherever the mark stands.
    if key.tag == coreTag "merge" then
      let more ← mergedFrom value
      let (merged, own) ← ofEntries entries
      return (more ++ merged, own)
    else
      -- The mark for a value is an ordinary key here.
      let name ← match key with
        | .scalar tag text => if tag == coreTag "value" then .ok (.str text) else ofNode key
        | _ => ofNode key
      let value ← ofNode value
      let (merged, own) ← ofEntries entries
      if name.isKey then return (merged, (name, value) :: own) else .error .malformed

/-- The entries that a merge brings in: those of a mapping, or of several,
the first of which wins. -/
def mergedFrom : Node → Outcome (List (Value × Value))
  | .mapping _ entries => do
    -- A merge may itself hold merges.
    let (merged, own) ← ofEntries entries
    return merged ++ own
  | .list _ items => mergedFromAll items
  | .scalar _ _ => .error .malformed

/-- The entries of several mappings, the last first. -/
def mergedFromAll : List Node → Outcome (List (Value × Value))
  | [] => return []
  | .mapping _ entries :: nodes => do
    -- Later mappings come first, so that earlier ones win.
    let (merged, own) ← ofEntries entries
    let later ← mergedFromAll nodes
    return later ++ (merged ++ own)
  | _ :: _ => .error .malformed

end

mutual

/-- A value in the form in which settings are read; only entries with text keys are kept. -/
def toJson : Value → Json
  -- Moments become an empty record, which fits no setting.
  | null => .null
  | bool value => .bool value
  | int value => .int value
  | float value => .float value
  | str value => .str value
  | list items => .arr (toJsons items)
  | mapping entries => .obj (toFields entries)
  | time => .obj []

/-- The items of a list in that form. -/
def toJsons : List Value → List Json
  | [] => []
  | item :: items => toJson item :: toJsons items

/-- The entries of a mapping in that form. -/
def toFields : List (Value × Value) → List (String × Json)
  -- An entry whose key is no text names no setting.
  | [] => []
  | (str key, value) :: entries => (key, toJson value) :: toFields entries
  | _ :: entries => toFields entries

end

end Value

/-- The value of the one document of a text; null when there is none. -/
def load (text : String) : Outcome Value := do
  -- A text without a document is not an empty document, but has the same value.
  match ← documentOf text.toList with
  | some root => Value.ofNode root
  | none => return .null

end SourceAtlas.Yaml
