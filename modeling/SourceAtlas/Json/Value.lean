import SourceAtlas.Assoc
import SourceAtlas.Number.Numeral

/-! JSON values: integers and doubles are told apart, and objects keep the order of their fields.
Not every value can be written, and not every value that is written can be read again. -/

namespace SourceAtlas

/-- A JSON value. -/
inductive Json where
  | null
  | bool (value : Bool)
  | int (value : Int)
  | float (value : Binary64)
  | str (value : String)
  /-- A text with half a surrogate pair in it, which no string can hold; the replacement character
  is shown in the place of the half. -/
  | torn (shown : String)
  | arr (items : List Json)
  | obj (fields : List (String × Json))
  deriving Inhabited

namespace Json

/-- Whether a value counts as present: null, false, zero and whatever is empty do not. -/
def truthy : Json → Bool
  | null => false
  | bool value => value
  | int value => value != 0
  -- What is no number counts as present, and both zeros do not.
  | float value => value.isNaN || value.magnitudeBits != 0
  | str value => value != ""
  -- It has at least the half in it.
  | torn _ => true
  | arr items => !items.isEmpty
  | obj fields => !fields.isEmpty

/-- The field of an object. -/
def field? : Json → String → Option Json
  | obj fields, key => Assoc.get? fields key
  | _, _ => none

/-- The field of an object, or null. -/
def fieldOrNull (value : Json) (key : String) : Json :=
  (value.field? key).getD null

/-- Texts as an array. -/
def strings (texts : List String) : Json :=
  arr (texts.map str)

/-- A text, or null. -/
def ofText? : Option String → Json
  | none => null
  | some text => str text

mutual

/-- Whether a test holds of every value inside that is neither an array nor an object. -/
def everyLeaf (test : Json → Bool) : Json → Bool
  -- Arrays and objects have no leaf of their own.
  | arr items => everyLeafOfItems test items
  | obj fields => everyLeafOfFields test fields
  | leaf => test leaf

/-- Whether a test holds of every leaf of every item. -/
def everyLeafOfItems (test : Json → Bool) : List Json → Bool
  | [] => true
  | item :: items => everyLeaf test item && everyLeafOfItems test items

/-- Whether a test holds of every leaf of every field. -/
def everyLeafOfFields (test : Json → Bool) : List (String × Json) → Bool
  | [] => true
  | (_, value) :: fields => everyLeaf test value && everyLeafOfFields test fields

end

/-- Whether a value is a double. -/
def isDouble : Json → Bool
  | float _ => true
  | _ => false

/-- Whether a value is a torn text. -/
def isTorn : Json → Bool
  | torn _ => true
  | _ => false

/-- Whether a value is no integer with more digits than can be read. -/
def isShort : Json → Bool
  | int number => hasFewDigits number
  | _ => true

/-- Whether a value holds no double at any depth. -/
def floatFree (value : Json) : Bool :=
  value.everyLeaf fun leaf => !leaf.isDouble

/-- Whether no text in a value is torn. -/
def isWhole (value : Json) : Bool :=
  value.everyLeaf fun leaf => !leaf.isTorn

/-- Whether no integer in a value has more digits than can be read. -/
def fitsDigits (value : Json) : Bool :=
  value.everyLeaf isShort

mutual

/-- A value with its torn texts as they are shown. -/
def mended : Json → Json
  -- Keys with half a pair are already shown so when they are read.
  | torn shown => str shown
  | arr items => arr (mendedItems items)
  | obj fields => obj (mendedFields fields)
  | leaf => leaf

/-- Items with their torn texts as they are shown. -/
def mendedItems : List Json → List Json
  | [] => []
  | item :: items => mended item :: mendedItems items

/-- Fields with their torn texts as they are shown. -/
def mendedFields : List (String × Json) → List (String × Json)
  | [] => []
  | (key, value) :: fields => (key, mended value) :: mendedFields fields

end

mutual

/-- How many values lie inside each other, the innermost one included. -/
def depth : Json → Nat
  -- An empty array is one deep, like any leaf.
  | arr items => depthOfItems items + 1
  | obj fields => depthOfFields fields + 1
  | _ => 1

/-- The depth of the deepest item. -/
def depthOfItems : List Json → Nat
  | [] => 0
  | item :: items => max (depth item) (depthOfItems items)

/-- The depth of the deepest field. -/
def depthOfFields : List (String × Json) → Nat
  | [] => 0
  | (_, value) :: fields => max (depth value) (depthOfFields fields)

end

/-- The depth from which on a value is not written. -/
def depthLimit : Nat := 255

/-- Whether a value can be written: it is not too deep, and no text in it is torn. -/
def isWritable (value : Json) : Bool :=
  -- The depth counts from the value itself, wherever it stands in a file.
  value.depth < depthLimit && value.isWhole

end Json

end SourceAtlas
