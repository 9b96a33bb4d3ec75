import SourceAtlas.Json.Value
import SourceAtlas.Number.Numeral
import SourceAtlas.Text.Cut

/-! Reading typed fields out of JSON: what is accepted, and every fault with the path to it. -/

namespace SourceAtlas

/-- Why a value does not fit a field. -/
inductive FieldFault where
  | missing
  | notText
  | notInteger
  | unreadableInteger
  | oversizedInteger
  | fractional
  | infinite
  | notBoolean
  | unreadableBoolean
  | notNumber
  | unreadableNumber
  | notArray
  | notMapping
  | notRecord
  deriving DecidableEq, Repr

/-- A step into a value: a named field or an item counted from zero. -/
inductive PathStep where
  | field (name : String)
  | item (index : Nat)
  deriving DecidableEq, Repr

/-- A fault and the path to the value that has it. -/
structure FieldError where
  fault : FieldFault
  path : List PathStep
  deriving DecidableEq, Repr

/-- A value that has been read, or all faults in the order of the fields. -/
inductive Checked (α : Type) where
  | good (value : α)
  | bad (errors : List FieldError)

namespace Checked

/-- Applies a function inside; the faults of both sides are kept. -/
def apply {α β : Type} : Checked (α → β) → Checked α → Checked β
  -- Faults on the left come first, so they stand in the order of the fields.
  | good f, good x => good (f x)
  | good _, bad errors => bad errors
  | bad errors, good _ => bad errors
  | bad errors, bad more => bad (errors ++ more)

instance : Applicative Checked where
  -- There is no bind, as later fields are read even where earlier ones fail.
  pure := good
  seq f x := apply f (x ())

/-- The faults seen from outside a step. -/
def under {α : Type} (step : PathStep) : Checked α → Checked α
  -- The path grows in front, from the value outward.
  | good value => good value
  | bad errors => bad (errors.map fun error => { error with path := step :: error.path })

/-- A single fault at the value itself. -/
def fault {α : Type} (fault : FieldFault) : Checked α :=
  -- The steps to the value are added by its readers.
  bad [⟨fault, []⟩]

/-- The value, or its faults as an error. -/
def toExcept {α : Type} : Checked α → Except (List FieldError) α
  -- Both forms carry the same.
  | good value => .ok value
  | bad errors => .error errors

/-- The value, if there is one. -/
def value? {α : Type} : Checked α → Option α
  | good value => some value
  | bad _ => none

end Checked

/-- A rule by which a value is read. -/
abbrev FieldReader (α : Type) := Json → Checked α

namespace FieldReader

/-- Texts stand for themselves, unless they are torn. -/
def text : FieldReader String
  -- Numbers and booleans are no texts, unlike the other way round.
  | .str value => .good value
  | _ => .fault .notText

/-- The integer that a text holds: margins around it, a sign, single underscores between
digits, a tail of zeros. -/
def integerInText? (text : List Char) : Option Int :=
  -- The sign stands behind the margins, and the underscores between digits only.
  let (negative, rest) := splitSign (trimBy isNumeralMargin text)
  let whole := rest.takeWhile (· != '.')
  let tail := rest.dropWhile (· != '.')
  match dropUnderscores? none whole with
  | some digits =>
    -- The tail is a point and zeros, of which there is at least one.
    if digits.isEmpty || !digits.all Char.isDigit ||
      !(tail.isEmpty || (tail.length ≥ 2 && tail.tail.all (· == '0'))) then
      none
    else some (if negative then -(digitsValue digits : Int) else digitsValue digits)
  | none => none

/-- Integers, booleans as zero and one, doubles without a fraction, and
texts that hold an integer. -/
def integer : FieldReader Int
  -- A torn text is a text that holds no integer.
  | .int value => .good value
  | .bool value => .good (if value then 1 else 0)
  | .float value =>
    if !value.isFinite then .fault .infinite
    else if value.isWhole then .good value.truncate
    else .fault .fractional
  | .str value =>
    match integerInText? value.toList with
    | some value => if hasFewDigits value then .good value else .fault .oversizedInteger
    | none => .fault .unreadableInteger
  | .torn _ => .fault .unreadableInteger
  | _ => .fault .notInteger

/-- The words for true. -/
def trueWords : List String := ["1", "on", "t", "true", "y", "yes"]

/-- The words for false. -/
def falseWords : List String := ["0", "off", "f", "false", "n", "no"]

/-- The boolean that a number stands for. -/
def booleanOfInteger : FieldReader Bool
  -- Other numbers than zero and one are no booleans.
  | .int 0 => .good false
  | .int 1 => .good true
  | _ => .fault .unreadableBoolean

/-- Booleans, zero and one, and the words for true and false in any case. -/
def boolean : FieldReader Bool
  | .bool value => .good value
  | .int value => booleanOfInteger (.int value)
  | .float value =>
    -- A double counts by its value, as far as it has no fraction.
    if value.isFinite && value.isWhole then booleanOfInteger (.int value.truncate)
    else .fault .notBoolean
  | .str value =>
    let word := String.ofList (value.toList.map Char.toLower)
    if trueWords.contains word then .good true
    else if falseWords.contains word then .good false
    else .fault .unreadableBoolean
  | .torn _ => .fault .unreadableBoolean
  | _ => .fault .notBoolean

/-- The text without underscores, none of which may stand at an end or next to another. -/
def dropSeparators? (text : List Char) : Option (List Char) :=
  -- No digits are asked for on either side of an underscore.
  if text.head? == some '_' || text.getLast? == some '_' || occursIn ['_', '_'] text then none
  else some (text.filter (· != '_'))

/-- The number that a text holds: margins around it, or else underscores inside. -/
def numberInside? (text : List Char) : Option Binary64 :=
  -- Where there are margins, underscores are not allowed.
  (readFloat? (trimBy isNumeralMargin text)).or ((dropSeparators? text).bind readFloat?)

/-- Numbers, booleans as zero and one, and texts that hold a number. -/
def number : FieldReader Binary64
  | .float value => .good value
  | .int value =>
    -- An integer beyond all doubles is no number.
    match Binary64.ofInt? value with
    | some value => .good value
    | none => .fault .notNumber
  | .bool value => .good (Binary64.ofQuotient false (if value then 1 else 0) 1)
  | .str value =>
    match numberInside? value.toList with
    | some value => .good value
    | none => .fault .unreadableNumber
  | .torn _ => .fault .unreadableNumber
  | _ => .fault .notNumber

/-- Null, or what another rule reads. -/
def optional {α : Type} (read : FieldReader α) : FieldReader (Option α)
  -- Null is no value of the rule itself.
  | .null => .good none
  | value => some <$> read value

/-- The items that a rule reads, from an index on. -/
def items {α : Type} (read : FieldReader α) : Nat → List Json → Checked (List α)
  | _, [] => .good []
  -- Every item is read, also behind one that has a fault.
  | index, item :: rest =>
    List.cons <$> (read item).under (.item index) <*> items read (index + 1) rest

/-- Arrays of what a rule reads. -/
def array {α : Type} (read : FieldReader α) : FieldReader (List α)
  -- Texts and mappings are no arrays.
  | .arr values => items read 0 values
  | _ => .fault .notArray

/-- The entries that a rule reads. -/
def entries {α : Type} (read : FieldReader α) : List (String × Json) → Checked (Assoc α)
  | [] => .good []
  | (key, value) :: rest =>
    -- The key of the entry is the step to its value.
    (fun value rest => (key, value) :: rest) <$>
      (read value).under (.field key) <*> entries read rest

/-- Mappings to what a rule reads. -/
def mapping {α : Type} (read : FieldReader α) : FieldReader (Assoc α)
  -- The keys are texts already.
  | .obj fields => entries read fields
  | _ => .fault .notMapping

/-- Records: objects whose fields are read by a rule. -/
def record {α : Type} (read : Assoc Json → Checked α) : FieldReader α
  -- Only an object has fields.
  | .obj fields => read fields
  | _ => .fault .notRecord

end FieldReader

/-- A field that must be there. -/
def requiredField {α : Type} (fields : Assoc Json) (name : String) (read : FieldReader α) :
    Checked α :=
  -- The fault of a missing field is at the field, and not at the record.
  match fields.get? name with
  | some value => (read value).under (.field name)
  | none => .bad [⟨.missing, [.field name]⟩]

/-- A field that has a value of its own when it is left out. -/
def defaultField {α : Type} (fields : Assoc Json) (name : String) (read : FieldReader α)
    (default : α) : Checked α :=
  -- Null is a value that is given, and the rule decides about it.
  match fields.get? name with
  | some value => (read value).under (.field name)
  | none => .good default

end SourceAtlas
