import SourceAtlas.Json.Value
import SourceAtlas.Number.Decimal
import SourceAtlas.Text.Cut
import SourceAtlas.Text.Quoted

/-! Values as running text: texts stand as they are, and quoted inside arrays and objects. -/

namespace SourceAtlas.Json

mutual

/-- A value as it stands inside an array or an object. -/
def inner : Json → String
  | null => "None"
  | bool true => "True"
  | bool false => "False"
  | int value => toString value
  | float value => value.display
  | str value => quoted value
  | torn shown => quoted shown
  -- Items and fields are separated by a comma and a blank, on one line.
  | arr items => "[" ++ joinWith ", " (innerItems items) ++ "]"
  | obj fields => "\x7b" ++ joinWith ", " (innerFields fields) ++ "\x7d"

/-- The items of an array. -/
def innerItems : List Json → List String
  | [] => []
  | item :: items => inner item :: innerItems items

/-- The fields of an object. -/
def innerFields : List (String × Json) → List String
  | [] => []
  | (key, value) :: fields => (quoted key ++ ": " ++ inner value) :: innerFields fields

end

/-- A value as running text. -/
def display : Json → String
  -- Only on the outside does a text stand without quotes.
  | str value => value
  | torn shown => shown
  | value => inner value

end SourceAtlas.Json
