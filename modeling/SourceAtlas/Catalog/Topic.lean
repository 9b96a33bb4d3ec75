import SourceAtlas.Catalog.Basic
import SourceAtlas.Text.Blank

/-! Finding symbols by the words of a topic. -/

namespace SourceAtlas

/-- The words of a topic in lower case. -/
def topicWords (topic : String) : List (List Char) :=
  -- Lower case comes first, as it may change what is blank.
  blankWords (lower topic).toList

namespace Symbol

/-- The text in which the words of a topic are looked for. -/
def topicText (symbol : Symbol) : List Char :=
  -- Blanks between the three keep words from matching across them.
  (lower (symbol.name ++ " " ++ symbol.file ++ " " ++ symbol.kind)).toList

/-- How many of some words occur in the text of a symbol, each counted as often as it is given. -/
def topicScore (symbol : Symbol) (words : List (List Char)) : Nat :=
  -- A word is found inside of longer ones too.
  words.countP fun word => occursIn word symbol.topicText

end Symbol

namespace Catalog

/-- The symbols with a word of a topic, most words first; those with equally
many keep their order. -/
def byTopic (catalog : Catalog) (topic : String) : List Symbol :=
  let words := topicWords topic
  let scored := catalog.all.map fun symbol => (symbol.topicScore words, symbol)
  -- The sort is stable.
  ((scored.filter fun (score, _) => score > 0).mergeSort fun a b => a.1 ≥ b.1).map Prod.snd

/-- The symbols of a topic that are of one of some kinds; no kinds stand for all. -/
def candidates (catalog : Catalog) (topic : String) (kinds : List String) : List Symbol :=
  let found := catalog.byTopic topic
  if kinds.isEmpty then found else found.filter fun symbol => kinds.contains symbol.kind

/-- The first symbols of a topic, of some kinds. -/
def relevant (catalog : Catalog) (topic : String) (bound : Int) (kinds : List String) :
    List Symbol :=
  takeSigned bound (catalog.candidates topic kinds)

end Catalog

end SourceAtlas
