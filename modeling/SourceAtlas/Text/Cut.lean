/-! Substrings, slices with signed bounds, splitting and joining. -/

namespace SourceAtlas

/-- What follows `start` at the head of a text, if the text starts so. -/
def dropStart? : List Char → List Char → Option (List Char)
  -- The two are compared from the front.
  | [], text => some text
  | _ :: _, [] => none
  | c :: start, d :: text => if c == d then dropStart? start text else none

/-- Whether a text starts with another. -/
def startsWith (start text : List Char) : Bool :=
  -- The empty text starts every text.
  (dropStart? start text).isSome

/-- Whether a text ends with another. -/
def endsWith (tail text : List Char) : Bool :=
  -- The end of a text is the start of the text turned round.
  startsWith tail.reverse text.reverse

/-- Whether `part` occurs in a text; the empty part occurs everywhere. -/
def occursIn (part : List Char) : List Char → Bool
  -- The end of the text is a place too.
  | [] => part.isEmpty
  | c :: rest => startsWith part (c :: rest) || occursIn part rest

/-- Whether one string occurs in another. -/
def hasPart (part text : String) : Bool :=
  -- Strings are searched as lists of characters.
  occursIn part.toList text.toList

/-- The text before and after the first character that satisfies `stop`, if there is one. -/
def cutAt? (stop : Char → Bool) (text : List Char) : Option (List Char × List Char) :=
  -- The character itself belongs to neither side.
  match text.dropWhile (fun c => !stop c) with
  | [] => none
  | _ :: rest => some (text.takeWhile (fun c => !stop c), rest)

/-- The text before the first `mark`; the whole text when it has none. -/
def beforeFirst (mark : Char) (text : List Char) : List Char :=
  -- The mark is not kept.
  text.takeWhile (· != mark)

/-- The stretches of text between the marks, in order; there is one more than there are marks. -/
def splitAtChar (mark : Char) (text : List Char) : List (List Char) :=
  -- From the right, each mark starts a new stretch in front of the others.
  text.foldr
    (fun c parts =>
      if c == mark then [] :: parts
      else match parts with
        | [] => [[c]]
        | part :: others => (c :: part) :: others)
    [[]]

/-- Parts with a separator between each two. -/
def joinWith (separator : String) : List String → String
  -- Nothing is put in front of the first part or behind the last.
  | [] => ""
  | part :: parts => parts.foldl (fun done next => done ++ separator ++ next) part

/-- The text with every `mark` replaced by another character. -/
def replaceChar (mark other : Char) (text : String) : String :=
  -- The length stays the same.
  String.ofList (text.toList.map fun c => if c == mark then other else c)

/-- The number of leading elements that a signed bound keeps: negative bounds count from the end. -/
def boundCount (length : Nat) (bound : Int) : Nat :=
  -- A bound beyond the text keeps all of it, and one before its start nothing.
  if bound < 0 then (length + bound).toNat else min bound.toNat length

/-- The elements before a signed bound. -/
def takeSigned {α : Type} (bound : Int) (items : List α) : List α :=
  -- A negative bound leaves out that many at the end.
  items.take (boundCount items.length bound)

/-- The elements from one signed bound to another. -/
def sliceSigned {α : Type} (start stop : Int) (items : List α) : List α :=
  -- Both bounds are seen from the whole.
  (items.take (boundCount items.length stop)).drop (boundCount items.length start)

/-- The first `count` characters of a string. -/
def takeChars (count : Nat) (text : String) : String :=
  -- A string that is shorter stays whole.
  String.ofList (text.toList.take count)

end SourceAtlas
