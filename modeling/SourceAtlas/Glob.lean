import SourceAtlas.Text.Cut

/-! File name patterns with `*`, `?` and bracketed sets. -/

namespace SourceAtlas

/-- A set of characters given by ranges, or all characters outside them. -/
structure CharRanges where
  negated : Bool
  ranges : List (Char × Char)

namespace CharRanges

/-- Whether a character is in the set. -/
def contains (set : CharRanges) (c : Char) : Bool :=
  -- A negated set has exactly what the ranges leave out.
  set.ranges.any (fun (low, high) => low ≤ c && c ≤ high) != set.negated

/-- Every character. -/
def all : CharRanges := ⟨true, []⟩

/-- One character. -/
def single (c : Char) : CharRanges := ⟨false, [(c, c)]⟩

end CharRanges

/-- A piece of a pattern: any run of characters, or one character of a set. -/
inductive GlobPiece where
  | run
  | one (set : CharRanges)

/-- A pattern for whole names. -/
abbrev Glob := List GlobPiece

namespace Glob

/-- The stretches between hyphens that make ranges: such a hyphen has a character before it and
two hyphens are at least three apart, so that no character ends one range and starts another. -/
def rangeParts (start : List Char) : Nat → List Char → List (List Char)
  | _, [] => [start.reverse]
  -- Too near to the start or to the last such hyphen, a hyphen is a character.
  | wait + 1, c :: rest => rangeParts (c :: start) wait rest
  | 0, c :: rest =>
    -- After a hyphen the next two characters cannot be one.
    if c == '-' then start.reverse :: rangeParts [] 2 rest else rangeParts (c :: start) 0 rest

/-- Gives a hyphen at the very end, which bounds no range, back to the part before it. -/
def keepLastHyphen : List (List Char) → List (List Char)
  | [] => []
  -- The part behind the last hyphen is empty, so the hyphen is a character.
  | [part, []] => [part ++ ['-']]
  | part :: parts => part :: keepLastHyphen parts

/-- The parts of a bracketed text between the hyphens that make ranges. -/
def bracketParts (body : List Char) : List (List Char) :=
  -- Behind a mark of negation the first such hyphen comes one character later.
  keepLastHyphen (rangeParts [] (if body.head? == some '!' then 2 else 1) body)

/-- Drops the ranges that run backwards, with the two characters that bound them. -/
def dropBackward (parts : List (List Char)) : List (List Char) :=
  parts.foldr
    -- It is folded from the end, so that a dropped range joins the parts around it.
    (fun part later =>
      match part.getLast?, later with
      | some low, (high :: more) :: others =>
        if high < low then (part.dropLast ++ more) :: others else part :: later
      | _, _ => part :: later)
    []

/-- Each character as a range of its own. -/
def singles (chars : List Char) : List (Char × Char) :=
  chars.map fun c => (c, c)

/-- The ranges of consecutive parts: the last character of one and the first of
the next bound a range. -/
def partRanges : List (List Char) → List (Char × Char)
  | [] => []
  | [part] => singles part
  | part :: next :: parts =>
    match part.getLast?, next with
    -- What is left of the next part may start another range.
    | some low, high :: more => singles part.dropLast ++ (low, high) :: partRanges (more :: parts)
    -- An empty part bounds no range.
    | _, _ => singles part ++ partRanges (next :: parts)
termination_by parts => parts.length

/-- The set that a bracketed text stands for; an exclamation mark in front negates it. -/
def bracketSet (body : List Char) : CharRanges :=
  match dropBackward (bracketParts body) with
  -- Negation is looked for after ranges have been dropped, which may bring a mark to the front.
  | ('!' :: part) :: parts => ⟨true, partRanges (part :: parts)⟩
  | parts => ⟨false, partRanges parts⟩

/-- The text inside brackets and the text after them, if they are closed; the first
character inside may be `]`. -/
def bracket? (text : List Char) : Option (List Char × List Char) :=
  -- A mark of negation and a first bracket inside are passed over.
  let lead := match text with
    | '!' :: ']' :: _ => 2
    | '!' :: _ => 1
    | ']' :: _ => 1
    | _ => 0
  (cutAt? (· == ']') (text.drop lead)).map fun (body, rest) => (text.take lead ++ body, rest)

/-- The pattern that a text stands for, after `skip` characters are passed over;
consecutive stars count as one. -/
def parseFrom (inRun : Bool) : Nat → List Char → Glob
  | _, [] => []
  | skip + 1, _ :: rest => parseFrom inRun skip rest
  | 0, c :: rest =>
    -- Two stars in a row match no more than one.
    if c == '*' then if inRun then parseFrom true 0 rest else .run :: parseFrom true 0 rest
    else if c == '?' then .one CharRanges.all :: parseFrom false 0 rest
    else if c == '[' then
      match bracket? rest with
      | some (body, after) =>
        -- The inside of the brackets and the closing one are passed over.
        .one (bracketSet body) :: parseFrom false (rest.length - after.length) rest
      -- Brackets that are not closed are characters.
      | none => .one (CharRanges.single '[') :: parseFrom false 0 rest
    else .one (CharRanges.single c) :: parseFrom false 0 rest

/-- The pattern that a text stands for. -/
def parse (text : String) : Glob :=
  parseFrom false 0 text.toList

/-- Whether a pattern matches a whole text. -/
def accepts : Glob → List Char → Bool
  | [], text => text.isEmpty
  -- At the end of the text a run may still be empty.
  | .run :: rest, [] => accepts rest []
  -- A run ends here or goes on by one character.
  | .run :: rest, c :: text => accepts rest (c :: text) || accepts (.run :: rest) text
  | .one _ :: _, [] => false
  | .one set :: rest, c :: text => set.contains c && accepts rest text
termination_by glob text => glob.length + text.length

end Glob

/-- Whether a file name matches one of the patterns. -/
def matchesAny (patterns : List Glob) (name : String) : Bool :=
  patterns.any fun glob => glob.accepts name.toList

end SourceAtlas
