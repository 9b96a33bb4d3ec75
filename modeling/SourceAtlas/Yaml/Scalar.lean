import SourceAtlas.Text.Quoted
import SourceAtlas.Yaml.Spot

/-! The written forms of scalars: plain, quoted, and blocks of lines. -/

namespace SourceAtlas.Yaml

/-- The length of a plain word; inside brackets, more characters end it. -/
def plainLength (flow : Bool) : List Char → Nat
  | [] => 0
  | c :: rest =>
    -- A colon only ends a word in front of a blank, or of a bracket inside brackets.
    let ends := endsWord (some c) ||
      (c == ':' && (endsWord rest.head? ||
        (flow && rest.head?.any fun d => ",[]\x7b\x7d".contains d))) ||
      (flow && ",?[]\x7b\x7d".contains c)
    if ends then 0 else plainLength flow rest + 1

/-- The line ends after a first one, with the spaces between them; none when a
separator follows one. -/
def plainBreaks : Nat → Spot → List Char → Option (List Char) × Spot
  | 0, spot, breaks => (some breaks, spot)
  | fuel + 1, spot, breaks =>
    -- Spaces at the start of a line are no part of the text.
    match spot.here with
    | some c =>
      if c == ' ' then plainBreaks fuel spot.next breaks
      else if isBreak c then
        let (ended, after) := spot.lineBreak
        if after.atSeparator then (none, after) else plainBreaks fuel after (breaks ++ ended)
      else (some breaks, spot)
    | none => (some breaks, spot)

/-- A line end in a value: a single one folds to a space. -/
def foldBreaks (first more : List Char) : List Char :=
  -- Further line ends are kept, and the first one is not.
  if first != ['\n'] then first ++ more else if more.isEmpty then [' '] else more

/-- The gap after a plain word: its text, whether it has a line end, and the position after it. -/
def plainGap (spot : Spot) : List Char × Bool × Spot :=
  -- Spaces in front of a line end are dropped.
  let spaces := spot.run (· == ' ')
  let spot := spot.skipSpaces
  if spot.here.any isBreak then
    let (ended, after) := spot.lineBreak
    if after.atSeparator then ([], true, after)
    else
      match plainBreaks after.rest.length after [] with
      | (some breaks, last) => (foldBreaks ended breaks, true, last)
      | (none, last) => ([], true, last)
  else (spaces, false, spot)

/-- A plain scalar: words with gaps between them; its text, whether it ended with a line,
the position after it. -/
def plainText (flow : Bool) (indent : Int) :
    Nat → Spot → List Char → List Char → Bool → List Char × Bool × Spot
  | 0, spot, text, _, ended => (text, ended, spot)
  | fuel + 1, spot, text, gap, ended =>
    -- The mark of a comment at the start of a word ends the scalar.
    let length := if spot.here == some '#' then 0 else plainLength flow spot.rest
    if length == 0 then (text, ended, spot)
    else
      let text := text ++ gap ++ spot.rest.take length
      let (gap, ended, after) := plainGap (spot.skip length)
      -- Lines of a block must be indented, and those inside brackets need not be.
      if gap.isEmpty || after.here == some '#' || (!flow && (after.column : Int) < indent) then
        (text, ended, after)
      else plainText flow indent fuel after text gap ended

/-- The character that a letter after a backslash stands for. -/
def escapedChar? (c : Char) : Option Char :=
  -- The letters stand for control characters and rare blanks.
  [('0', '\x00'), ('a', '\x07'), ('b', '\x08'), ('t', '\t'), ('\t', '\t'), ('n', '\n'),
    ('v', '\x0b'), ('f', '\x0c'), ('r', '\r'), ('e', '\x1b'), (' ', ' '), ('"', '"'),
    ('\\', '\\'), ('/', '/'), ('N', '\x85'), ('_', '\xa0'), ('L', '\u2028'),
    ('P', '\u2029')].lookup c

/-- The number of hexadecimal digits after a letter that announces a code point. -/
def escapeWidth? (c : Char) : Option Nat :=
  -- The letters differ in the number of digits that follow.
  [('x', 2), ('u', 4), ('U', 8)].lookup c

/-- The value of hexadecimal digits. -/
def hexNumber? (digits : List Char) : Option Nat :=
  -- One character that is no digit spoils the number.
  digits.foldl (fun value c => do return (← value) * 16 + (← hexValue? c)) (some 0)

/-- Line ends inside quotes with the blanks around them; a separator may not follow one. -/
def quotedBreaks : Nat → Spot → List Char → Outcome (List Char × Spot)
  | 0, spot, breaks => .ok (breaks, spot)
  | fuel + 1, spot, breaks =>
    -- A separator would end the document inside of the quotes.
    if spot.atSeparator then .error .malformed
    else
      let spot := spot.skipRun fun c => c == ' ' || c == '\t'
      if spot.here.any isBreak then
        let (ended, after) := spot.lineBreak
        quotedBreaks fuel after (breaks ++ ended)
      else .ok (breaks, spot)

/-- What a backslash inside double quotes stands for. -/
def quotedEscape (spot : Spot) : Outcome (List Char × Spot) :=
  match spot.here with
  | none => .error .malformed
  -- A line end behind a backslash is left out, with the blanks that follow it.
  | some c =>
    match escapedChar? c, escapeWidth? c with
    | some value, _ => .ok ([value], spot.next)
    | none, some width =>
      let digits := spot.next.rest.take width
      match hexNumber? digits with
      | some code =>
        if digits.length < width then .error .malformed
        else if code ≥ 0x110000 then .error (.codePoint code)
        else .ok ([Char.ofNat code], spot.next.skip width)
      | none => .error .malformed
    | none, none =>
      if isBreak c then
        let after := spot.lineBreak.2
        quotedBreaks (after.rest.length + 1) after []
      else .error .malformed

/-- The text of a quoted scalar after its first quote, and the position after its last one. -/
def quotedText (double : Bool) : Nat → Spot → List Char → Outcome (List Char × Spot)
  | 0, _, _ => .error .malformed
  | fuel + 1, spot, text =>
    match spot.here with
    | none => .error .malformed
    | some c =>
      -- Two single quotes stand for one.
      if c == (if double then '"' else '\'') then
        if !double && spot.ahead 1 == some '\'' then
          quotedText double fuel (spot.skip 2) (text ++ [c])
        else .ok (text, spot.next)
      else if double && c == '\\' then do
        let (value, after) ← quotedEscape spot.next
        quotedText double fuel after (text ++ value)
      -- Blanks are kept unless a line ends behind them.
      else if c == ' ' || c == '\t' || isBreak c then
        let blanks := spot.run fun c => c == ' ' || c == '\t'
        let after := spot.skip blanks.length
        if after.here.any isBreak then do
          let (ended, next) := after.lineBreak
          let (breaks, last) ← quotedBreaks (next.rest.length + 1) next []
          quotedText double fuel last (text ++ foldBreaks ended breaks)
        else quotedText double fuel after (text ++ blanks)
      else
        -- A quote of the other kind or a backslash is taken as one character.
        let word := spot.run fun c => !("'\"\\ \t".contains c || isBreak c)
        let length := max word.length 1
        quotedText double fuel (spot.skip length) (text ++ spot.rest.take length)

/-- What a block keeps of the line ends after its text. -/
inductive Chomp where
  | strip
  | clip
  | keep
  deriving DecidableEq

/-- The header of a block: what it keeps at its end, and how far it is
indented, if that is given. -/
def blockHeader (spot : Spot) : Outcome (Chomp × Option Nat × Spot) := do
  -- The two marks of a header may stand in either order.
  let chomp? := fun (spot : Spot) => match spot.here with
    | some '+' => some Chomp.keep
    | some '-' => some Chomp.strip
    | _ => none
  let digit? := fun (spot : Spot) => match spot.here with
    | some c => if c.isDigit then some (c.toNat - '0'.toNat) else none
    | none => none
  let (chomp, depth, spot) := match chomp? spot with
    | some chomp => match digit? spot.next with
      | some depth => (chomp, some depth, spot.skip 2)
      | none => (chomp, none, spot.next)
    | none => match digit? spot with
      | some depth => match chomp? spot.next with
        | some chomp => (chomp, some depth, spot.skip 2)
        | none => (Chomp.clip, some depth, spot.next)
      | none => (Chomp.clip, none, spot)
  -- An indentation of zero would not be one.
  if depth == some 0 || !endsField spot.here then .error .malformed
  else return (chomp, depth, ← spot.finishLine)

/-- The position after spaces up to a column. -/
def skipToColumn (indent : Int) : Nat → Spot → Spot
  | 0, spot => spot
  | fuel + 1, spot =>
    -- Other characters than spaces end the indentation.
    if (spot.column : Int) < indent && spot.here == some ' ' then skipToColumn indent fuel spot.next
    else spot

/-- The empty lines in front of a block, and the greatest column that their spaces reach. -/
def leadingLines : Nat → Spot → List Char → Nat → List Char × Nat × Spot
  | 0, spot, breaks, deepest => (breaks, deepest, spot)
  -- The deepest of the leading spaces decides how far the block is indented.
  | fuel + 1, spot, breaks, deepest =>
    match spot.here with
    | some c =>
      if c == ' ' then leadingLines fuel spot.next breaks (max deepest spot.next.column)
      else if isBreak c then
        let (ended, after) := spot.lineBreak
        leadingLines fuel after (breaks ++ ended) deepest
      else (breaks, deepest, spot)
    | none => (breaks, deepest, spot)

/-- The empty lines between two lines of a block. -/
def innerLines (indent : Int) : Nat → Spot → List Char → List Char × Spot
  | 0, spot, breaks => (breaks, spot)
  | fuel + 1, spot, breaks =>
    -- Lines of spaces count as empty, unless they are indented beyond the block.
    let spot := skipToColumn indent spot.rest.length spot
    if spot.here.any isBreak then
      let (ended, after) := spot.lineBreak
      innerLines indent fuel after (breaks ++ ended)
    else (breaks, spot)

/-- The lines of a block; in a folded one, a line end between two lines that start
with text becomes a space. -/
def blockLines (folded : Bool) (indent : Int) (chomp : Chomp) :
    Nat → Spot → List Char → List Char → List Char → List Char × Spot
  | 0, spot, text, _, _ => (text, spot)
  | fuel + 1, spot, text, ended, breaks =>
    -- What is kept at the end is only known when the last line is.
    let finish := fun (text ended breaks : List Char) (spot : Spot) =>
      match chomp with
      | .strip => (text, spot)
      | .clip => (text ++ ended, spot)
      | .keep => (text ++ ended ++ breaks, spot)
    if (spot.column : Int) == indent && spot.here.isSome then
      let isText := fun (c : Option Char) => !c.any fun c => c == ' ' || c == '\t'
      let content := spot.run fun c => !isBreak c
      let text := text ++ breaks ++ content
      let (ended, after) := (spot.skip content.length).lineBreak
      let (breaks, next) := innerLines indent (after.rest.length + 1) after []
      if (next.column : Int) == indent && next.here.isSome then
        -- Lines that start with a blank are not folded.
        let joint :=
          if folded && ended == ['\n'] && isText spot.here && isText next.here then
            if breaks.isEmpty then [' '] else []
          else ended
        blockLines folded indent chomp fuel next (text ++ joint) ended breaks
      else finish text ended breaks next
    else finish text ended breaks spot

/-- A block scalar after its first mark, inside a collection with some indentation. -/
def blockText (folded : Bool) (outer : Int) (spot : Spot) : Outcome (List Char × Spot) := do
  let (chomp, depth, spot) ← blockHeader spot
  -- A block is indented beyond what it stands in.
  let least := max (outer + 1) 1
  let (indent, breaks, start) := match depth with
    | none =>
      let (breaks, deepest, after) := leadingLines (spot.rest.length + 1) spot [] 0
      (max least (deepest : Int), breaks, after)
    | some depth =>
      let indent := least + depth - 1
      let (breaks, after) := innerLines indent (spot.rest.length + 1) spot []
      (indent, breaks, after)
  return blockLines folded indent chomp (start.rest.length + 1) start [] [] breaks

end SourceAtlas.Yaml
