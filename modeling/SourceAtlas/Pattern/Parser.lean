import SourceAtlas.Assoc
import SourceAtlas.Pattern.Syntax
import SourceAtlas.Text.Blank
import SourceAtlas.Text.Quoted
import SourceAtlas.Text.Word

/-! Reading search patterns. -/

namespace SourceAtlas.Pattern

/-- A character of a pattern, one behind a backslash, or a backslash with nothing behind it. -/
inductive Token where
  | plain (c : Char)
  | escape (c : Char)
  | dangling
  deriving DecidableEq

/-- The tokens of a text. -/
def tokensOf : List Char → List Token
  | [] => []
  | '\\' :: c :: rest => .escape c :: tokensOf rest
  | ['\\'] => [.dangling]
  | c :: rest => .plain c :: tokensOf rest

/-- The state of reading. -/
structure Parsing where
  tokens : List Token
  flags : Flags
  /-- The widths of the groups so far, the first group first; an open group has none yet. -/
  widths : List (Option Width) := []
  names : Assoc Nat := []
  /-- The number of groups in front of the look behind that is being read. -/
  behind : Option Nat := none
  /-- The groups that conditions ask for. -/
  asked : List Nat := []

/-- A step of reading. -/
abbrev Parse := StateT Parsing (Except Fault)

namespace Parse

/-- Gives up. -/
def fail {α : Type} : Parse α :=
  -- The reason is not kept, as all callers only need to know that there is one.
  throw .invalid

/-- The next token. -/
def peek : Parse (Option Token) := do
  return (← get).tokens.head?

/-- Goes on with the given tokens; a backslash with nothing behind it is refused as
soon as it comes next. -/
def moveTo (tokens : List Token) : Parse Unit := do
  -- The backslash is refused here, before any rule could pass over it.
  if tokens.head? == some .dangling then fail
  modify fun state => { state with tokens }

/-- Takes the next token. -/
def take : Parse (Option Token) := do
  -- At the end nothing is taken, and the end stays.
  let tokens := (← get).tokens
  moveTo tokens.tail
  return tokens.head?

/-- Takes a plain character, if it is next. -/
def accept (c : Char) : Parse Bool := do
  -- An escaped character is never one of the marks.
  if (← peek) == some (.plain c) then
    let _ ← take
    return true
  else return false

/-- Takes the run of plain characters that satisfy a test, up to a number of them. -/
def takeRun (test : Char → Bool) : Nat → Parse (List Char)
  | 0 => return []
  | count + 1 => do
    -- The run also ends at an escape, whatever it stands for.
    match ← peek with
    | some (.plain c) =>
      if test c then
        let _ ← take
        return c :: (← takeRun test count)
      else return []
    | _ => return []

/-- Takes a name up to a mark that must follow; it may not be empty. -/
def nameUntil (mark : Char) : Parse (List Char) := do
  -- Escapes count as they are written, so that no name with one is valid.
  let tokens := (← get).tokens
  let name := tokens.takeWhile (· != .plain mark)
  let chars := name.flatMap fun token => match token with
    | .plain c => [c]
    | .escape c => ['\\', c]
    | .dangling => []
  -- The mark must be found, and the name in front of it have a token.
  if name.isEmpty || name.length == tokens.length then fail
  moveTo (tokens.drop (name.length + 1))
  return chars

/-- Whether a text may name a group. -/
def isName (name : List Char) : Bool :=
  -- A name starts with no digit, so that it is never taken for a number.
  match name with
  | [] => false
  | c :: _ => name.all isWordChar && !c.isDigit

/-- The number of groups that have been opened, the whole pattern included. -/
def groupCount : Parse Nat := do
  -- Group zero is the whole pattern.
  return (← get).widths.length + 1

/-- Whether a group has been closed. -/
def isClosed (number : Nat) : Parse Bool := do
  -- The groups are counted from one.
  return ((← get).widths[number - 1]?.getD none).isSome && number ≥ 1

/-- Refuses a group that the look behind being read may not refer to. -/
def checkBehind (number : Nat) : Parse Unit := do
  -- Only groups that were closed in front of the look behind have a known width.
  match (← get).behind with
  | some count => if !(← isClosed number) || number ≥ count then fail
  | none => return ()

/-- A reference to a group that must have been closed. -/
def backTo (number : Nat) : Parse Item := do
  -- A group cannot refer to itself, as it is still open.
  if !(← isClosed number) then fail
  checkBehind number
  return .back number

/-- The number that digits stand for in a base. -/
def numeral (base : Nat) (digits : List Char) : Nat :=
  -- Digits of every base are read alike; the callers check the base.
  digits.foldl (fun value c => value * base + (hexValue? c).getD 0) 0

/-- Whether a character is a hexadecimal digit. -/
def isHex (c : Char) : Bool :=
  (hexValue? c).isSome

/-- Whether a character is an octal digit. -/
def isOctal (c : Char) : Bool :=
  '0' ≤ c && c ≤ '7'

/-- The code point of exactly so many hexadecimal digits. -/
def hexCode (count : Nat) : Parse Nat := do
  -- Fewer digits than asked for are a fault, and more are not taken.
  let digits ← takeRun isHex count
  let code := numeral 16 digits
  if digits.length != count || code ≥ 0x110000 then fail
  return code

/-- The letters behind a backslash that stand for control characters. -/
def controlCode? (c : Char) : Option Nat :=
  -- Inside of a set the letter for an edge stands for a control character.
  [('a', 7), ('b', 8), ('f', 12), ('n', 10), ('r', 13), ('t', 9), ('v', 11), ('\\', 92)].lookup c

/-- The letters behind a backslash that stand for classes of characters. -/
def category? (c : Char) : Option SetItem :=
  [('d', .category .digit false), ('D', .category .digit true), ('s', .category .blank false),
    ('S', .category .blank true), ('w', .category .word false),
    ('W', .category .word true)].lookup c

/-- The letters behind a backslash that stand for positions. -/
def position? (c : Char) : Option Position :=
  [('A', .textStart), ('b', .edge), ('B', .noEdge), ('Z', .textEnd)].lookup c

/-- The code point of an escape that needs digits, for the letters that have one. -/
def longEscape? (c : Char) : Option (Parse Nat) :=
  match c with
  | 'x' => some (hexCode 2)
  | 'u' => some (hexCode 4)
  | 'U' => some (hexCode 8)
  | _ => none

/-- An escape inside a set. -/
def setEscape (c : Char) : Parse SetItem := do
  -- The order of the tables only matters for letters that are in several.
  match controlCode? c, category? c, longEscape? c with
  | some code, _, _ => return .char code
  | none, some item, _ => return item
  | none, none, some code => return .char (← code)
  | none, none, none =>
    if isOctal c then
      let code := numeral 8 (c :: (← takeRun isOctal 2))
      if code > 255 then fail else return .char code
    -- Letters and digits without a meaning are kept free for later ones.
    else if c.isDigit || c.isAlpha then fail
    else return .char c.toNat

/-- An escape outside a set: a position, a class, a character, or a reference to a group. -/
def escape (c : Char) : Parse Item := do
  -- Here the letter for an edge stands for the place, which is looked up first.
  match position? c, category? c, controlCode? c, longEscape? c with
  | some position, _, _, _ => return .place position
  | none, some item, _, _ => return .set false [item]
  | none, none, some code, _ => return .char code
  | none, none, none, some code => return .char (← code)
  | none, none, none, none =>
    if c == '0' then return .char (numeral 8 (← takeRun isOctal 2))
    else if c.isDigit then
      let second ← takeRun Char.isDigit 1
      -- Three octal digits are a character, anything else is a group.
      let third ← if isOctal c && second.any isOctal then takeRun isOctal 1 else pure []
      if !third.isEmpty then
        let code := numeral 8 (c :: second ++ third)
        if code > 255 then fail else return .char code
      else
        let number := numeral 10 (c :: second)
        if number < (← groupCount) then backTo number else fail
    else if c.isAlpha then fail
    else return .char c.toNat

/-- One member of a set from its first token. -/
def setMember (token : Token) : Parse SetItem :=
  -- A set may hold marks without a backslash.
  match token with
  | .plain c => return .char c.toNat
  | .escape c => setEscape c
  | .dangling => fail

/-- The members of a set up to its closing bracket, which may not come first. -/
def setItems : Nat → List SetItem → Parse (List SetItem)
  | 0, _ => fail
  | fuel + 1, done => do
    -- A bracket that comes first is a member.
    match ← take with
    | none => fail
    | some token =>
      if token == .plain ']' && !done.isEmpty then return done
      else
        let first ← setMember token
        -- A hyphen in front of the closing bracket is a member, and a class has no range.
        if ← accept '-' then
          match ← take with
          | none => fail
          | some (.plain ']') => return done ++ [first, .char '-'.toNat]
          | some last =>
            match first, ← setMember last with
            | .char low, .char high =>
              if high < low then fail else setItems fuel (done ++ [.range low high])
            | _, _ => fail
        else setItems fuel (done ++ [first])

/-- A set after its opening bracket; one of a single character is that character. -/
def charSet (fuel : Nat) : Parse Item := do
  -- A single character needs no set, which tells parts apart that start alternatives.
  let negated ← accept '^'
  let items := (← setItems fuel []).eraseDups
  match items with
  | [.char code] => return if negated then .notChar code else .char code
  | _ => return .set negated items

/-- The largest number of repetitions that can be asked for. -/
def repeatLimit : Nat := 4294967295

/-- The bounds of a repetition from its first character; a brace that starts none is itself. -/
def bounds? (c : Char) : Parse (Option (Nat × Option Nat)) := do
  -- The short forms are written out as bounds.
  match c with
  | '?' => return some (0, some 1)
  | '*' => return some (0, none)
  | '+' => return some (1, none)
  | _ =>
    let start := (← get).tokens
    if start.head? == some (.plain '\x7d') then return none
    else
      -- A brace that is never closed, or holds anything else, is plain text.
      let low ← takeRun Char.isDigit start.length
      let high ← if ← accept ',' then takeRun Char.isDigit start.length else pure low
      if ← accept '\x7d' then
        let least := numeral 10 low
        -- The number is refused even if the bounds are the wrong way round.
        if least ≥ repeatLimit then throw .tooLarge
        if high.isEmpty then return some (least, none)
        else
          let most := numeral 10 high
          if most ≥ repeatLimit then throw .tooLarge
          if most < least then fail
          return some (least, some most)
      else
        modify fun state => { state with tokens := start }
        return none

/-- The order that a mark behind a repetition asks for. -/
def modeNext : Parse Mode := do
  -- Only one mark may follow.
  if ← accept '?' then return .lazy
  if ← accept '+' then return .possessive
  return .greedy

/-- Repeats the last of the parts read so far. -/
def repeatLast (least : Nat) (most : Option Nat) (done : List Item) : Parse (List Item) := do
  -- A position cannot be repeated, and a repetition only inside of a group.
  let mode ← modeNext
  match done.getLast? with
  | none => fail
  | some (.place _) => fail
  | some (.repeated _ _ _ _) => fail
  | some (.group none [] [] body) => return done.dropLast ++ [.repeated least most mode body]
  | some item => return done.dropLast ++ [.repeated least most mode [item]]

/-- Letters of flags up to one of some marks, and the mark. -/
def flagRun (marks : List Char) : Nat → List Char → Parse (List Char × Char)
  | 0, _ => fail
  | fuel + 1, done => do
    -- The marks end the run only behind a letter.
    match ← take with
    | some (.plain c) =>
      if marks.contains c && !done.isEmpty then return (done, c)
      else if flagLetters.contains c then flagRun marks fuel (done ++ [c])
      else fail
    | _ => fail

/-- Flags after the first character: none when they hold for the whole pattern,
and then they are set. -/
def inlineFlags (fuel : Nat) (c : Char) : Parse (Option (List Char × List Char)) := do
  -- A hyphen in front turns flags off, with none turned on.
  let (on, mark) ← if c == '-' then pure ([], '-') else flagRun [')', '-', ':'] fuel [c]
  -- Bytes are not searched, and only one alphabet may be asked for.
  if on.contains 'L' || (on.contains 'a' && on.contains 'u') then fail
  if mark == ')' then
    modify fun state =>
      { state with flags := on.foldl (fun flags letter => flags.set letter true) state.flags }
    return none
  else
    -- Some flags only make sense for the whole pattern, or cannot be turned off.
    if on.contains 't' then fail
    let (off, _) ← if mark == '-' then flagRun [':'] fuel [] else pure ([], ':')
    if off.any ['a', 'u', 'L', 't'].contains || on.any off.contains then fail
    return some (on, off)

/-- Moves the parts that all alternatives start with in front of them. -/
def sharedStart : Nat → List (List Item) → List Item × List (List Item)
  | 0, alternatives => ([], alternatives)
  | fuel + 1, alternatives =>
    -- An alternative that has ended shares nothing more.
    match alternatives with
    | (item :: _) :: _ =>
      if alternatives.all fun other => other.head?.any item.same then
        let (shared, rest) := sharedStart fuel (alternatives.map List.tail)
        (item :: shared, rest)
      else ([], alternatives)
    | _ => ([], alternatives)

/-- The members of a set that alternatives of one character each make up. -/
def setOf? : List (List Item) → Option (List SetItem)
  | [] => some []
  -- Members of sets are joined, unless a set is negated.
  | [.char code] :: rest => (setOf? rest).map (.char code :: ·)
  | [.set false items] :: rest => (setOf? rest).map (items ++ ·)
  | _ => none

/-- Alternatives as parts: what they share comes first, and single characters become a set. -/
def joinAlternatives (alternatives : List (List Item)) : List Item :=
  -- A single alternative is no choice.
  match alternatives with
  | [only] => only
  | _ =>
    let (shared, rest) := sharedStart (alternatives.headD []).length alternatives
    match setOf? rest with
    | some items => shared ++ [.set false items.eraseDups]
    | none => shared ++ [.branch rest]

/-- Parts with plain groups opened up. -/
def unpack (items : List Item) : List Item :=
  -- Plain groups only serve to repeat several parts at once.
  items.flatMap fun item => match item with
    | .group none [] [] body => body
    | other => [other]

/-- Passes a comment in a verbose pattern. -/
def skipLine : Nat → Parse Unit
  | 0 => return ()
  | fuel + 1 => do
    -- The end of the pattern ends the comment too.
    match ← take with
    | none => return ()
    | some (.plain '\n') => return ()
    | _ => skipLine fuel

/-- Passes a comment in brackets. -/
def skipComment : Nat → Parse Unit
  | 0 => fail
  | fuel + 1 => do
    -- A bracket inside of the comment ends it.
    match ← take with
    | none => fail
    | some (.plain ')') => return ()
    | _ => skipComment fuel

/-- A group that a condition asks for, by name or by number. -/
def askedGroup (name : List Char) : Parse Nat := do
  -- A number may be asked for before the group is there, but a name may not.
  if isName name then
    match (← get).names.get? (String.ofList name) with
    | some number => return number
    | none => fail
  else
    let digits := (match trimBlanks name with
      | '+' :: rest => rest
      | rest => rest)
    let number := numeral 10 digits
    if digits.isEmpty || !digits.all Char.isDigit || number == 0 || number ≥ Nat.pow 2 30 then fail
    modify fun state => { state with asked := number :: state.asked }
    return number

/-- Opens a group, with a name that may be given only once. -/
def openGroup (name : Option (List Char)) : Parse Nat := do
  -- The group counts as open until its width is known.
  let number ← groupCount
  modify fun state => { state with widths := state.widths ++ [none] }
  match name with
  | some name =>
    let name := String.ofList name
    if (← get).names.has name then fail
    modify fun state => { state with names := state.names.put name number }
  | none => pure ()
  return number

/-- The width of parts as far as groups have been closed. -/
def widthNow (items : List Item) : Parse Width := do
  -- A group that is still open counts as empty.
  let widths := (← get).widths
  return widthOf (fun number => (widths[number - 1]?.getD none).getD ⟨0, 0⟩) items

/-- Closes a group. -/
def closeGroup (number : Nat) (body : List Item) : Parse Unit := do
  -- From now on the group can be referred to.
  let width ← widthNow body
  modify fun state => { state with widths := state.widths.set (number - 1) (some width) }

mutual

/-- Alternatives. -/
def alternatives (verbose top : Bool) : Nat → List (List Item) → Parse (List Item)
  | 0, _ => fail
  | fuel + 1, done => do
    -- Flags for the whole pattern may only stand in the first alternative.
    let items ← sequence verbose (top && done.isEmpty) fuel []
    if ← accept '|' then
      let whole := (← get).flags.verbose
      alternatives (if top then whole else verbose) top fuel (done ++ [items])
    else return joinAlternatives (done ++ [items])

/-- Parts in sequence; flags for the whole pattern may only stand at its very start. -/
def sequence (verbose first : Bool) : Nat → List Item → Parse (List Item)
  | 0, _ => fail
  | fuel + 1, done => do
    -- The caller sees what ended the sequence.
    match ← peek with
    | none => return unpack done
    | some (.plain '|') => return unpack done
    | some (.plain ')') => return unpack done
    | some token =>
      let _ ← take
      match token with
      | .dangling => fail
      | .escape c => sequence verbose first fuel (done ++ [← escape c])
      | .plain c =>
        -- Blanks and comments are passed over where the pattern is verbose.
        if verbose && (c == ' ' || c == '\t' || c == '\n' || c == '\r' || c == '\x0b' ||
          c == '\x0c') then
          sequence verbose first fuel done
        else if verbose && c == '#' then
          skipLine fuel
          sequence verbose first fuel done
        else if c == '[' then sequence verbose first fuel (done ++ [← charSet fuel])
        else if c == '?' || c == '*' || c == '+' || c == '\x7b' then
          match ← bounds? c with
          | some (least, most) => sequence verbose first fuel (← repeatLast least most done)
          | none => sequence verbose first fuel (done ++ [.char c.toNat])
        else if c == '.' then sequence verbose first fuel (done ++ [.any])
        else if c == '^' then sequence verbose first fuel (done ++ [.place .start])
        else if c == '$' then sequence verbose first fuel (done ++ [.place .finish])
        else if c == '(' then
          let added ← bracketed verbose (first && done.isEmpty) fuel
          -- Flags for the whole pattern may have changed what counts as blank.
          let whole := (← get).flags.verbose
          let changed := added.isEmpty && first && done.isEmpty
          sequence (if changed then whole else verbose) first fuel (done ++ added)
        else sequence verbose first fuel (done ++ [.char c.toNat])

/-- What a bracket opens: a group, a look around, a condition, a comment, flags. -/
def bracketed (verbose atStart : Bool) : Nat → Parse (List Item)
  | 0 => fail
  | fuel + 1 => do
    -- A bracket without a mark opens a group.
    if ← accept '?' then
      match ← take with
      | some (.plain 'P') =>
        if ← accept '<' then
          let name ← nameUntil '>'
          if !isName name then fail
          return [← captured verbose (some name) fuel]
        else if ← accept '=' then
          let name ← nameUntil ')'
          if !isName name then fail
          match (← get).names.get? (String.ofList name) with
          | some number => return [← backTo number]
          | none => fail
        else fail
      | some (.plain ':') => return [.group none [] [] (← inner verbose fuel)]
      | some (.plain '>') => return [.atomic (← inner verbose fuel)]
      | some (.plain '#') =>
        skipComment fuel
        return []
      | some (.plain '=') => return [.look none false (← inner verbose fuel)]
      | some (.plain '!') => return [.look none true (← inner verbose fuel)]
      | some (.plain '<') =>
        match ← take with
        | some (.plain '=') => return [← lookBehind verbose false fuel]
        | some (.plain '!') => return [← lookBehind verbose true fuel]
        | _ => fail
      | some (.plain '(') =>
        let number ← askedGroup (← nameUntil ')')
        checkBehind number
        let yes ← sequence verbose false fuel []
        let no ← if ← accept '|' then sequence verbose false fuel [] else pure []
        if ← accept ')' then return [.conditional number yes no] else fail
      | some (.plain c) =>
        if flagLetters.contains c || c == '-' then
          match ← inlineFlags fuel c with
          -- Flags that hold for the whole pattern are no part of it.
          | none => if atStart then return [] else fail
          | some (on, off) =>
            let inside := (verbose || on.contains 'x') && !off.contains 'x'
            return [.group none on off (← inner inside fuel)]
        else fail
      | _ => fail
    else return [← captured verbose none fuel]

/-- The inside of brackets, up to the closing one. -/
def inner (verbose : Bool) : Nat → Parse (List Item)
  | 0 => fail
  | fuel + 1 => do
    -- The flags of a bracket end with it.
    let items ← alternatives verbose false fuel []
    if ← accept ')' then return items else fail

/-- A group that keeps what it matched. -/
def captured (verbose : Bool) (name : Option (List Char)) : Nat → Parse Item
  | 0 => fail
  | fuel + 1 => do
    -- Groups are numbered by their opening brackets.
    let number ← openGroup name
    let body ← inner verbose fuel
    closeGroup number body
    return .group (some number) [] [] body

/-- A look behind, whose inside must have a fixed width. -/
def lookBehind (verbose negated : Bool) : Nat → Parse Item
  | 0 => fail
  | fuel + 1 => do
    -- An inner look behind may refer to what the outer one may.
    let outer := (← get).behind
    if outer.isNone then
      let count ← groupCount
      modify fun state => { state with behind := some count }
    let body ← inner verbose fuel
    modify fun state => { state with behind := outer }
    let width ← widthNow body
    if width.low != width.high then fail
    return .look (some width.low) negated body

end

/-- Whether something is repeated anywhere in a pattern, looked for to a depth. -/
def repeats : Nat → List Item → Bool
  | 0, _ => false
  -- The depth is that of the brackets, so the fuel of reading is enough.
  | depth + 1, items => items.any fun item => match item with
    | .repeated _ _ _ _ => true
    | .branch alternatives => alternatives.any (repeats depth)
    | .group _ _ _ body => repeats depth body
    | .atomic body => repeats depth body
    | .look _ _ body => repeats depth body
    | .conditional _ yes no => repeats depth yes || repeats depth no
    | _ => false

end Parse

/-- A pattern and the flags for all of it. -/
structure Expression where
  items : List Item
  flags : Flags

/-- Reads a pattern that does not tell case apart. Characters are not known by name, so an escape
that names one is refused. -/
def Expression.parse (text : String) : Except Fault Expression := do
  -- Each token is read by a few nested steps at most, which bounds the fuel.
  let tokens := tokensOf text.toList
  if tokens.head? == some .dangling then throw .invalid
  let fuel := 4 * tokens.length + 8
  let start : Parsing := { tokens, flags := { ignoreCase := true } }
  let (items, state) ← StateT.run (Parse.alternatives false true fuel []) start
  if state.flags.ascii && state.flags.unicode then throw .mixedAlphabets
  if !state.tokens.isEmpty then throw .invalid
  if state.asked.any (· > state.widths.length) then throw .invalid
  if state.flags.template && Parse.repeats fuel items then throw .invalid
  return ⟨items, state.flags⟩

end SourceAtlas.Pattern
