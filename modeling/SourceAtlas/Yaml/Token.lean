import SourceAtlas.Yaml.Scalar

/-! The tokens of a YAML text. A key is only known as one when its colon is seen, so
it is marked afterwards. -/

namespace SourceAtlas.Yaml

/-- A token. -/
inductive Token where
  /-- The version of the format; only the major number counts. -/
  | version (major : Nat)
  | tagPrefix (handle start : String)
  | otherDirective
  | documentStart
  | documentEnd
  | blockList
  | blockMapping
  | blockEnd
  | flowList
  | flowListEnd
  | flowMapping
  | flowMappingEnd
  | blockEntry
  | flowEntry
  | key
  | value
  | alias (name : String)
  | anchor (name : String)
  | tag (handle : Option String) (suffix : String)
  | scalar (plain : Bool) (text : String)
  | finish
  deriving DecidableEq

/-- A place where a key may start: how many tokens were before it, whether it must become
a key, and where it is. -/
structure PendingKey where
  tokens : Nat
  required : Bool
  index : Nat
  line : Nat
  column : Nat

/-- The state of reading: one pending key for each level of brackets, the innermost first. -/
structure Lexing where
  spot : Spot
  indent : Int := -1
  indents : List Int := []
  keyAllowed : Bool := true
  pending : List (Option PendingKey) := [none]
  tokens : Array Token := #[]

/-- Whether a character may stand in the name of an anchor or a tag handle. -/
def isNameChar (c : Char) : Bool :=
  -- Names are ASCII.
  c.isAlphanum || c == '-' || c == '_'

/-- The name here and the position after it. -/
def nameHere (spot : Spot) : Outcome (String × Spot) :=
  -- A mark without a name is a fault.
  let name := spot.run isNameChar
  if name.isEmpty then .error .malformed else .ok (String.ofList name, spot.skip name.length)

/-- The decimal number here and the position after it. -/
def numberHere (spot : Spot) : Outcome (Nat × Spot) :=
  -- The sign is not part of a number here.
  let digits := spot.run Char.isDigit
  if digits.isEmpty then .error .malformed
  else .ok (digits.foldl (fun value c => value * 10 + (c.toNat - '0'.toNat)) 0,
    spot.skip digits.length)

/-- A tag handle: a mark, or a name between two marks. -/
def tagHandle (spot : Spot) : Outcome (String × Spot) :=
  -- The first mark stands alone, or opens a named handle.
  if spot.here != some '!' then .error .malformed
  else if spot.ahead 1 == some ' ' then .ok ("!", spot.next)
  else
    let name := spot.next.run isNameChar
    let after := spot.next.skip name.length
    if after.here == some '!' then .ok (String.ofList ('!' :: name ++ ['!']), after.next)
    else .error .malformed

/-- Whether a character may stand in a tag. -/
def isTagChar (c : Char) : Bool :=
  -- Other characters are written as percent escapes.
  c.isAlphanum || "-;/?:@&=+$,_.!~*'()[]".contains c

/-- The bytes of consecutive percent escapes. -/
def percentBytes : Nat → Spot → List UInt8 → Outcome (List UInt8 × Spot)
  | 0, _, _ => .error .malformed
  | fuel + 1, spot, bytes =>
    -- Consecutive escapes make up characters together.
    if spot.here == some '%' then
      match hexNumber? (spot.next.rest.take 2), spot.next.rest.take 2 with
      | some code, [_, _] => percentBytes fuel (spot.skip 3) (bytes ++ [UInt8.ofNat code])
      | _, _ => .error .malformed
    else .ok (bytes, spot)

/-- The text of a tag, with percent escapes read as UTF-8. -/
def tagText : Nat → Spot → List Char → Outcome (String × Spot)
  | 0, _, _ => .error .malformed
  | fuel + 1, spot, text =>
    -- Escapes are decoded once they end, as a character may need several.
    let word := spot.run isTagChar
    let after := spot.skip word.length
    let text := text ++ word
    if after.here == some '%' then do
      let (bytes, next) ← percentBytes (after.rest.length + 1) after []
      match String.fromUTF8? ⟨bytes.toArray⟩ with
      | some decoded => tagText fuel next (text ++ decoded.toList)
      | none => .error .malformed
    else if text.isEmpty then .error .malformed
    else .ok (String.ofList text, after)

/-- A tag: verbatim in angle brackets, a lone mark, or a handle and a suffix. -/
def tagHere (spot : Spot) : Outcome (Token × Spot) := do
  -- The three forms are told apart by the next characters.
  let text := fun (spot : Spot) => tagText (spot.rest.length + 1) spot []
  let (token, after) ← show Outcome (Token × Spot) from
    if spot.ahead 1 == some '<' then do
      let (suffix, after) ← text (spot.skip 2)
      if after.here == some '>' then return (.tag none suffix, after.next) else .error .malformed
    else if endsWord (spot.ahead 1) then return (.tag none "!", spot.next)
    else
      let word := spot.next.rest.takeWhile fun c => !endsField (some c)
      if word.contains '!' then do
        let (handle, after) ← tagHandle spot
        let (suffix, after) ← text after
        return (.tag (some handle) suffix, after)
      else do
        let (suffix, after) ← text spot.next
        return (.tag (some "!") suffix, after)
  -- A tag is a word of its own.
  if endsField after.here then return (token, after) else .error .malformed

/-- A directive after its percent sign. -/
def directiveHere (spot : Spot) : Outcome (Token × Spot) := do
  -- Other directives are passed over up to the end of their line.
  let (name, spot) ← nameHere spot
  if !endsField spot.here then .error .malformed
  else
    let (token, spot) ← show Outcome (Token × Spot) from
      if name == "YAML" then do
        let (major, spot) ← numberHere spot.skipSpaces
        if spot.here != some '.' then .error .malformed
        else
          let (_, spot) ← numberHere spot.next
          if endsField spot.here then return (.version major, spot) else .error .malformed
      else if name == "TAG" then do
        let (handle, spot) ← tagHandle spot.skipSpaces
        if spot.here != some ' ' then .error .malformed
        else
          let start := spot.skipSpaces
          let (text, spot) ← tagText (start.rest.length + 1) start []
          if endsField spot.here then return (.tagPrefix handle text, spot) else .error .malformed
      else return (.otherDirective, spot.skipRun fun c => !isBreak c)
    return (token, ← spot.finishLine)

namespace Lexing

/-- Whether the position is inside brackets. -/
def inFlow (state : Lexing) : Bool :=
  -- The outermost level is not inside brackets.
  state.pending.length > 1

/-- Adds a token. -/
def push (state : Lexing) (token : Token) : Lexing :=
  -- Keys are put in later, by their place.
  { state with tokens := state.tokens.push token }

/-- The pending keys without those that are too far behind; a required one may not be. -/
def dropStale (state : Lexing) : Outcome Lexing :=
  -- A key is a single line of limited length.
  let stale := fun (key : PendingKey) =>
    key.line != state.spot.line || state.spot.index - key.index > 1024
  if state.pending.any fun key => key.any fun key => stale key && key.required then
    .error .malformed
  else .ok { state with pending := state.pending.map fun key => key.filter fun key => !stale key }

/-- Gives up the pending key of this level; a required one may not be given up. -/
def dropPending (state : Lexing) : Outcome Lexing :=
  -- The mark that would have made it a key has not come.
  match state.pending with
  | some key :: others =>
    if key.required then .error .malformed else .ok { state with pending := none :: others }
  | _ => .ok state

/-- Remembers that a key may start here. -/
def markPending (state : Lexing) : Outcome Lexing :=
  -- A key at the indentation of its block must become one, as nothing else may stand there.
  if state.keyAllowed then do
    let state ← state.dropPending
    let key : PendingKey :=
      { tokens := state.tokens.size
        required := !state.inFlow && state.indent == state.spot.column
        index := state.spot.index
        line := state.spot.line
        column := state.spot.column }
    return { state with pending := some key :: state.pending.tail }
  else return state

/-- Closes the block collections that are indented beyond a column. -/
def closeBlocks (column : Int) : Nat → Lexing → Lexing
  | 0, state => state
  | fuel + 1, state =>
    -- The levels in between are closed one by one.
    if state.indent > column then
      closeBlocks column fuel
        ({ state with indent := state.indents.headD (-1), indents := state.indents.tail }.push
          .blockEnd)
    else state

/-- Closes the block collections that the current column leaves. -/
def unwind (state : Lexing) (column : Int) : Lexing :=
  -- Inside brackets indentation does not count.
  if state.inFlow then state else closeBlocks column (state.indents.length + 1) state

/-- Opens a block collection at a column that is deeper than the last. -/
def openBlock (state : Lexing) (column : Int) (token : Token) (place : Nat) : Lexing :=
  -- The token goes in front of the key that turned out to open the block.
  if state.indent < column then
    { state with
      indents := state.indent :: state.indents
      indent := column
      tokens :=
        (state.tokens.toList.take place ++ token :: state.tokens.toList.drop place).toArray }
  else state

/-- Adds a token that takes some characters. -/
def take (state : Lexing) (count : Nat) (token : Token) : Lexing :=
  { state with spot := state.spot.skip count }.push token

/-- Adds a token that has been read up to a position. -/
def takeTo (state : Lexing) (token : Token) (spot : Spot) : Lexing :=
  -- The position comes from the reader of the token.
  { state with spot }.push token

/-- The position at the next token; in block context a new line allows a key. -/
def skipGaps : Nat → Lexing → Lexing
  | 0, state => state
  | fuel + 1, state =>
    -- Comments and empty lines are passed over together.
    let spot := state.spot.skipComment
    if spot.here.any isBreak then
      skipGaps fuel
        { state with spot := spot.lineBreak.2, keyAllowed := state.keyAllowed || !state.inFlow }
    else { state with spot }

/-- Ends all blocks before a document boundary. -/
def boundary (state : Lexing) : Outcome Lexing := do
  -- A boundary stands at the start of a line, and no key does.
  let state ← (state.unwind (-1)).dropPending
  return { state with keyAllowed := false }

/-- Opens brackets. -/
def openFlow (state : Lexing) (token : Token) : Outcome Lexing := do
  -- The bracket itself may start a key.
  let state ← state.markPending
  return { state with pending := none :: state.pending, keyAllowed := true }.take 1 token

/-- Closes brackets. -/
def closeFlow (state : Lexing) (token : Token) : Outcome Lexing := do
  -- A bracket that closes nothing is a fault.
  let state ← state.dropPending
  if state.inFlow then
    return { state with pending := state.pending.tail, keyAllowed := false }.take 1 token
  else .error .malformed

/-- An entry of a block list or the mark of an explicit key. -/
def openEntry (state : Lexing) (opening token : Token) (keyAllowed : Bool) : Outcome Lexing := do
  -- In a block an entry needs a place where a key could stand.
  let state ← show Outcome Lexing from
    if state.inFlow then return state
    else if state.keyAllowed then return state.openBlock state.spot.column opening state.tokens.size
    else .error .malformed
  let state ← { state with keyAllowed }.dropPending
  return state.take 1 token

/-- A colon: it makes the pending key a key, or gives the value of an explicit one. -/
def colon (state : Lexing) : Outcome Lexing :=
  -- A key that was seen on the way is only now known to be one.
  match state.pending with
  | some key :: others =>
    let tokens := state.tokens.toList
    let state := { state with
      pending := none :: others
      tokens := (tokens.take key.tokens ++ Token.key :: tokens.drop key.tokens).toArray
      keyAllowed := false }
    let state := if state.inFlow then state else state.openBlock key.column .blockMapping key.tokens
    .ok (state.take 1 .value)
  | _ => state.openEntry .blockMapping .value (!state.inFlow)

/-- A token that may start a key. -/
def keyStart (state : Lexing) (read : Spot → Outcome (Token × Spot)) : Outcome Lexing := do
  -- The key may start in front of the token, and none may start inside of it.
  let state ← state.markPending
  let (token, spot) ← read state.spot
  return { state with keyAllowed := false }.takeTo token spot

/-- An alias or an anchor. -/
def nameToken (token : String → Token) (spot : Spot) : Outcome (Token × Spot) := do
  -- A name must end where it can be told from what follows.
  let (name, after) ← nameHere spot.next
  let ends := endsWord after.here || after.here.any fun c => "?:,]\x7d%@\x60".contains c
  if ends then return (token name, after) else .error .malformed

/-- A block scalar. -/
def block (state : Lexing) (folded : Bool) : Outcome Lexing := do
  -- Behind a block scalar a new line has begun.
  let state ← { state with keyAllowed := true }.dropPending
  let (text, spot) ← blockText folded state.indent state.spot.next
  return state.takeTo (.scalar false (String.ofList text)) spot

/-- A plain scalar. -/
def plain (state : Lexing) : Outcome Lexing := do
  -- A scalar of several lines ends on another one, where a key may start.
  let state ← state.markPending
  let (text, keyAllowed, spot) :=
    plainText state.inFlow (state.indent + 1) (state.spot.rest.length + 1) state.spot [] [] false
  return { state with keyAllowed }.takeTo (.scalar true (String.ofList text)) spot

/-- Whether a plain scalar may start here. -/
def startsPlain (state : Lexing) (c : Char) : Bool :=
  -- Most marks start no scalar, but some do when a character follows.
  !(endsWord (some c) || "-?:,[]\x7b\x7d#&*!|>'\"%@\x60".contains c) ||
    (!endsWord (state.spot.ahead 1) && (c == '-' || (!state.inFlow && (c == '?' || c == ':'))))

/-- Reads the next token. -/
def step (state : Lexing) : Outcome Lexing := do
  -- Gaps are passed and blocks closed before the next token is looked at.
  let state ← (skipGaps (state.spot.rest.length + 1) state).dropStale
  let state := state.unwind state.spot.column
  let spot := state.spot
  let single := endsWord (spot.ahead 1)
  match spot.here with
  | none => do
    let state ← state.boundary
    return state.push .finish
  | some c =>
    -- Directives and separators only count at the start of a line.
    if c == '%' && spot.column == 0 then do
      let state ← state.boundary
      let (token, after) ← directiveHere spot.next
      return state.takeTo token after
    else if spot.column == 0 && spot.hasMarks '-' then do
      let state ← state.boundary
      return state.take 3 .documentStart
    else if spot.column == 0 && spot.hasMarks '.' then do
      let state ← state.boundary
      return state.take 3 .documentEnd
    else if c == '[' then state.openFlow .flowList
    else if c == '\x7b' then state.openFlow .flowMapping
    else if c == ']' then state.closeFlow .flowListEnd
    else if c == '\x7d' then state.closeFlow .flowMappingEnd
    else if c == ',' then do
      let state ← { state with keyAllowed := true }.dropPending
      return state.take 1 .flowEntry
    -- The marks of blocks need a blank behind them, those inside brackets do not.
    else if c == '-' && single then state.openEntry .blockList .blockEntry true
    else if c == '?' && (state.inFlow || single) then
      state.openEntry .blockMapping .key (!state.inFlow)
    else if c == ':' && (state.inFlow || single) then state.colon
    else if c == '*' then state.keyStart (nameToken .alias)
    else if c == '&' then state.keyStart (nameToken .anchor)
    else if c == '!' then state.keyStart tagHere
    else if c == '|' && !state.inFlow then state.block false
    else if c == '>' && !state.inFlow then state.block true
    else if c == '\'' || c == '"' then
      state.keyStart fun spot => do
        let (text, after) ← quotedText (c == '"') (spot.rest.length + 1) spot.next []
        return (.scalar false (String.ofList text), after)
    else if state.startsPlain c then state.plain
    else .error .malformed

/-- Reads tokens to the end. -/
def run : Nat → Lexing → Outcome (Array Token)
  | 0, _ => .error .malformed
  | fuel + 1, state => do
    -- Each step takes a character or ends the text, which bounds the fuel.
    let state ← state.step
    if state.tokens.back? == some .finish then return state.tokens else run fuel state

end Lexing

/-- Whether a character may stand in a YAML text. -/
def isAllowed (c : Char) : Bool :=
  -- Most control characters are refused.
  let code := c.toNat
  c == '\t' || c == '\n' || c == '\r' || (0x20 ≤ code && code ≤ 0x7E) || code == 0x85 ||
    (0xA0 ≤ code && code ≤ 0xFFFD) || 0x10000 ≤ code

/-- The tokens of a text; a byte order mark in front is passed over. -/
def tokensOf (text : List Char) : Outcome (List Token) := do
  -- The steps beyond the length are for the end of the text.
  if text.all isAllowed then
    let spot : Spot := { rest := text }
    let spot := if spot.here == some '\ufeff' then spot.next else spot
    let tokens ← Lexing.run (text.length + 2) { spot }
    return tokens.toList
  else .error .malformed

end SourceAtlas.Yaml
