import SourceAtlas.Assoc
import SourceAtlas.Yaml.Token

/-! Documents as trees of tagged nodes. -/

namespace SourceAtlas.Yaml

/-- A node with its tag, in which aliases are replaced by what they stand for. -/
inductive Node where
  | scalar (tag : String) (text : String)
  | list (tag : String) (items : List Node)
  | mapping (tag : String) (entries : List (Node × Node))
  deriving Inhabited

/-- The tags of the format itself. -/
def coreTag (name : String) : String :=
  -- The names behind the start are those of the types.
  "tag:yaml.org,2002:" ++ name

/-- The tag of a node. -/
def Node.tag : Node → String
  | scalar tag _ => tag
  | list tag _ => tag
  | mapping tag _ => tag

/-- Two digits with the first at most five, or one digit, after each colon. -/
def isClockTail : List Char → Bool
  | [] => true
  -- A single digit between two colons is looked for first.
  | ':' :: a :: ':' :: rest => a.isDigit && isClockTail (':' :: rest)
  | [':', a] => a.isDigit
  | ':' :: a :: b :: rest => '0' ≤ a && a ≤ '5' && b.isDigit && isClockTail rest
  | _ => false

/-- Digits and underscores. -/
def isDigitMark (c : Char) : Bool :=
  -- Underscores may stand anywhere behind the first digit.
  c.isDigit || c == '_'

/-- A text without a sign in front. -/
def unsigned (text : List Char) : List Char :=
  -- Only one sign may stand in front.
  match text with
  | '-' :: rest => rest
  | '+' :: rest => rest
  | _ => text

/-- Nothing, or an exponent with a sign. -/
def isExponentTail : List Char → Bool
  | [] => true
  -- The sign is not optional.
  | mark :: sign :: digits =>
    (mark == 'e' || mark == 'E') && (sign == '-' || sign == '+') && !digits.isEmpty &&
      digits.all Char.isDigit
  | _ => false

/-- Whether a plain text is written as a number with a point. -/
def isFloatText (text : List Char) : Bool :=
  -- A number in parts of sixty has its point behind the last part.
  let body := unsigned text
  let tail := body.dropWhile isDigitMark
  let whole := body.takeWhile isDigitMark
  let clock := tail.takeWhile (· != '.')
  match body with
  | '.' :: rest =>
    -- A sign may stand in front of an infinity, but not in front of a bare point.
    ["inf", "Inf", "INF"].contains (String.ofList rest) ||
      (text.head? == some '.' &&
        (["nan", "NaN", "NAN"].contains (String.ofList rest) ||
          (rest.head?.any Char.isDigit && isExponentTail (rest.dropWhile isDigitMark))))
  | _ =>
    whole.head?.any Char.isDigit &&
      match tail with
      | '.' :: rest => isExponentTail (rest.dropWhile isDigitMark)
      | ':' :: _ =>
        isClockTail clock && match tail.dropWhile (· != '.') with
          | '.' :: rest => rest.all isDigitMark
          | _ => false
      | _ => false

/-- Whether a plain text is written as an integer. -/
def isIntText (text : List Char) : Bool :=
  -- A leading zero makes the number octal, so that other digits make it a text.
  match unsigned text with
  | '0' :: 'b' :: rest => !rest.isEmpty && rest.all fun c => c == '0' || c == '1' || c == '_'
  | '0' :: 'x' :: rest => !rest.isEmpty && rest.all fun c => (hexValue? c).isSome || c == '_'
  | '0' :: rest => rest.all fun c => ('0' ≤ c && c ≤ '7') || c == '_'
  | c :: rest => c.isDigit && isClockTail (rest.dropWhile isDigitMark)
  | [] => false

/-- The words for true and false. -/
def booleanWords : List (String × Bool) :=
  [("yes", true), ("no", false), ("true", true), ("false", false), ("on", true), ("off", false)]

/-- Whether a plain text is a boolean: a word in lower case, in upper case, or with one capital. -/
def isBooleanText (text : List Char) : Bool :=
  -- Mixed cases are no booleans.
  booleanWords.any fun (word, _) =>
    let word := word.toList
    text == word || text == word.map Char.toUpper ||
      text == (word.take 1).map Char.toUpper ++ word.drop 1

/-- Whether a plain text is null. -/
def isNullText (text : List Char) : Bool :=
  -- The empty text is null too.
  ["~", "null", "Null", "NULL", ""].contains (String.ofList text)

/-- One or two digits in front, and what follows. -/
def shortNumber? (text : List Char) : Option (Nat × List Char) :=
  -- Two digits are taken where there are two.
  match text with
  | a :: b :: rest =>
    if a.isDigit && b.isDigit then some ((a.toNat - 48) * 10 + (b.toNat - 48), rest)
    else if a.isDigit then some (a.toNat - 48, b :: rest) else none
  | [a] => if a.isDigit then some (a.toNat - 48, []) else none
  | [] => none

/-- Two digits in front, and what follows. -/
def pairNumber? (text : List Char) : Option (Nat × List Char) :=
  -- Nothing shorter will do.
  match text with
  | a :: b :: rest =>
    if a.isDigit && b.isDigit then some ((a.toNat - 48) * 10 + (b.toNat - 48), rest) else none
  | _ => none

/-- A written moment. -/
structure Moment where
  year : Nat
  month : Nat
  day : Nat
  hour : Nat := 0
  minute : Nat := 0
  second : Nat := 0
  /-- The hours and minutes of the zone. -/
  zone : Nat × Nat := (0, 0)

/-- What follows a character in front of a text. -/
def after? (c : Char) : List Char → Option (List Char)
  | d :: rest => if c == d then some rest else none
  | [] => none

/-- A zone after optional blanks: nothing, a letter, or a signed distance. -/
def zoneOf? (text : List Char) : Option (Nat × Nat) :=
  -- Blanks alone are no zone.
  match text, text.dropWhile fun c => c == ' ' || c == '\t' with
  | [], _ => some (0, 0)
  | _, ['Z'] => some (0, 0)
  | _, sign :: rest =>
    if sign == '-' || sign == '+' then do
      let (hours, rest) ← shortNumber? rest
      match rest with
      | [] => some (hours, 0)
      | ':' :: rest => do
        let (minutes, rest) ← pairNumber? rest
        if rest.isEmpty then some (hours, minutes) else none
      | _ => none
    else none
  | _, [] => none

/-- A day, or a day and a time of day. -/
def momentOf? (text : List Char) : Option Moment := do
  -- The year has four digits.
  let (high, rest) ← pairNumber? text
  let (low, rest) ← pairNumber? rest
  let rest ← after? '-' rest
  let (month, afterMonth) ← shortNumber? rest
  let rest ← after? '-' afterMonth
  let (day, afterDay) ← shortNumber? rest
  let date : Moment := { year := high * 100 + low, month, day }
  -- A date alone is written with two digits each.
  if afterDay.isEmpty then
    if text.length == 10 then some date else none
  else do
    let time ← match afterDay with
      | c :: rest =>
        if c == 'T' || c == 't' then some rest
        else if c == ' ' || c == '\t' then some (rest.dropWhile fun c => c == ' ' || c == '\t')
        else none
      | [] => none
    let (hour, rest) ← shortNumber? time
    let rest ← after? ':' rest
    let (minute, rest) ← pairNumber? rest
    let rest ← after? ':' rest
    let (second, rest) ← pairNumber? rest
    -- Fractions of a second are not kept.
    let rest := match rest with
      | '.' :: rest => rest.dropWhile Char.isDigit
      | _ => rest
    let zone ← zoneOf? rest
    some { date with hour, minute, second, zone }

/-- The tag of a plain text. -/
def plainTag (text : List Char) : String :=
  -- The rules are tried in this order, and a text that fits none is a text.
  if isBooleanText text then coreTag "bool"
  else if isFloatText text then coreTag "float"
  else if isIntText text then coreTag "int"
  else if text == ['<', '<'] then coreTag "merge"
  else if isNullText text then coreTag "null"
  else if (momentOf? text).isSome then coreTag "timestamp"
  else if text == ['='] then coreTag "value"
  else coreTag "str"

/-- The tokens that are left, and the nodes that anchors name. -/
structure Composing where
  tokens : List Token
  anchors : Assoc Node := []

/-- A step of building nodes. -/
abbrev Compose := StateT Composing Outcome

namespace Compose

/-- The next token. -/
def peek : Compose Token := do
  -- Behind the last token there are only ends.
  return (← get).tokens.headD .finish

/-- Passes the next token. -/
def drop : Compose Unit :=
  -- The anchors stay.
  modify fun state => { state with tokens := state.tokens.tail }

/-- Whether the next token is one of some. -/
def isNext (tokens : List Token) : Compose Bool := do
  -- Nothing is passed by looking.
  return tokens.contains (← peek)

/-- Passes a token that must stand here. -/
def expect (token : Token) : Compose Unit := do
  -- Everything else at this place is a fault.
  if (← peek) == token then drop else throw .malformed

/-- What stands for a value that is left out. -/
def emptyNode : Node :=
  -- The node has no text.
  .scalar (coreTag "null") ""

/-- Names a node; a name may be given only once. -/
def record (name : Option String) (node : Node) : Compose Unit :=
  -- The node replaces what was named so before.
  match name with
  | some name => modify fun state => { state with anchors := state.anchors.put name node }
  | none => return ()

/-- The anchor and the tag in front of a node, in either order. -/
def properties (handles : Assoc String) : Compose (Option String × Option String) := do
  -- Each of the two may be left out.
  let anchor : Compose (Option String) := do
    match ← peek with
    | .anchor name => drop; return some name
    | _ => return none
  let tag : Compose (Option String) := do
    match ← peek with
    | .tag none suffix => drop; return some suffix
    | .tag (some handle) suffix =>
      match handles.get? handle with
      | some start => drop; return some (start ++ suffix)
      | none => throw .malformed
    | _ => return none
  match ← anchor with
  | some name => return (some name, ← tag)
  | none =>
    match ← tag with
    | some found => return (← anchor, some found)
    | none => return (none, none)

/-- The tag of a collection that has none of its own. -/
def collectionTag (tag : Option String) (name : String) : String :=
  -- A lone mark asks for the type that the form suggests.
  match tag with
  | some "!" => coreTag name
  | some tag => tag
  | none => coreTag name

mutual

/-- A node; block collections only where they are allowed. -/
def node (handles : Assoc String) (block indentless : Bool) : Nat → Compose Node
  | 0 => throw .malformed
  | fuel + 1 => do
    -- An alias stands for the node as it was named.
    match ← peek with
    | .alias name =>
      drop
      match (← get).anchors.get? name with
      | some node => return node
      | none => throw .malformed
    | _ =>
      let (anchor, tag) ← properties handles
      -- A name may be given only once.
      let known := (← get).anchors
      if anchor.any fun name => known.has name then throw .malformed
      let listTag := collectionTag tag "seq"
      let mappingTag := collectionTag tag "map"
      let finish := fun (node : Node) => do
        record anchor node
        return node
      match ← peek with
      -- Without a tag only plain scalars are read by their form.
      | .scalar plain text =>
        drop
        let tag := match tag with
          | some "!" => plainTag text.toList
          | some tag => tag
          | none => if plain then plainTag text.toList else coreTag "str"
        finish (.scalar tag text)
      | .blockEntry =>
        if indentless then do
          -- The collection is named before its items are read, as they may refer to it.
          record anchor (.list listTag [])
          finish (.list listTag (← looseItems handles fuel))
        else bare tag anchor
      | .flowList =>
        drop
        record anchor (.list listTag [])
        finish (.list listTag (← flowItems handles true fuel))
      | .flowMapping =>
        drop
        record anchor (.mapping mappingTag [])
        finish (.mapping mappingTag (← flowEntries handles true fuel))
      | .blockList =>
        if block then do
          drop
          record anchor (.list listTag [])
          finish (.list listTag (← blockItems handles fuel))
        else bare tag anchor
      | .blockMapping =>
        if block then do
          drop
          record anchor (.mapping mappingTag [])
          finish (.mapping mappingTag (← blockEntries handles fuel))
        else bare tag anchor
      | _ => bare tag anchor

/-- A node of which only an anchor or a tag is written. -/
def bare (tag anchor : Option String) : Compose Node := do
  -- Nothing at all is no node.
  if tag.isNone && anchor.isNone then throw .malformed
  else
    let node := Node.scalar (match tag with
      | some "!" => coreTag "null"
      | some tag => tag
      | none => coreTag "null") ""
    record anchor node
    return node

/-- The items of a block list. -/
def blockItems (handles : Assoc String) : Nat → Compose (List Node)
  | 0 => throw .malformed
  | fuel + 1 => do
    -- An item that is left out is null.
    if ← isNext [.blockEntry] then
      drop
      let item ← if ← isNext [.blockEntry, .blockEnd] then pure emptyNode
        else node handles true false fuel
      return item :: (← blockItems handles fuel)
    else
      expect .blockEnd
      return []

/-- The items of a list that is not indented below its key. -/
def looseItems (handles : Assoc String) : Nat → Compose (List Node)
  | 0 => throw .malformed
  | fuel + 1 => do
    -- The items end where the mapping around them goes on.
    if ← isNext [.blockEntry] then
      drop
      let item ← if ← isNext [.blockEntry, .key, .value, .blockEnd] then pure emptyNode
        else node handles true false fuel
      return item :: (← looseItems handles fuel)
    else return []

/-- The entries of a block mapping; a key or a value may be left out. -/
def blockEntries (handles : Assoc String) : Nat → Compose (List (Node × Node))
  | 0 => throw .malformed
  | fuel + 1 => do
    -- A value without a key is a fault here.
    if ← isNext [.key] then
      drop
      let key ← if ← isNext [.key, .value, .blockEnd] then pure emptyNode
        else node handles true true fuel
      let value ← if ← isNext [.value] then do
          drop
          if ← isNext [.key, .value, .blockEnd] then pure emptyNode else node handles true true fuel
        else pure emptyNode
      return (key, value) :: (← blockEntries handles fuel)
    else
      expect .blockEnd
      return []

/-- The items of a list in brackets; an item may be a single pair. -/
def flowItems (handles : Assoc String) (first : Bool) : Nat → Compose (List Node)
  | 0 => throw .malformed
  | fuel + 1 => do
    -- The bracket may close behind a comma.
    if ← isNext [.flowListEnd] then
      drop
      return []
    else
      if !first then expect .flowEntry
      if ← isNext [.key] then
        drop
        let key ← if ← isNext [.value, .flowEntry, .flowListEnd] then pure emptyNode
          else node handles false false fuel
        let value ← if ← isNext [.value] then do
            drop
            if ← isNext [.flowEntry, .flowListEnd] then pure emptyNode
              else node handles false false fuel
          else pure emptyNode
        return .mapping (coreTag "map") [(key, value)] :: (← flowItems handles false fuel)
      else if ← isNext [.flowListEnd] then
        drop
        return []
      else
        let item ← node handles false false fuel
        return item :: (← flowItems handles false fuel)

/-- The entries of a mapping in braces. -/
def flowEntries (handles : Assoc String) (first : Bool) : Nat → Compose (List (Node × Node))
  | 0 => throw .malformed
  | fuel + 1 => do
    -- The brace may close behind a comma.
    if ← isNext [.flowMappingEnd] then
      drop
      return []
    else
      if !first then expect .flowEntry
      if ← isNext [.key] then
        drop
        let key ← if ← isNext [.value, .flowEntry, .flowMappingEnd] then pure emptyNode
          else node handles false false fuel
        let value ← if ← isNext [.value] then do
            drop
            if ← isNext [.flowEntry, .flowMappingEnd] then pure emptyNode
              else node handles false false fuel
          else pure emptyNode
        return (key, value) :: (← flowEntries handles false fuel)
      else if ← isNext [.flowMappingEnd] then
        drop
        return []
      else
        let key ← node handles false false fuel
        return (key, emptyNode) :: (← flowEntries handles false fuel)

end

/-- The tag handles that are always there. -/
def defaultHandles : Assoc String :=
  [("!", "!"), ("!!", coreTag "")]

/-- The directives in front of a document: the tag handles they give. -/
def directives (versioned : Bool) (handles : Assoc String) : Nat → Compose (Assoc String)
  | 0 => throw .malformed
  | fuel + 1 => do
    -- A version may be given only once, and each handle too.
    match ← peek with
    | .version major =>
      if versioned || major != 1 then throw .malformed
      drop
      directives true handles fuel
    | .tagPrefix handle start =>
      if handles.has handle then throw .malformed
      drop
      directives versioned (handles.put handle start) fuel
    | .otherDirective =>
      drop
      directives versioned handles fuel
    | _ => return handles

/-- Passes the ends of documents. -/
def dropEnds : Nat → Compose Unit
  | 0 => return ()
  | fuel + 1 => do
    -- Several ends in a row count as one.
    if ← isNext [.documentEnd] then
      drop
      dropEnds fuel

/-- The one document of a text, if it has any. -/
def document (fuel : Nat) : Compose (Option Node) := do
  -- A text has at most one document, which its end must follow.
  let root ← match ← peek with
    | .finish => pure none
    | .documentStart | .version _ | .tagPrefix _ _ | .otherDirective => do
      let given ← directives false [] fuel
      expect .documentStart
      let handles :=
        defaultHandles.foldl (fun handles entry => handles.putNew entry.1 entry.2) given
      match ← peek with
      | .documentStart | .version _ | .tagPrefix _ _ | .otherDirective | .documentEnd | .finish =>
        pure (some emptyNode)
      | _ => some <$> node handles true false fuel
    | _ => some <$> node defaultHandles true false fuel
  dropEnds fuel
  expect .finish
  return root

end Compose

/-- The one document of a text, if it has any. -/
def documentOf (text : List Char) : Outcome (Option Node) := do
  -- Each token is read in two nested steps at most, which bounds the fuel.
  let tokens ← tokensOf text
  let (root, _) ← (Compose.document (2 * tokens.length + 2)).run { tokens }
  return root

end SourceAtlas.Yaml
