import SourceAtlas.Pattern.Parser
import SourceAtlas.Text.Ranges
import SourceAtlas.Text.Folding

/-! Searching texts for patterns. -/

namespace SourceAtlas.Pattern

/-- A place in a text: how many characters are before it, those characters with the nearest
first, and those after it. -/
structure Place where
  index : Nat
  before : List Char
  after : List Char

namespace Place

/-- The place in front of a text. -/
def start (text : List Char) : Place :=
  -- Nothing stands in front.
  ⟨0, [], text⟩

/-- The place one character on. -/
def next (place : Place) : Place :=
  -- At the end the place stays.
  match place.after with
  | [] => place
  | c :: rest => ⟨place.index + 1, c :: place.before, rest⟩

/-- The place some characters back. -/
def back? : Nat → Place → Option Place
  | 0, place => some place
  | count + 1, place =>
    -- There is no place in front of the text.
    match place.before with
    | [] => none
    | c :: rest => back? count ⟨place.index - 1, rest, c :: place.after⟩

end Place

/-- What the groups have matched, the latest first. -/
abbrev Marks := List (Nat × List Char)

/-- The lower case of an ASCII capital. -/
def asciiLower (code : Nat) : Nat :=
  -- Other letters stay as they are.
  if 65 ≤ code && code ≤ 90 then code + 32 else code

/-- The lower case of a code point in the alphabet of the flags. -/
def Flags.lower (flags : Flags) (code : Nat) : Nat :=
  -- The full alphabet is the usual one.
  if flags.ascii then asciiLower code else lowerCode code

/-- Whether a code point has another case in the alphabet of the flags. -/
def Flags.cased (flags : Flags) (code : Nat) : Bool :=
  -- Both cases of a letter count as having another.
  if flags.ascii then (65 ≤ code && code ≤ 90) || (97 ≤ code && code ≤ 122) else hasOtherCase code

/-- The other lower case forms of one, in the alphabet of the flags. -/
def Flags.relatives (flags : Flags) (code : Nat) : List Nat :=
  -- ASCII letters have one lower case form each.
  if flags.ascii then [] else caseRelatives code

/-- Whether a code point belongs to a class. -/
def Category.holds (flags : Flags) (kind : Category) (code : Nat) : Bool :=
  -- In the full alphabet the digits and letters of all scripts count.
  let c := Char.ofNat code
  match kind with
  | .digit => if flags.ascii then c.isDigit else isDecimalDigit c
  | .blank => if flags.ascii then code == 32 || (9 ≤ code && code ≤ 13) else isBlank c
  | .word => if flags.ascii then c.isAlphanum || c == '_' else isWordChar c

/-- Whether a character is one given by its code, as far as case is told apart. -/
def holdsChar (flags : Flags) (wanted code : Nat) : Bool :=
  -- The character of the pattern decides whether case is looked at.
  if flags.ignoreCase && flags.cased wanted then
    let lowered := flags.lower wanted
    let found := flags.lower code
    found == lowered || (flags.relatives lowered).contains found
  else code == wanted

/-- The last code point of the first plane. -/
def planeEnd : Nat := 0xFFFF

/-- Whether a member of a set has another case; what lies beyond the first
plane counts as having one. -/
def SetItem.cased (flags : Flags) : SetItem → Bool
  -- The bound keeps tables small, and is part of the behaviour.
  | char code => code > planeEnd || flags.cased code
  | range low high =>
    high > planeEnd ||
      if flags.ascii then low ≤ 122 && high ≥ 65 && !(low > 90 && high < 97)
      else hasOtherCase low || rankIn twoCaseBounds high > rankIn twoCaseBounds low
  | category _ _ => false

/-- Whether a member of a set holds a code point as it stands. -/
def SetItem.holds (flags : Flags) (code : Nat) : SetItem → Bool
  -- Case is told apart here.
  | char wanted => code == wanted
  | range low high => low ≤ code && code ≤ high
  | category kind negated => kind.holds flags code != negated

/-- The code points that a lower case one may have come from. -/
def Flags.sources (flags : Flags) (lowered : Nat) : List Nat :=
  -- A capital is no lower case, so nothing comes from it.
  if flags.ascii then
    if 97 ≤ lowered && lowered ≤ 122 then [lowered, lowered - 32]
    else if 65 ≤ lowered && lowered ≤ 90 then [] else [lowered]
  else lowerSources lowered

/-- Whether a member of a set holds a code point in lower case, with case not told apart. -/
def SetItem.holdsLower (flags : Flags) (lowered : Nat) : SetItem → Bool
  | char wanted =>
    -- Beyond the first plane a character only holds itself.
    if wanted > planeEnd then lowered == wanted
    else flags.lower wanted == lowered || (flags.relatives (flags.lower wanted)).contains lowered
  | range low high =>
    -- A range holds a character when it holds any of its cases.
    let sources := (lowered :: flags.relatives lowered).flatMap flags.sources
    let inside := fun code => low ≤ code && code ≤ high
    (sources.any fun code => inside code && code ≤ planeEnd) ||
      (high > planeEnd && (inside lowered || (lowerSources lowered).any inside))
  | category kind negated => kind.holds flags lowered != negated

/-- Whether a set holds a code point. -/
def holdsSet (flags : Flags) (negated : Bool) (items : List SetItem) (code : Nat) : Bool :=
  -- One member with a case is enough for the whole set to be asked in lower case.
  let found :=
    if flags.ignoreCase && items.any (SetItem.cased flags) then
      items.any (SetItem.holdsLower flags (flags.lower code))
    else items.any (SetItem.holds flags code)
  found != negated

/-- Whether a place is of a kind; a text without characters has no edges and
no place that is none. -/
def Position.holds (flags : Flags) (place : Place) (position : Position) : Bool :=
  -- The end of a text counts as no word.
  let word := fun (c : Option Char) => c.any fun c => Category.word.holds flags c.toNat
  let empty := place.before.isEmpty && place.after.isEmpty
  match position with
  | .start => place.before.isEmpty || (flags.multiline && place.before.head? == some '\n')
  -- A line end that closes the text may follow.
  | .finish =>
    place.after.isEmpty || place.after == ['\n'] ||
      (flags.multiline && place.after.head? == some '\n')
  | .textStart => place.before.isEmpty
  | .textEnd => place.after.isEmpty
  | .edge => !empty && word place.before.head? != word place.after.head?
  | .noEdge => !empty && word place.before.head? == word place.after.head?

/-- The place after a text that stands here, with case told apart or not. -/
def skipText (flags : Flags) : List Char → Place → Option Place
  | [], place => some place
  | c :: text, place =>
    -- What groups have matched is compared by the simple lower case only.
    match place.after with
    | [] => none
    | d :: _ =>
      let same := if flags.ignoreCase then flags.lower c.toNat == flags.lower d.toNat else c == d
      if same then skipText flags text place.next else none

/-- What is still to be matched after a place. -/
abbrev Rest := Place → Marks → Option (Place × Marks)

mutual

/-- The first way in which parts match at a place so that the rest matches after them. -/
def run : Nat → Flags → List Item → Place → Marks → Rest → Option (Place × Marks)
  | 0, _, _, _, _, _ => none
  | _ + 1, _, [], place, marks, rest => rest place marks
  | fuel + 1, flags, item :: items, place, marks, rest =>
    -- What follows a part is passed on, so that each way to match the part can be tried with it.
    let onward : Rest := fun place marks => run fuel flags items place marks rest
    -- One character is taken where the test holds.
    let one := fun (holds : Nat → Bool) => match place.after with
      | [] => none
      | c :: _ => if holds c.toNat then onward place.next marks else none
    match item with
    | .char code => one (holdsChar flags code)
    | .notChar code => one fun found => !holdsChar flags code found
    | .any => one fun found => flags.dotAll || found != 10
    | .set negated members => one (holdsSet flags negated members)
    | .place position => if position.holds flags place then onward place marks else none
    | .back number =>
      -- A group that has not matched yet matches nothing.
      match marks.lookup number with
      | none => none
      | some text =>
        match skipText flags text place with
        | some after => onward after marks
        | none => none
    | .branch alternatives =>
      -- The alternatives are tried in order.
      alternatives.firstM fun body => run fuel flags body place marks onward
    | .repeated least most mode body =>
      again fuel flags least most mode body 0 none place marks onward
    | .group number on off body =>
      -- The flags of a group end with it.
      run fuel (flags.inside on off) body place marks fun after marks =>
        match number with
        | some number =>
          onward after ((number, (after.before.take (after.index - place.index)).reverse) :: marks)
        | none => onward after marks
    | .atomic body =>
      -- Only the first way counts, whatever follows.
      match run fuel flags body place marks fun after marks => some (after, marks) with
      | some (after, marks) => onward after marks
      | none => none
    | .look behind negated body =>
      -- The inside starts as far back as it is wide, and so ends at the place.
      let found := (place.back? (behind.getD 0)).bind fun start =>
        run fuel flags body start marks fun after marks => some (after, marks)
      match found, negated with
      | some (_, marks), false => onward place marks
      | none, true => onward place marks
      | _, _ => none
    | .conditional number yes no =>
      -- What has matched so far decides, and it is not tried the other way.
      run fuel flags (if (marks.lookup number).isSome then yes else no) place marks onward

/-- The first way in which parts match some more times; a turn that took no text is
not followed by another. -/
def again :
    Nat → Flags → Nat → Option Nat → Mode → List Item → Nat → Option Nat → Place → Marks → Rest →
    Option (Place × Marks)
  | 0, _, _, _, _, _, _, _, _, _, _ => none
  | fuel + 1, flags, least, most, mode, body, count, last, place, marks, rest =>
    let turn := fun (last : Option Nat) (after : Place) (marks : Marks) =>
      again fuel flags least most mode body (count + 1) last after marks rest
    -- The last turn took no text if it started at this place.
    let mayRepeat := last != some place.index && match most with
      | some most => decide (count < most)
      | none => true
    match mode with
    | .possessive =>
      -- Each turn counts as it matched first.
      let once := run fuel flags body place marks fun after marks => some (after, marks)
      if count < least then
        match once with
        | some (after, marks) => turn last after marks
        | none => none
      else if mayRepeat then
        match once with
        | some (after, marks) => turn (some place.index) after marks
        | none => rest place marks
      else rest place marks
    | .greedy =>
      -- More turns are tried before fewer.
      if count < least then run fuel flags body place marks (turn last)
      else
        match if mayRepeat then run fuel flags body place marks (turn (some place.index))
          else none with
        | some found => some found
        | none => rest place marks
    | .lazy =>
      -- Fewer turns are tried before more.
      if count < least then run fuel flags body place marks (turn last)
      else
        match rest place marks with
        | some found => some found
        | none =>
          if mayRepeat then run fuel flags body place marks (turn (some place.index)) else none

end

/-- The steps that a search may nest; far more than any pattern and text need. -/
def searchDepth : Nat := 1000000000

/-- The set that parts start with, if case makes no difference to it. -/
def startSet? (flags : Flags) : List Item → Option (Bool × List SetItem)
  -- Only the first part is looked at, through groups.
  | .group _ on off body :: _ => startSet? (flags.inside on off) body
  | .set negated members :: _ =>
    if flags.ignoreCase && members.any (SetItem.cased flags) then none else some (negated, members)
  | _ => none

/-- Whether a match may start at a place; the alphabet of the whole pattern decides,
whatever a group says. -/
def Expression.mayStart (expression : Expression) (place : Place) : Bool :=
  -- At the end of a text any match may start.
  match startSet? expression.flags expression.items, place.after with
  | some (negated, members), c :: _ =>
    members.any (SetItem.holds expression.flags c.toNat) != negated
  | _, _ => true

/-- Whether a pattern matches at a place. -/
def Expression.matchesAt (expression : Expression) (place : Place) : Bool :=
  -- The start is checked first, as it rules out some matches that would be found.
  expression.mayStart place &&
    (run searchDepth expression.flags expression.items place [] fun after marks =>
      some (after, marks)).isSome

/-- Whether a pattern matches at a place or later. -/
def Expression.findsFrom (expression : Expression) (place : Place) : List Char → Bool
  -- The end of the text is a place too.
  | [] => expression.matchesAt place
  | _ :: rest => expression.matchesAt place || expression.findsFrom place.next rest

/-- Whether a pattern matches somewhere in a text. -/
def Expression.finds (expression : Expression) (text : String) : Bool :=
  -- The characters count the places.
  expression.findsFrom (Place.start text.toList) text.toList

end SourceAtlas.Pattern
