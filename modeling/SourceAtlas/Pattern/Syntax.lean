/-! Search patterns: what they are made of, and how much text they take. -/

namespace SourceAtlas.Pattern

/-- Why a text is no pattern. -/
inductive Fault where
  | invalid
  /-- A repetition is given a number that is too large. -/
  | tooLarge
  /-- Two alphabets are asked for at once. -/
  | mixedAlphabets
  deriving DecidableEq, Repr

/-- How a part of a pattern is read. -/
structure Flags where
  ignoreCase : Bool := false
  multiline : Bool := false
  dotAll : Bool := false
  verbose : Bool := false
  /-- Only ASCII letters, digits and blanks count as such. -/
  ascii : Bool := false
  /-- The full alphabet is asked for in so many words. -/
  unicode : Bool := false
  /-- Repetitions are not allowed. -/
  template : Bool := false

/-- The letters that stand for flags. -/
def flagLetters : List Char := ['i', 'L', 'm', 's', 'x', 'a', 't', 'u']

/-- The flags with one of them set or cleared. -/
def Flags.set (flags : Flags) (letter : Char) (value : Bool) : Flags :=
  -- A letter that is no flag changes nothing.
  match letter with
  | 'i' => { flags with ignoreCase := value }
  | 'm' => { flags with multiline := value }
  | 's' => { flags with dotAll := value }
  | 'x' => { flags with verbose := value }
  | 'a' => { flags with ascii := value }
  | 'u' => { flags with unicode := value }
  | 't' => { flags with template := value }
  | _ => flags

/-- The flags inside a group that turns some on and others off; it has one alphabet. -/
def Flags.inside (flags : Flags) (on off : List Char) : Flags :=
  -- The full alphabet is turned on by turning the other one off.
  let flags := if on.contains 'u' then { flags with ascii := false } else flags
  off.foldl (fun flags letter => flags.set letter false)
    (on.foldl (fun flags letter => flags.set letter true) flags)

/-- A class of characters. -/
inductive Category where
  | digit
  | blank
  | word
  deriving DecidableEq

/-- A member of a set of characters, by code points. -/
inductive SetItem where
  | char (code : Nat)
  | range (low high : Nat)
  | category (kind : Category) (negated : Bool)
  deriving DecidableEq

/-- A place that takes no text. -/
inductive Position where
  | start
  | finish
  | textStart
  | textEnd
  | edge
  | noEdge
  deriving DecidableEq

/-- In which order the counts of a repetition are tried. -/
inductive Mode where
  | greedy
  | lazy
  | possessive
  deriving DecidableEq

/-- A part of a pattern. -/
inductive Item where
  | char (code : Nat)
  | notChar (code : Nat)
  | any
  | set (negated : Bool) (items : List SetItem)
  | place (position : Position)
  | back (group : Nat)
  | branch (alternatives : List (List Item))
  | repeated (least : Nat) (most : Option Nat) (mode : Mode) (body : List Item)
  | group (number : Option Nat) (on off : List Char) (body : List Item)
  | atomic (body : List Item)
  | look (behind : Option Nat) (negated : Bool) (body : List Item)
  | conditional (group : Nat) (yes no : List Item)
  deriving Inhabited

/-- Whether two parts are the same; parts with parts inside are told apart. -/
def Item.same : Item → Item → Bool
  -- Alternatives never share a part with parts inside, even where it is written alike.
  | char a, char b => a == b
  | notChar a, notChar b => a == b
  | any, any => true
  | set a xs, set b ys => a == b && xs == ys
  | place a, place b => a == b
  | back a, back b => a == b
  | _, _ => false

/-- The width beyond which all widths count as one. -/
def widthLimit : Nat := Nat.pow 2 64

/-- The least and the greatest number of characters that a part takes. -/
structure Width where
  low : Nat
  high : Nat

/-- The width of two parts after each other. -/
def Width.add (a b : Width) : Width :=
  -- Sums stop at the limit, so that two unbounded widths are the same.
  ⟨min (a.low + b.low) widthLimit, min (a.high + b.high) widthLimit⟩

mutual

/-- The width of a part, given those of the groups. -/
def Item.width (groups : Nat → Width) : Item → Width
  -- Only what takes text has a width, and what looks around takes none.
  | .char _ => ⟨1, 1⟩
  | .notChar _ => ⟨1, 1⟩
  | .any => ⟨1, 1⟩
  | .set _ _ => ⟨1, 1⟩
  | .place _ => ⟨0, 0⟩
  | .back number => groups number
  | .branch alternatives =>
    match widthsOf groups alternatives with
    | [] => ⟨0, 0⟩
    | first :: rest => rest.foldl (fun a b => ⟨min a.low b.low, max a.high b.high⟩) first
  | .repeated least most _ body =>
    let inner := widthOf groups body
    ⟨inner.low * least, match most with
      -- A repetition without an end of what takes no text takes none either.
      | none => if inner.high == 0 then 0 else widthLimit
      | some most => inner.high * most⟩
  | .group _ _ _ body => widthOf groups body
  | .atomic body => widthOf groups body
  | .look _ _ _ => ⟨0, 0⟩
  | .conditional _ yes no =>
    let first := widthOf groups yes
    let second := widthOf groups no
    ⟨min first.low second.low, max first.high second.high⟩

/-- The width of parts in sequence. -/
def widthOf (groups : Nat → Width) : List Item → Width
  -- The parts follow each other.
  | [] => ⟨0, 0⟩
  | item :: items => (item.width groups).add (widthOf groups items)

/-- The widths of alternatives. -/
def widthsOf (groups : Nat → Width) : List (List Item) → List Width
  | [] => []
  | items :: others => widthOf groups items :: widthsOf groups others

end

end SourceAtlas.Pattern
