import SourceAtlas.Text.Cut

/-! Bytes as texts: strict UTF-8 with unified line ends, lines, and decoding that never fails, in
which each ill-formed stretch becomes one replacement character. -/

namespace SourceAtlas

/-- One step of line-end reading from the right: whether the text after it starts with a line
feed, and its reading. -/
def unifyStep (c : Char) (state : Bool × List Char) : Bool × List Char :=
  -- A carriage return in front of a line feed is part of the same line end.
  if c == '\r' then (false, if state.1 then state.2 else '\n' :: state.2)
  else (c == '\n', c :: state.2)

/-- A text with each carriage return, alone or before a line feed, read as one line feed. -/
def unifyLineEnds (text : List Char) : List Char :=
  -- Reading from the right, the character behind is already known.
  (text.foldr unifyStep (false, [])).2

/-- The lines of a text; a text that ends in a line feed has an empty last line. -/
def textLines (text : List Char) : List (List Char) :=
  -- No other character ends a line.
  splitAtChar '\n' text

/-- The text of a file's bytes, if they are well-formed UTF-8, with unified line ends. -/
def decodeText? (bytes : ByteArray) : Option String :=
  -- Line ends are unified after decoding, so that they are never part of a character.
  (String.fromUTF8? bytes).map fun text => String.ofList (unifyLineEnds text.toList)

/-- The second bytes allowed after a lead byte, with the number of bytes that follow it; none for a
byte that cannot lead. -/
def utf8Lead? (byte : UInt8) : Option (Nat × UInt8 × UInt8) :=
  -- The ranges leave out long forms, surrogates, and what lies beyond the last code point.
  if 0xC2 ≤ byte ∧ byte ≤ 0xDF then some (1, 0x80, 0xBF)
  else if byte = 0xE0 then some (2, 0xA0, 0xBF)
  else if byte = 0xED then some (2, 0x80, 0x9F)
  else if 0xE1 ≤ byte ∧ byte ≤ 0xEF then some (2, 0x80, 0xBF)
  else if byte = 0xF0 then some (3, 0x90, 0xBF)
  else if 0xF1 ≤ byte ∧ byte ≤ 0xF3 then some (3, 0x80, 0xBF)
  else if byte = 0xF4 then some (3, 0x80, 0x8F)
  else none

/-- A sequence that has been begun: its bits so far, the bytes still due, and the
range of the next one. -/
structure Utf8Pending where
  bits : Nat
  due : Nat
  low : UInt8
  high : UInt8

/-- The state of decoding: the characters so far in reverse, and the sequence that is open. -/
structure Utf8State where
  done : List Char
  pending : Option Utf8Pending

/-- Reads a byte that continues no sequence. -/
def Utf8State.lead (done : List Char) (byte : UInt8) : Utf8State :=
  -- A byte that can neither stand alone nor lead is replaced on its own.
  if byte < 0x80 then ⟨Char.ofNat byte.toNat :: done, none⟩
  else match utf8Lead? byte with
    | none => ⟨'\ufffd' :: done, none⟩
    | some (due, low, high) =>
      -- The lead byte keeps its low bits: five, four or three of them.
      ⟨done, some ⟨byte.toNat % Nat.pow 2 (6 - due), due, low, high⟩⟩

/-- Reads one byte; a byte that breaks a sequence is read again as the start of the next. -/
def Utf8State.step (state : Utf8State) (byte : UInt8) : Utf8State :=
  match state.pending with
  -- A sequence ends when no byte is due any more.
  | none => Utf8State.lead state.done byte
  | some open_ =>
    if open_.low ≤ byte ∧ byte ≤ open_.high then
      let bits := open_.bits * 64 + byte.toNat % 64
      if open_.due ≤ 1 then ⟨Char.ofNat bits :: state.done, none⟩
      else ⟨state.done, some ⟨bits, open_.due - 1, 0x80, 0xBF⟩⟩
    -- What was begun is replaced, and the byte that broke it is not lost.
    else Utf8State.lead ('\ufffd' :: state.done) byte

/-- The text of bytes, with U+FFFD for each maximal stretch that is not well-formed. -/
def decodeReplacing (bytes : List UInt8) : String :=
  -- A sequence that is still open at the end is replaced as well.
  let final := bytes.foldl Utf8State.step ⟨[], none⟩
  let done := match final.pending with
    | none => final.done
    | some _ => '\ufffd' :: final.done
  String.ofList done.reverse

end SourceAtlas
