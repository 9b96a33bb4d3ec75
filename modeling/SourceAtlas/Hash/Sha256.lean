import SourceAtlas.Text.Quoted

/-! The SHA-256 digest of a text. -/

namespace SourceAtlas.Sha256

/-- The round constants: fractions of the cube roots of the first sixty-four primes. -/
def roundConstants : Array UInt32 :=
  #[0x428a2f98, 0x71374491, 0xb5c0fbcf, 0xe9b5dba5, 0x3956c25b, 0x59f111f1, 0x923f82a4, 0xab1c5ed5,
    0xd807aa98, 0x12835b01, 0x243185be, 0x550c7dc3, 0x72be5d74, 0x80deb1fe, 0x9bdc06a7, 0xc19bf174,
    0xe49b69c1, 0xefbe4786, 0x0fc19dc6, 0x240ca1cc, 0x2de92c6f, 0x4a7484aa, 0x5cb0a9dc, 0x76f988da,
    0x983e5152, 0xa831c66d, 0xb00327c8, 0xbf597fc7, 0xc6e00bf3, 0xd5a79147, 0x06ca6351, 0x14292967,
    0x27b70a85, 0x2e1b2138, 0x4d2c6dfc, 0x53380d13, 0x650a7354, 0x766a0abb, 0x81c2c92e, 0x92722c85,
    0xa2bfe8a1, 0xa81a664b, 0xc24b8b70, 0xc76c51a3, 0xd192e819, 0xd6990624, 0xf40e3585, 0x106aa070,
    0x19a4c116, 0x1e376c08, 0x2748774c, 0x34b0bcb5, 0x391c0cb3, 0x4ed8aa4a, 0x5b9cca4f, 0x682e6ff3,
    0x748f82ee, 0x78a5636f, 0x84c87814, 0x8cc70208, 0x90befffa, 0xa4506ceb, 0xbef9a3f7, 0xc67178f2]

/-- The eight words that are carried from block to block. -/
structure State where
  a : UInt32
  b : UInt32
  c : UInt32
  d : UInt32
  e : UInt32
  f : UInt32
  g : UInt32
  h : UInt32

/-- The words before the first block: fractions of the square roots of the first eight primes. -/
def initial : State :=
  ⟨0x6a09e667, 0xbb67ae85, 0x3c6ef372, 0xa54ff53a, 0x510e527f, 0x9b05688c, 0x1f83d9ab, 0x5be0cd19⟩

/-- A word rotated to the right. -/
def rotate (word count : UInt32) : UInt32 :=
  -- Shifts by more than the width do not occur.
  (word >>> count) ||| (word <<< (32 - count))

/-- The byte at a position, or zero past the end. -/
def byteAt (bytes : ByteArray) (position : Nat) : UInt32 :=
  -- Padded messages are never read past their end.
  if inside : position < bytes.size then (bytes[position]).toUInt32 else 0

/-- The big-endian word at a position. -/
def wordAt (bytes : ByteArray) (position : Nat) : UInt32 :=
  (byteAt bytes position <<< 24) ||| (byteAt bytes (position + 1) <<< 16) |||
    (byteAt bytes (position + 2) <<< 8) ||| byteAt bytes (position + 3)

/-- The next word of a schedule, from those sixteen, fifteen, seven and two places back. -/
def nextWord (words : Array UInt32) : UInt32 :=
  -- A schedule that is being extended has at least sixteen words.
  let back := fun count => words.getD (words.size - count) 0
  let near := back 15
  let far := back 2
  back 16 + (rotate near 7 ^^^ rotate near 18 ^^^ (near >>> 3)) + back 7 +
    (rotate far 17 ^^^ rotate far 19 ^^^ (far >>> 10))

/-- The sixty-four words of a block: its own sixteen and those that follow from them. -/
def schedule (bytes : ByteArray) (start : Nat) : Array UInt32 :=
  -- A block has sixteen words of four bytes.
  let own :=
    Nat.fold 16 (fun i _ (words : Array UInt32) => words.push (wordAt bytes (start + 4 * i)))
      (Array.emptyWithCapacity 64)
  Nat.fold 48 (fun _ _ (words : Array UInt32) => words.push (nextWord words)) own

/-- One round. -/
def round (state : State) (constant word : UInt32) : State :=
  -- Each bit of one word chooses between the bits of two others.
  let choice := (state.e &&& state.f) ^^^ ((~~~ state.e) &&& state.g)
  let majority := (state.a &&& state.b) ^^^ (state.a &&& state.c) ^^^ (state.b &&& state.c)
  let first := state.h + (rotate state.e 6 ^^^ rotate state.e 11 ^^^ rotate state.e 25) + choice +
    constant + word
  -- All words move on by one place, and two of them are mixed.
  let second := (rotate state.a 2 ^^^ rotate state.a 13 ^^^ rotate state.a 22) + majority
  ⟨first + second, state.a, state.b, state.c, state.d + first, state.e, state.f, state.g⟩

/-- Reads one block into the state. -/
def compress (state : State) (bytes : ByteArray) (start : Nat) : State :=
  let words := schedule bytes start
  -- The rounds start from the state before the block.
  let mixed := Nat.fold 64
    (fun i _ mixed => round mixed (roundConstants.getD i 0) (words.getD i 0)) state
  -- The state before the block is added to what the rounds give.
  ⟨state.a + mixed.a, state.b + mixed.b, state.c + mixed.c, state.d + mixed.d,
   state.e + mixed.e, state.f + mixed.f, state.g + mixed.g, state.h + mixed.h⟩

/-- The message followed by a one bit, zeros, and its length in bits, in whole blocks. -/
def pad (message : ByteArray) : ByteArray :=
  -- As many that, with the mark and eight bytes of length, the last block is full.
  let zeros := (119 - message.size % 64) % 64
  let marked := message.push 0x80
  let filled := Nat.fold zeros (fun _ _ (bytes : ByteArray) => bytes.push 0) marked
  let bits := message.size * 8
  -- The length is written with its highest byte first.
  Nat.fold 8 (fun i _ (bytes : ByteArray) => bytes.push (UInt8.ofNat (bits / Nat.pow 256 (7 - i))))
    filled

/-- The final state for a message. -/
def digest (message : ByteArray) : State :=
  let padded := pad message
  Nat.fold (padded.size / 64) (fun i _ state => compress state padded (64 * i)) initial

/-- The digest of a message in hexadecimal. -/
def hexDigest (message : ByteArray) : String :=
  let final := digest message
  String.ofList ([final.a, final.b, final.c, final.d, final.e, final.f, final.g, final.h].flatMap
    fun word => hexDigits 8 word.toNat)

end SourceAtlas.Sha256

namespace SourceAtlas

/-- The fingerprint of a text: the SHA-256 digest of its UTF-8 bytes in hexadecimal. -/
def fingerprint (text : String) : String :=
  Sha256.hexDigest text.toUTF8

end SourceAtlas
