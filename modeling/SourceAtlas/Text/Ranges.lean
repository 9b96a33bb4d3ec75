/-! Sets of code points as sorted tables of the places where membership changes, and the decimal
digits of every script. -/

namespace SourceAtlas

/-- How many entries of a sorted table are at most `code`, searched for between two positions. -/
def rankBetween (table : Array Nat) (code : Nat) : Nat → Nat → Nat → Nat
  | 0, low, _ => low
  | steps + 1, low, high =>
    -- Each step halves the distance, so as many steps as the size has binary digits are enough.
    if low < high then
      let middle := (low + high) / 2
      if table.getD middle 0 ≤ code then rankBetween table code steps (middle + 1) high
      else rankBetween table code steps low middle
    else low

/-- How many entries of a sorted table are at most `code`. -/
def rankIn (table : Array Nat) (code : Nat) : Nat :=
  -- The size bounds the number of steps.
  rankBetween table code (table.size.log2 + 1) 0 table.size

/-- Membership in the set whose table alternates between first members and first non-members. -/
def inBounds (table : Array Nat) (code : Nat) : Bool :=
  -- An odd rank lies behind a first member.
  rankIn table code % 2 == 1

/-- The zeros of all scripts in ascending order; the other nine digits follow each of them. -/
def digitZeros : Array Nat :=
  #[
    48, 1632, 1776, 1984, 2406, 2534, 2662, 2790, 2918, 3046, 3174, 3302, 3430, 3558, 3664,
    3792, 3872, 4160, 4240, 6112, 6160, 6470, 6608, 6784, 6800, 6992, 7088, 7232, 7248, 42528,
    43216, 43264, 43472, 43504, 43600, 44016, 65296, 66720, 68912, 69734, 69872, 69942, 70096,
    70384, 70736, 70864, 71248, 71360, 71472, 71904, 72016, 72784, 73040, 73120, 92768, 92864,
    93008, 120782, 120792, 120802, 120812, 120822, 123200, 123632, 125264, 130032]

/-- The value of a decimal digit of any script. -/
def digitValue? (c : Char) : Option Nat :=
  -- ASCII is settled without the table.
  if c.toNat < 128 then if c.isDigit then some (c.toNat - '0'.toNat) else none
  else
    -- The last zero at or below the character is the only one whose digits can include it.
    match digitZeros[rankIn digitZeros c.toNat - 1]? with
    | none => none
    | some base => if base ≤ c.toNat ∧ c.toNat < base + 10 then some (c.toNat - base) else none

/-- Whether a character is a decimal digit of some script. -/
def isDecimalDigit (c : Char) : Bool :=
  -- Other characters have no value.
  (digitValue? c).isSome

end SourceAtlas
