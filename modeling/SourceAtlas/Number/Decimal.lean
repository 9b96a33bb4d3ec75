import SourceAtlas.Number.Binary64

/-! The shortest decimal digits of a double, and the layouts in which they are written. -/

namespace SourceAtlas

/-- Decimal digits read as `0.d₁d₂… * 10 ^ point`. -/
structure Decimal where
  digits : List Char
  point : Int

namespace Binary64

/-- Compares `left * 2 ^ q` with `right * 10 ^ k`: whether the former is at most the latter. -/
def binaryLeDecimal (left : Nat) (q : Int) (right : Nat) (k : Int) : Bool :=
  -- Each power goes to the side on which it is whole, so that nothing is rounded.
  left * Nat.pow 2 q.toNat * Nat.pow 10 (-k).toNat ≤
    right * Nat.pow 10 k.toNat * Nat.pow 2 (-q).toNat

/-- Compares `right * 10 ^ k` with `left * 2 ^ q`: whether the former is at most the latter. -/
def decimalLeBinary (right : Nat) (k : Int) (left : Nat) (q : Int) : Bool :=
  -- The same products as above, the other way round.
  right * Nat.pow 10 k.toNat * Nat.pow 2 (-q).toNat ≤
    left * Nat.pow 2 q.toNat * Nat.pow 10 (-k).toNat

/-- The reals that round to a positive double, in quarter steps of its unit; the ends
belong to it iff `closed`. -/
structure RoundingInterval where
  low : Nat
  middle : Nat
  high : Nat
  unit : Int
  closed : Bool

/-- The interval of the reals that round to a positive finite double. -/
def interval (x : Binary64) : RoundingInterval :=
  let m := x.significand
  -- Below a power of two the neighbour is only half as far away.
  let low := if m = Nat.pow 2 52 ∧ x.exponent ≠ -1074 then 4 * m - 1 else 4 * m - 2
  ⟨low, 4 * m, 4 * m + 2, x.exponent - 2, m % 2 == 0⟩

/-- Whether `d * 10 ^ k` rounds to the double of an interval. -/
def RoundingInterval.holds (i : RoundingInterval) (d : Nat) (k : Int) : Bool :=
  -- The ends round to the double with the even significand.
  if i.closed then binaryLeDecimal i.low i.unit d k && decimalLeBinary d k i.high i.unit
  else !decimalLeBinary d k i.low i.unit && !binaryLeDecimal i.high i.unit d k

/-- The grid point at or below the middle of an interval, in steps of `10 ^ k`. -/
def RoundingInterval.below (i : RoundingInterval) (k : Int) : Nat :=
  -- The division rounds down, and there is no other rounding.
  (i.middle * Nat.pow 2 i.unit.toNat * Nat.pow 10 (-k).toNat) /
    (Nat.pow 10 k.toNat * Nat.pow 2 (-i.unit).toNat)

/-- Whether the middle of an interval is nearer to `d * 10 ^ k` than to the next grid
point, ties to the even one. -/
def RoundingInterval.prefersBelow (i : RoundingInterval) (d : Nat) (k : Int) : Bool :=
  -- Twice the middle is compared with twice the point between the two.
  let above := !decimalLeBinary (2 * d + 1) k (2 * i.middle) i.unit
  let atHalf := decimalLeBinary (2 * d + 1) k (2 * i.middle) i.unit &&
    binaryLeDecimal (2 * i.middle) i.unit (2 * d + 1) k
  above || (atHalf && d % 2 == 0)

/-- The grid point in steps of `10 ^ k` that reads back as the double and is nearest
to it, if there is one. -/
def RoundingInterval.choose? (i : RoundingInterval) (k : Int) : Option Nat :=
  -- The two grid points around the middle are the only ones that can be nearest.
  let d := i.below k
  match i.holds d k, i.holds (d + 1) k with
  | true, true => some (if i.prefersBelow d k then d else d + 1)
  | true, false => some d
  | false, true => some (d + 1)
  | false, false => none

/-- The digits on the coarsest of the grids from `k` downward that has a point for the double; on
the last grid the point below it is taken, which is no zero. -/
def RoundingInterval.search (i : RoundingInterval) : Nat → Int → Nat × Int
  -- Seventeen digits tell all doubles apart, so the last grid is not reached.
  | 0, k => (max 1 (i.below k), k)
  | steps + 1, k =>
    match i.choose? k with
    | some d => (d, k)
    | none => i.search steps (k - 1)

/-- The decimal point of a positive double: the `p` with `10 ^ (p - 1) ≤ x < 10 ^ p`. -/
def pointOf (i : RoundingInterval) : Int :=
  -- The logarithm of two is taken as a fraction that is exact enough for all exponents.
  let guess : Int := Int.fdiv (((i.middle.log2 : Int) + i.unit) * 30103) 100000
  let raise := fun p : Int => if decimalLeBinary 1 p i.middle i.unit then p + 1 else p
  -- The guess is at most one too large and two too small.
  raise (raise (guess - 1))

/-- The shortest digits that read back as a positive finite double, the
nearest of them to its value. -/
def shortest (x : Binary64) : Decimal :=
  -- The points of the first grid have a single digit.
  let i := x.interval
  let point := pointOf i
  let (d, k) := i.search 17 (point - 1)
  let digits := Nat.toDigits 10 d
  -- Zeros at the end are no digits of the shortest form.
  ⟨(digits.reverse.dropWhile (· == '0')).reverse, k + digits.length⟩

end Binary64

/-- How the digits of a finite number are laid out. -/
structure FloatLayout where
  /-- The lowest position of the point that is still written without an exponent. -/
  lowestPoint : Int
  /-- The highest position of the point that is still written without an exponent. -/
  highestPoint : Int
  /-- Whether a positive exponent carries a sign. -/
  plusSign : Bool
  /-- The least number of exponent digits. -/
  exponentWidth : Nat

/-- The exponent part of a number. -/
def FloatLayout.exponentText (layout : FloatLayout) (exponent : Int) : List Char :=
  -- The digits are filled up in front.
  let digits := Nat.toDigits 10 exponent.natAbs
  let padded := List.replicate (layout.exponentWidth - digits.length) '0' ++ digits
  if exponent < 0 then 'e' :: '-' :: padded
  else if layout.plusSign then 'e' :: '+' :: padded
  else 'e' :: padded

/-- The digits of a positive number in a layout; a number without a fraction keeps
one zero after the point. -/
def FloatLayout.place (layout : FloatLayout) (decimal : Decimal) : List Char :=
  -- The point is counted from in front of the first digit.
  let digits := decimal.digits
  let point := decimal.point
  if layout.lowestPoint ≤ point ∧ point ≤ layout.highestPoint then
    if point ≤ 0 then '0' :: '.' :: (List.replicate (-point).toNat '0' ++ digits)
    else if digits.length ≤ point.toNat then
      digits ++ List.replicate (point.toNat - digits.length) '0' ++ ['.', '0']
    else digits.take point.toNat ++ '.' :: digits.drop point.toNat
  else
    match digits with
    -- There is always a first digit, so this case does not occur.
    | [] => ['0']
    | [d] => d :: layout.exponentText (point - 1)
    | d :: rest => d :: '.' :: (rest ++ layout.exponentText (point - 1))

/-- A finite number in a layout. -/
def FloatLayout.finite (layout : FloatLayout) (x : Binary64) : String :=
  -- Zero has no digits of its own.
  let magnitude := if x.magnitudeBits = 0 then ['0', '.', '0'] else layout.place x.shortest
  String.ofList (if x.isNegative then '-' :: magnitude else magnitude)

/-- Numbers in answers and in displayed values: no exponent from 0.0001 up to below 10^16, else one
of two digits or more. -/
def FloatLayout.display : FloatLayout := ⟨-3, 16, true, 2⟩

/-- Numbers in stored files: no exponent from 0.00001 up to below 10^16, else a bare one. -/
def FloatLayout.stored : FloatLayout := ⟨-4, 16, false, 1⟩

/-- The displayed text of a number. -/
def Binary64.display (x : Binary64) : String :=
  -- The words have no layout.
  if x.isNaN then "nan"
  else if x.isInfinite then if x.isNegative then "-inf" else "inf"
  else FloatLayout.display.finite x

end SourceAtlas
