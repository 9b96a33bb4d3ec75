/-! Double-precision numbers by their bits, with exact conversions in natural-number arithmetic. -/

namespace SourceAtlas

/-- A double-precision number: one sign bit, eleven exponent bits, fifty-two fraction bits. -/
structure Binary64 where
  bits : UInt64
  deriving DecidableEq, Repr, Inhabited

namespace Binary64

/-- The bits of the positive infinity. -/
def infinityBits : Nat := 2047 * Nat.pow 2 52

/-- The sign bit as a number. -/
def signBit : Nat := Nat.pow 2 63

/-- The number with a given sign and given bits below the sign. -/
def ofParts (negative : Bool) (magnitude : Nat) : Binary64 :=
  -- The bits below the sign leave the highest bit free.
  ⟨UInt64.ofNat (if negative then signBit + magnitude else magnitude)⟩

/-- The bits below the sign. -/
def magnitudeBits (x : Binary64) : Nat :=
  x.bits.toNat % signBit

/-- Whether the sign bit is set; this holds of the negative zero too. -/
def isNegative (x : Binary64) : Bool :=
  signBit ≤ x.bits.toNat

/-- Whether the value is no number. -/
def isNaN (x : Binary64) : Bool :=
  infinityBits < x.magnitudeBits

/-- Whether the value is one of the two infinities. -/
def isInfinite (x : Binary64) : Bool :=
  x.magnitudeBits == infinityBits

/-- Whether the value is a finite number. -/
def isFinite (x : Binary64) : Bool :=
  x.magnitudeBits < infinityBits

/-- The positive infinity. -/
def infinity : Binary64 := ofParts false infinityBits

/-- The value that is no number. Any fraction but zero would do; the highest bit is the usual one. -/
def nan : Binary64 := ofParts false (infinityBits + Nat.pow 2 51)

/-- The positive zero. -/
def zero : Binary64 := ofParts false 0

/-- The integer part `m` of a finite magnitude written as `m * 2 ^ q`. -/
def significand (x : Binary64) : Nat :=
  -- Below the smallest normal number the leading one is not implied.
  let exponent := x.magnitudeBits / Nat.pow 2 52
  let fraction := x.magnitudeBits % Nat.pow 2 52
  if exponent = 0 then fraction else Nat.pow 2 52 + fraction

/-- The exponent `q` of a finite magnitude written as `m * 2 ^ q`. -/
def exponent (x : Binary64) : Int :=
  -- The two lowest exponents share one unit, so that the numbers have no gap at zero.
  let biased : Nat := x.magnitudeBits / Nat.pow 2 52
  if biased = 0 then -1074 else Int.ofNat biased - 1075

/-- The quotient rounded to the nearest integer, halves to the even one. -/
def divRoundEven (num den : Nat) : Nat :=
  -- Twice the remainder is compared, so that no half is needed.
  let quotient := num / den
  let rest := 2 * (num % den)
  if rest < den then quotient
  else if rest = den then quotient + quotient % 2
  else quotient + 1

/-- The quotient `num / (den * 2 ^ q)` rounded to the nearest integer, halves to the even one. -/
def scaledRound (num den : Nat) (q : Int) : Nat :=
  -- The power of two goes to the side on which it is whole.
  if 0 ≤ q then divRoundEven num (den * Nat.pow 2 q.toNat)
    else divRoundEven (num * Nat.pow 2 (-q).toNat) den

/-- The largest `e` with `2 ^ e ≤ num / den`, for positive arguments. -/
def floorLog2 (num den : Nat) : Int :=
  -- The lengths of the two numbers settle the result up to one.
  let guess : Int := (num.log2 : Int) - (den.log2 : Int)
  let fits :=
    if 0 ≤ guess then den * Nat.pow 2 guess.toNat ≤ num else den ≤ num * Nat.pow 2 (-guess).toNat
  if fits then guess else guess - 1

/-- The double nearest to `num / den`, with halves to the even neighbour
and overflow to infinity. -/
def ofQuotient (negative : Bool) (num den : Nat) : Binary64 :=
  if num = 0 then ofParts negative 0
  else
    -- Fifty-three significant bits, or fewer where the smallest exponent is reached.
    let q := max (floorLog2 num den - 52) (-1074)
    let significand := scaledRound num den q
    -- A significand that rounds up to the next power of two carries into the exponent by itself.
    let magnitude := (q + 1074).toNat * Nat.pow 2 52 + significand
    ofParts negative (min magnitude infinityBits)

/-- The number of decimal digits of a positive number. -/
def digitCount (n : Nat) : Nat :=
  -- Zero counts as one digit.
  (Nat.toDigits 10 n).length

/-- The double nearest to `digits * 10 ^ power`. -/
def ofDecimal (negative : Bool) (digits : Nat) (power : Int) : Binary64 :=
  if digits = 0 then ofParts negative 0
  else
    -- Powers far outside the range are settled before any large number is built.
    let size : Int := (digitCount digits : Int) + power
    if 400 < size then ofParts negative infinityBits
    else if size < -400 then ofParts negative 0
    else if 0 ≤ power then ofQuotient negative (digits * Nat.pow 10 power.toNat) 1
    else ofQuotient negative digits (Nat.pow 10 (-power).toNat)

/-- The double nearest to an integer, unless it is too large for any. -/
def ofInt? (n : Int) : Option Binary64 :=
  -- The nearest double of an integer that is too large is an infinity.
  let x := ofQuotient (n < 0) n.natAbs 1
  if x.isInfinite then none else some x

/-- The integer part of a finite number, toward zero. -/
def truncate (x : Binary64) : Int :=
  -- A power of two below one is divided away, which drops the fraction.
  let magnitude := if 0 ≤ x.exponent then x.significand * Nat.pow 2 x.exponent.toNat
    else x.significand / Nat.pow 2 (-x.exponent).toNat
  if x.isNegative then -(magnitude : Int) else magnitude

/-- Whether a finite number has no fraction. -/
def isWhole (x : Binary64) : Bool :=
  if 0 ≤ x.exponent then true else x.significand % Nat.pow 2 (-x.exponent).toNat == 0

/-- A finite number as an integer count of the smallest unit `2 ^ -1074`. -/
def units (x : Binary64) : Int :=
  -- The exponent is at least that of the unit, so the power is whole.
  let magnitude := x.significand * Nat.pow 2 (x.exponent + 1074).toNat
  if x.isNegative then -(magnitude : Int) else magnitude

/-- A key that orders all values that are numbers as their values are ordered. -/
def orderKey (x : Binary64) : Int :=
  -- Without the sign, the bits grow with the value.
  if x.isNegative then -(x.magnitudeBits : Int) else x.magnitudeBits

/-- Strict order of values; no number compares with what is none. -/
def lt (x y : Binary64) : Bool :=
  !x.isNaN && !y.isNaN && x.orderKey < y.orderKey

/-- Order of values; no number compares with what is none. -/
def le (x y : Binary64) : Bool :=
  !x.isNaN && !y.isNaN && x.orderKey ≤ y.orderKey

/-- Equality of values: the two zeros are equal, and what is no number equals nothing. -/
def same (x y : Binary64) : Bool :=
  -- The order of values is total but for what is no number.
  x.le y && y.le x

/-- The rounded sum. -/
def add (x y : Binary64) : Binary64 :=
  -- Infinities of opposite signs have no sum.
  if x.isNaN || y.isNaN then nan
  else if x.isInfinite then if y.isInfinite && x.isNegative != y.isNegative then nan else x
  else if y.isInfinite then y
  else
    -- Both are whole numbers of the smallest unit, so the exact sum is rounded once.
    let sum := x.units + y.units
    if sum = 0 then ofParts (x.isNegative && y.isNegative) 0
    else ofQuotient (sum < 0) sum.natAbs (Nat.pow 2 1074)

/-- The product with a natural number, rounded once. -/
def timesNat (x : Binary64) (n : Nat) : Binary64 :=
  -- What is not finite stays as it is, also when it is taken no times.
  if !x.isFinite then x
  else ofQuotient x.isNegative (x.significand * n * Nat.pow 2 x.exponent.toNat)
    (Nat.pow 2 (-x.exponent).toNat)

end Binary64

end SourceAtlas
