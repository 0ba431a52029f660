/-!
# Binary floating point, exactly

A floating-point number is a word of bits that stands for a rational number, and every operation on
it is an operation on rationals followed by one rounding. Both halves are done here on natural
numbers: nothing is computed in floating point, so nothing is lost.

## Words that are in order

Leave the sign bit out, and the words of a format from zero to infinity are numbered in the order
of their values: the word after `w` is the next larger number. In units of the least positive
number, the word with exponent field `e` and fraction `f` is worth `f` when `e` is zero and
`(2 ^ (p - 1) + f) * 2 ^ (e - 1)` otherwise, `p` being the precision. So the significand `m` on the
grid of step `2 ^ k` has the word `k * 2 ^ (p - 1) + m` in both cases, and a significand that
rounding carries up to `2 ^ p` runs over into the next exponent by itself
(`QueryGate.BinaryFormat.nearest`).
-/

namespace QueryGate

/-- **The nearest integer to a fraction**; of two equally near ones, the even one. -/
def roundHalfEven (num den : Nat) : Nat :=
  let q := num / den
  let r := num % den
  if 2 * r < den then q
  else if den < 2 * r then q + 1
  else q + q % 2

/-- **A binary format**: its precision, and how small its least positive number is. -/
structure BinaryFormat where
  /-- The number of binary digits of a significand, the leading one included. -/
  precision : Nat
  /-- The least positive number is two to the power of minus this. -/
  scale : Nat
  /-- The word of infinity. -/
  infinity : Nat
  deriving DecidableEq, Repr

namespace BinaryFormat

/-- The format of 32 bits. -/
def single : BinaryFormat := ⟨24, 149, 0x7F800000⟩

/-- The format of 64 bits. -/
def double : BinaryFormat := ⟨53, 1074, 0x7FF0000000000000⟩

/-- **The word whose value is nearest to a fraction.** The step of the grid is a power of two: one,
or as much as leaves the significand no longer than the precision. Beyond the greatest number lies
infinity. -/
def nearest (format : BinaryFormat) (num den : Nat) : Nat :=
  let units := num * Nat.pow 2 format.scale
  let whole := units / den
  let length := if whole = 0 then 0 else Nat.log2 whole + 1
  let step := length - format.precision
  min (step * Nat.pow 2 (format.precision - 1) + roundHalfEven units (den * Nat.pow 2 step))
    format.infinity

/-- The exponent of the grid that a word's significand stands on. -/
def step (format : BinaryFormat) (word : Nat) : Nat := word / Nat.pow 2 (format.precision - 1) - 1

/-- The significand of a word. -/
def significand (format : BinaryFormat) (word : Nat) : Nat :=
  word - format.step word * Nat.pow 2 (format.precision - 1)

/-- **The value of a word**, in units of the least positive number. -/
def units (format : BinaryFormat) (word : Nat) : Nat :=
  format.significand word * Nat.pow 2 (format.step word)

/-- **The word nearest to a decimal** `digits * 10 ^ exponent`. Where the decimal point lies so far
out that no format reaches it, the powers of ten are not even formed. -/
def nearestDecimal (format : BinaryFormat) (digits : Nat) (exponent : Int) : Nat :=
  let places : Int := (Nat.log2 digits) * 30103 / 100000 + exponent
  if digits = 0 then 0
  else if 400 < places then format.infinity
  else if places < -400 then 0
  else if 0 ≤ exponent then format.nearest (digits * Nat.pow 10 exponent.toNat) 1
  else format.nearest digits (Nat.pow 10 (-exponent).toNat)

end BinaryFormat

/-- **A floating-point number of 64 bits.** Two of them are the same number of this type when their
bits agree; whether they compare equal is `QueryGate.Binary64.equals`. -/
structure Binary64 where
  /-- The sign bit, the exponent field and the fraction, from the top down. -/
  bits : UInt64
  deriving DecidableEq, Repr

namespace Binary64

/-- Whether the sign bit is set. -/
def negative (x : Binary64) : Bool := Nat.pow 2 63 ≤ x.bits.toNat

/-- The word without the sign bit. -/
def magnitude (x : Binary64) : Nat := x.bits.toNat % Nat.pow 2 63

/-- Whether the number is neither infinite nor undefined. -/
def isFinite (x : Binary64) : Bool := x.magnitude < BinaryFormat.double.infinity

/-- Whether the number is undefined. -/
def isNaN (x : Binary64) : Bool := BinaryFormat.double.infinity < x.magnitude

/-- **Equality of values**: an undefined number equals nothing, and the two zeros are equal. -/
def equals (x y : Binary64) : Bool :=
  !x.isNaN && !y.isNaN && (x == y || (x.magnitude == 0 && y.magnitude == 0))

/-- The number with a given sign and word. -/
def ofWord (negative : Bool) (word : Nat) : Binary64 :=
  ⟨UInt64.ofNat ((if negative then Nat.pow 2 63 else 0) + word)⟩

/-- The undefined number. -/
def nan : Binary64 := ⟨0x7FF8000000000000⟩

/-- Positive infinity. -/
def infinity : Binary64 := ⟨0x7FF0000000000000⟩

/-- The absolute value, in units of the least positive number. -/
def units (x : Binary64) : Nat := BinaryFormat.double.units x.magnitude

/-- The number of units in one. -/
def one : Nat := Nat.pow 2 BinaryFormat.double.scale

/-- **The number nearest to a fraction.** -/
def ofRatio (negative : Bool) (num den : Nat) : Binary64 :=
  ofWord negative (BinaryFormat.double.nearest num den)

/-- **A number of the format of 32 bits, widened**: the value is kept, since every one of them is
a number of 64 bits too. -/
def ofSingle (word : UInt32) : Binary64 :=
  let negative : Bool := Nat.pow 2 31 ≤ word.toNat
  let magnitude := word.toNat % Nat.pow 2 31
  let single := BinaryFormat.single
  if magnitude < single.infinity then
    ofRatio negative (single.units magnitude) (Nat.pow 2 single.scale)
  else if magnitude = single.infinity then ofWord negative BinaryFormat.double.infinity
  else nan

end Binary64

end QueryGate
