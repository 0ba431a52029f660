import QueryGate.Json.Tree
import QueryGate.Number.Binary
import QueryGate.Scalar

/-!
# The value of a JSON number

A number without a fraction and without an exponent is an integer as long as 64 bits hold it;
every other number is a floating-point number.

## Three roundings instead of one

The floating-point value is **not** the one nearest to the decimal that was written. As many digits
as an unsigned word of 64 bits holds are gathered into a significand, the digits after those only
count for the place of the point, and then the significand, rounded, is multiplied or divided by a
power of ten, rounded, which rounds once more. For numbers with few digits and small exponents this
is the nearest number; for others it may be a neighbour.

A magnitude beyond the greatest finite number is refused; one below the least is zero. An integer
zero with a minus sign is the negative zero.
-/

namespace QueryGate.Json

/-- The greatest significand. -/
def greatestSignificand : Nat := Nat.pow 2 64 - 1

/-- **Digits gathered behind a significand** while it stays within bounds: the significand, how
many digits it took in, and the digits from the first that did not fit. -/
def gather (significand : Nat) : List Char → Nat × Nat × List Char
  | [] => (significand, 0, [])
  | c :: rest =>
    let next := 10 * significand + (Decimal.digitValue? c).getD 0
    if next ≤ greatestSignificand then
      let (significand, count, left) := gather next rest
      (significand, count + 1, left)
    else (significand, 0, c :: rest)

/-- A word rounded from a natural number. -/
def roundedNat (n : Nat) : Nat := BinaryFormat.double.nearest n 1

/-- The rounded product of two words. -/
def roundedProduct (v w : Nat) : Nat :=
  let format := BinaryFormat.double
  format.nearest (format.units v * format.units w) (Binary64.one * Binary64.one)

/-- The rounded quotient of two words. -/
def roundedQuotient (v w : Nat) : Nat :=
  BinaryFormat.double.nearest (BinaryFormat.double.units v) (BinaryFormat.double.units w)

/-- The greatest power of ten that a step multiplies or divides by. -/
def greatestPower : Nat := 308

/-- **A word times a power of ten.** A division by more than the greatest power is done in steps;
a multiplication by more than that has no finite result unless the word is zero. -/
def scaled (word : Nat) (exponent : Int) : Option Nat :=
  if 0 ≤ exponent then
    if exponent ≤ greatestPower then
      let product := roundedProduct word (roundedNat (Nat.pow 10 exponent.toNat))
      if product < BinaryFormat.double.infinity then some product else none
    else if word = 0 then some 0
    else none
  else if -exponent ≤ greatestPower then
    some (roundedQuotient word (roundedNat (Nat.pow 10 (-exponent).toNat)))
  else if word = 0 then some 0
  else
    scaled (roundedQuotient word (roundedNat (Nat.pow 10 greatestPower))) (exponent + greatestPower)
termination_by exponent.natAbs
decreasing_by simp only [greatestPower] at *; omega

/-- The greatest exponent that is added up digit by digit. -/
def greatestExponent : Nat := Nat.pow 2 31 - 1

namespace Numeral

/-- Whether a number is written as an integer. -/
def isIntegral (n : Numeral) : Bool := n.fraction.isNone && n.exponent.isNone

/-- The exponent of ten that the digits of the exponent add to the place of the point. Nothing if
they are beyond all bounds. -/
def writtenExponent? (n : Numeral) : Option Int :=
  match n.exponent with
  | none => some 0
  | some (negative, digits) =>
    let e := Decimal.value digits
    if greatestExponent < e then none else some (if negative then -(e : Int) else e)

/-- Whether the exponent has a minus sign. -/
def shrinks (n : Numeral) : Bool := (n.exponent.map Prod.fst).getD false

/-- **The floating-point value of a number**, unless it is too large. -/
def real? (n : Numeral) : Option Binary64 := do
  let (significand, _, left) := gather 0 n.whole
  let (significand, places, _) := gather significand (n.fraction.getD [])
  match n.writtenExponent? with
  | none =>
    if significand ≠ 0 ∧ ¬ n.shrinks then none else some (.ofWord n.negative 0)
  | some e => do
    let word ← scaled (roundedNat significand) (e + left.length - places)
    return .ofWord n.negative word

/-- **The scalar that a number is**, unless it is too large. -/
def scalar? (n : Numeral) : Option Scalar :=
  let magnitude := Decimal.value n.whole
  if n.isIntegral ∧ ¬ n.negative ∧ magnitude < Nat.pow 2 63 then
    some (.int (Int64.ofNat magnitude))
  else if n.isIntegral ∧ ¬ n.negative ∧ magnitude < Nat.pow 2 64 then
    some (.uint (UInt64.ofNat magnitude))
  else if n.isIntegral ∧ n.negative ∧ magnitude ≠ 0 ∧ magnitude ≤ Nat.pow 2 63 then
    some (.int (Int64.ofInt (-(magnitude : Int))))
  else n.real?.map .float

/-- The natural number that a number is, if it is written as one and lies below a bound. -/
def nat? (bound : Nat) (n : Numeral) : Option Nat :=
  let magnitude := Decimal.value n.whole
  if n.isIntegral ∧ ¬ n.negative ∧ magnitude < bound then some magnitude else none

end Numeral

end QueryGate.Json
