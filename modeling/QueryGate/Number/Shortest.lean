import QueryGate.Number.Binary
import QueryGate.Number.Decimal

/-!
# The shortest decimal that reads back

Among the decimals that round to a given floating-point number there is a shortest length, and
among those of that length a nearest one. `QueryGate.Binary64.shortest` finds it by trying the
lengths in turn; a double never needs more than seventeen digits.

## The interval

The reals that round to a number reach half-way to its neighbours on both sides. Below the first
number of an exponent the grid is twice as fine, so the lower half is only half as wide there. The
two ends belong to the interval exactly when the significand is even, since a tie goes to the even
neighbour. Everything is counted in quarters of a unit, so that both ends are integers.

## Two candidates suffice

If a decimal grid meets the interval at all, then it does so in one of the two grid points next to
the number itself, which lies in the interval. Of two hits the nearer is taken, and the even one
when they are equally near.
-/

namespace QueryGate

/-- A positive decimal number `digits * 10 ^ exponent`. -/
structure Decimal.Scaled where
  /-- The significant digits, as one number. -/
  digits : Nat
  /-- The power of ten they are multiplied by. -/
  exponent : Int
  deriving DecidableEq, Repr

namespace Binary64

/-- **What rounds to a number**: the number itself and the ends of its interval, in quarters of a
unit, and whether the ends belong to the interval. -/
structure Interval where
  /-- The number. -/
  middle : Nat
  /-- The lower end. -/
  low : Nat
  /-- The upper end. -/
  high : Nat
  /-- Whether the two ends round to the number. -/
  closed : Bool
  deriving DecidableEq, Repr

/-- The interval of a finite number. -/
def interval (x : Binary64) : Interval :=
  let format := BinaryFormat.double
  let m := format.significand x.magnitude
  let k := format.step x.magnitude
  let narrow : Bool := m == Nat.pow 2 (format.precision - 1) && 0 < k
  { middle := 4 * m * Nat.pow 2 k
    low := 4 * m * Nat.pow 2 k - (if narrow then 1 else 2) * Nat.pow 2 k
    high := 4 * m * Nat.pow 2 k + 2 * Nat.pow 2 k
    closed := m % 2 == 0 }

/-- The exponent of the first decimal digit of a positive number. -/
def decimalExponent (x : Binary64) : Int :=
  let whole := x.units / one
  if whole = 0 then -((Decimal.digits ((one + x.units - 1) / x.units - 1)).length : Int)
  else (Decimal.digits whole).length - 1

/-- **The nearest point of a decimal grid inside an interval**, if there is one. The grid has the
step `num / den`, in quarters of a unit. -/
def Interval.pick? (i : Interval) (num den : Nat) : Option Nat :=
  let inside (d : Nat) : Bool :=
    if i.closed then i.low * den ≤ d * num && d * num ≤ i.high * den
    else i.low * den < d * num && d * num < i.high * den
  let d := i.middle * den / num
  let below := i.middle * den - d * num
  let above := (d + 1) * num - i.middle * den
  if inside d && inside (d + 1) then
    if below < above then some d
    else if above < below then some (d + 1)
    else some (d + d % 2)
  else if inside d then some d
  else if inside (d + 1) then some (d + 1)
  else none

/-- The first length, from a given one on, at which the decimal grid meets the interval. -/
def firstHit (x : Binary64) (i : Interval) (length : Nat) : Nat → Option Decimal.Scaled
  | 0 => none
  | more + 1 =>
    let e := x.decimalExponent - (length : Int) + 1
    let hit := if 0 ≤ e then i.pick? (4 * one * Nat.pow 10 e.toNat) 1
      else i.pick? (4 * one) (Nat.pow 10 (-e).toNat)
    match hit with
    | some d => some ⟨d, e⟩
    | none => firstHit x i (length + 1) more

/-- A decimal without zeros at its end; `fuel` bounds their number. -/
def trimmed (fuel : Nat) (s : Decimal.Scaled) : Decimal.Scaled :=
  match fuel with
  | 0 => s
  | fuel + 1 =>
    if s.digits % 10 = 0 ∧ s.digits ≠ 0 then trimmed fuel ⟨s.digits / 10, s.exponent + 1⟩ else s

/-- **The shortest decimal that rounds to a positive finite number.** -/
def shortest (x : Binary64) : Decimal.Scaled :=
  trimmed 17 ((x.firstHit x.interval 1 17).getD ⟨0, 0⟩)

end Binary64

end QueryGate
