import QueryGate.Calendar.Reading
import QueryGate.Stop

/-!
# Writing a moment

The text of a moment by the parts of a pattern. Blanks and other characters of the pattern are
written as they stand there; a part that speaks of a time zone cannot be written, since a moment
here has none. Nothing provides for that: a text that was read by a pattern with such a part is not
refused, and the run is abandoned.

## Years

A year with at most four digits is filled up to four; any other year carries its sign, a plus sign
too, so that reading it again takes all of its digits.
-/

namespace QueryGate.Calendar

/-- **An integer filled up to a width.** Zeros stand between the sign and the digits, spaces before
the sign. -/
def padded (pad : Pad) (width : Nat) (plus : Bool) (n : Int) : List Char :=
  let sign : List Char := if n < 0 then ['-'] else if plus then ['+'] else []
  let digits := Decimal.digits n.natAbs
  let missing := width - (sign.length + digits.length)
  match pad with
  | .none => sign ++ digits
  | .zero => sign ++ List.replicate missing '0' ++ digits
  | .space => List.replicate missing ' ' ++ sign ++ digits

/-- A year. -/
def writeYear (pad : Pad) (year : Int) : List Char :=
  if 0 ≤ year ∧ year ≤ 9999 then padded pad 4 false year else padded pad 5 true year

/-- A quantity of two digits. -/
def writeTwo (pad : Pad) (n : Int) : List Char := padded pad 2 false n

/-- **A quantity of a moment.** -/
def writeQuantity (m : Moment) (pad : Pad) : Quantity → List Char
  | .year => writeYear pad m.date.year
  | .century => writeTwo pad (m.date.year / 100)
  | .yearOfCentury => writeTwo pad (m.date.year % 100)
  | .weekYear => writeYear pad m.date.weekYear
  | .weekCentury => writeTwo pad (m.date.weekYear / 100)
  | .weekYearOfCentury => writeTwo pad (m.date.weekYear % 100)
  | .quarter => Decimal.digits m.date.quarter
  | .month => writeTwo pad m.date.month
  | .day => writeTwo pad m.date.day
  | .weekFromSunday => writeTwo pad (m.date.weeksFrom 6)
  | .weekFromMonday => writeTwo pad (m.date.weeksFrom 0)
  | .week => writeTwo pad m.date.week
  | .dayFromSunday => Decimal.digits ((m.date.weekday + 1) % 7)
  | .dayFromMonday => Decimal.digits (m.date.weekday + 1)
  | .ordinal => padded pad 3 false m.date.ordinal
  | .hour => writeTwo pad m.hour
  | .hour12 => writeTwo pad (if m.hour % 12 = 0 then 12 else m.hour % 12 : Nat)
  | .minute => writeTwo pad m.minute
  | .second => writeTwo pad (m.second + m.nanosecond / 1000000000 : Nat)
  | .nanosecond => padded pad 9 false (m.nanosecond % 1000000000 : Nat)
  | .timestamp => padded pad 9 false m.timestamp

/-- A name in a list of names. -/
def nameAt (names : List String) (i : Nat) : List Char := ((names[i]?).getD "").toList

/-- A name of a moment. -/
def writeName (m : Moment) : Name → List Char
  | .shortMonth => (nameAt months (m.date.month - 1)).take 3
  | .longMonth => nameAt months (m.date.month - 1)
  | .shortWeekday => (nameAt weekdays m.date.weekday).take 3
  | .longWeekday => nameAt weekdays m.date.weekday
  | .smallHalf => if m.hour < 12 then ['a', 'm'] else ['p', 'm']
  | .capitalHalf => if m.hour < 12 then ['A', 'M'] else ['P', 'M']

/-- The first digits of the nanosecond. -/
def fractionDigits (m : Moment) (digits : Nat) : List Char :=
  Decimal.filled '0' digits (m.nanosecond % 1000000000 / Nat.pow 10 (9 - digits))

/-- **A fraction of a second with as many digits as it needs**: none, or the least of three, six
and nine. -/
def writeFraction (m : Moment) : List Char :=
  let nano := m.nanosecond % 1000000000
  if nano = 0 then []
  else if nano % 1000000 = 0 then '.' :: fractionDigits m 3
  else if nano % 1000 = 0 then '.' :: fractionDigits m 6
  else '.' :: fractionDigits m 9

/-- **One part of a pattern**, if it can be written. -/
def writePart? (m : Moment) : Part → Option (List Char)
  | .literal cs => some cs
  | .blanks cs => some cs
  | .quantity q pad => some (writeQuantity m pad q)
  | .name n => some (writeName m n)
  | .fraction => some (writeFraction m)
  | .fixedFraction digits true => some ('.' :: fractionDigits m digits)
  | .fixedFraction digits false => some (fractionDigits m digits)
  | .zone _ => none
  | .malformed => none

/-- **The text of a moment by the parts of a pattern**, if all of them can be written. -/
def write? (m : Moment) : List Part → Option (List Char)
  | [] => some []
  | part :: rest => do return (← writePart? m part) ++ (← write? m rest)

/-- **A text in the form its pattern gives it**: read as a moment and written again. A text that is
no moment is refused, and a moment that cannot be written is the end of the run. -/
def canonical (pattern text : String) : Except (Stop MomentFault) String :=
  match read (parts pattern.toList) text with
  | .error fault => .error (.refused fault)
  | .ok m =>
    match write? m (parts pattern.toList) with
    | some cs => .ok (String.ofList cs)
    | none => .error .abandoned

end QueryGate.Calendar
