import QueryGate.Text.CharClass

/-!
# Patterns of moments

How a moment is spelt: a text with conversions, each a percent sign and a letter, perhaps with a
modifier between the two. A pattern is read once into parts; a malformed conversion is a part too,
so that a pattern always has parts and a text fails only when it gets there.

## Runs

Blanks of a pattern and the other characters between conversions are gathered into runs. A run of
blanks matches any blanks, also none at all; any other run has to be met exactly.

## Composite conversions

A conversion that abbreviates others is replaced by their parts, so nothing beyond this module
knows of it. It takes no modifier.
-/

namespace QueryGate.Calendar

/-- What fills a number up to its width. -/
inductive Pad where
  /-- Nothing. -/
  | none
  /-- Zeros. -/
  | zero
  /-- Spaces. -/
  | space
  deriving DecidableEq, Repr

/-- **A quantity of a moment that is a number.** -/
inductive Quantity where
  /-- The year. -/
  | year
  /-- The hundreds of the year. -/
  | century
  /-- The year in its hundred. -/
  | yearOfCentury
  /-- The year that the week belongs to. -/
  | weekYear
  /-- The hundreds of that year. -/
  | weekCentury
  /-- That year in its hundred. -/
  | weekYearOfCentury
  /-- The quarter. -/
  | quarter
  /-- The month. -/
  | month
  /-- The day of the month. -/
  | day
  /-- The number of Sundays so far in the year. -/
  | weekFromSunday
  /-- The number of Mondays so far in the year. -/
  | weekFromMonday
  /-- The week. -/
  | week
  /-- The day of the week, Sunday being zero. -/
  | dayFromSunday
  /-- The day of the week, Monday being one. -/
  | dayFromMonday
  /-- The day of the year. -/
  | ordinal
  /-- The hour. -/
  | hour
  /-- The hour of the half-day, from one to twelve. -/
  | hour12
  /-- The minute. -/
  | minute
  /-- The second. -/
  | second
  /-- The nanosecond. -/
  | nanosecond
  /-- The seconds since the epoch. -/
  | timestamp
  deriving DecidableEq, Repr

/-- **A quantity of a moment that is a name.** -/
inductive Name where
  /-- The month in three letters. -/
  | shortMonth
  /-- The month. -/
  | longMonth
  /-- The day of the week in three letters. -/
  | shortWeekday
  /-- The day of the week. -/
  | longWeekday
  /-- The half-day, in small letters. -/
  | smallHalf
  /-- The half-day, in capitals. -/
  | capitalHalf
  deriving DecidableEq, Repr

/-- **A part of a pattern that speaks of a time zone.** -/
inductive Zone where
  /-- The name of a zone. -/
  | name
  /-- An offset; with `lenient` its minutes may be missing and a letter may stand for none. -/
  | offset (lenient : Bool)
  /-- The mark between a date and a time in a complete timestamp. -/
  | mark
  /-- The offset at the end of a complete timestamp, for which a letter or a word may stand. -/
  | universal
  deriving DecidableEq, Repr

/-- **A part of a pattern.** -/
inductive Part where
  /-- Characters that have to be met. -/
  | literal (cs : List Char)
  /-- Blanks. -/
  | blanks (cs : List Char)
  /-- A number. -/
  | quantity (q : Quantity) (pad : Pad)
  /-- A name. -/
  | name (n : Name)
  /-- A fraction of a second after a point, with as many digits as it needs, or none. -/
  | fraction
  /-- A fraction of a second with a fixed number of digits, after a point or without one. -/
  | fixedFraction (digits : Nat) (point : Bool)
  /-- A time zone. -/
  | zone (z : Zone)
  /-- A conversion that means nothing. -/
  | malformed
  deriving DecidableEq, Repr

/-- The quantity that a letter stands for, with what fills it up. -/
def quantity? (c : Char) : Option (Quantity × Pad) :=
  match c with
  | 'C' => some (.century, .zero)
  | 'G' => some (.weekYear, .zero)
  | 'H' => some (.hour, .zero)
  | 'I' => some (.hour12, .zero)
  | 'M' => some (.minute, .zero)
  | 'S' => some (.second, .zero)
  | 'U' => some (.weekFromSunday, .zero)
  | 'V' => some (.week, .zero)
  | 'W' => some (.weekFromMonday, .zero)
  | 'Y' => some (.year, .zero)
  | 'd' => some (.day, .zero)
  | 'e' => some (.day, .space)
  | 'f' => some (.nanosecond, .zero)
  | 'g' => some (.weekYearOfCentury, .zero)
  | 'j' => some (.ordinal, .zero)
  | 'k' => some (.hour, .space)
  | 'l' => some (.hour12, .space)
  | 'm' => some (.month, .zero)
  | 'q' => some (.quarter, .none)
  | 's' => some (.timestamp, .none)
  | 'u' => some (.dayFromMonday, .none)
  | 'w' => some (.dayFromSunday, .none)
  | 'y' => some (.yearOfCentury, .zero)
  | _ => none

/-- The part of a quantity with its usual filling. -/
def zeros (q : Quantity) : Part := .quantity q .zero

/-- The time of day to the minute. -/
def minuteParts : List Part := [zeros .hour, .literal [':'], zeros .minute]

/-- The time of day to the second. -/
def secondParts : List Part := minuteParts ++ [.literal [':'], zeros .second]

/-- The parts of a complete timestamp, in which blanks may stand before the marks. -/
def timestampParts : List Part :=
  [zeros .year, .blanks [], .literal ['-'], zeros .month, .blanks [], .literal ['-'], zeros .day,
    .zone .mark, zeros .hour, .blanks [], .literal [':'], zeros .minute, .blanks [], .literal [':'],
    zeros .second, .fraction, .blanks [], .zone .universal]

/-- The parts that a letter stands for, for the letters that stand for no number. -/
def letter? (c : Char) : Option (List Part) :=
  match c with
  | 'A' => some [.name .longWeekday]
  | 'B' => some [.name .longMonth]
  | 'D' | 'x' =>
    some [zeros .month, .literal ['/'], zeros .day, .literal ['/'], zeros .yearOfCentury]
  | 'F' => some [zeros .year, .literal ['-'], zeros .month, .literal ['-'], zeros .day]
  | 'P' => some [.name .smallHalf]
  | 'R' => some minuteParts
  | 'T' | 'X' => some secondParts
  | 'Z' => some [.zone .name]
  | 'a' => some [.name .shortWeekday]
  | 'b' | 'h' => some [.name .shortMonth]
  | 'c' =>
    some ([.name .shortWeekday, .blanks [' '], .name .shortMonth, .blanks [' '],
      .quantity .day .space, .blanks [' ']] ++ secondParts ++ [.blanks [' '], zeros .year])
  | 'n' => some [.blanks ['\n']]
  | 'p' => some [.name .capitalHalf]
  | 'r' =>
    some [zeros .hour12, .literal [':'], zeros .minute, .literal [':'], zeros .second,
      .blanks [' '], .name .capitalHalf]
  | 't' => some [.blanks ['\t']]
  | 'v' =>
    some [.quantity .day .space, .literal ['-'], .name .shortMonth, .literal ['-'], zeros .year]
  | 'z' => some [.zone (.offset false)]
  | '+' => some timestampParts
  | '%' => some [.literal ['%']]
  | _ => none

/-- **The parts of a conversion**, from the characters after its percent sign, and how many of
these it takes. -/
def conversion? : List Char → Option (List Part × Nat)
  | '-' :: c :: _ => (quantity? c).map fun (q, _) => ([.quantity q .none], 2)
  | '0' :: c :: _ => (quantity? c).map fun (q, _) => ([.quantity q .zero], 2)
  | '_' :: c :: _ => (quantity? c).map fun (q, _) => ([.quantity q .space], 2)
  | '#' :: 'z' :: _ => some ([.zone (.offset true)], 2)
  | ':' :: 'z' :: _ => some ([.zone (.offset false)], 2)
  | ':' :: ':' :: 'z' :: _ => some ([.zone (.offset false)], 3)
  | ':' :: ':' :: ':' :: 'z' :: _ => some ([.zone (.offset false)], 4)
  | '.' :: 'f' :: _ => some ([.fraction], 2)
  | '.' :: '3' :: 'f' :: _ => some ([.fixedFraction 3 true], 3)
  | '.' :: '6' :: 'f' :: _ => some ([.fixedFraction 6 true], 3)
  | '.' :: '9' :: 'f' :: _ => some ([.fixedFraction 9 true], 3)
  | '3' :: 'f' :: _ => some ([.fixedFraction 3 false], 2)
  | '6' :: 'f' :: _ => some ([.fixedFraction 6 false], 2)
  | '9' :: 'f' :: _ => some ([.fixedFraction 9 false], 2)
  | c :: _ =>
    match quantity? c with
    | some (q, pad) => some ([.quantity q pad], 1)
    | none => (letter? c).map (·, 1)
  | [] => none

/-- Whether a character stands for itself. -/
def isPlain (c : Char) : Bool := c != '%' && !CharClass.isBlank c

/-- **The parts of a pattern.** Nothing after a malformed conversion is of interest. -/
def parts : List Char → List Part
  | [] => []
  | c :: cs =>
    if c = '%' then
      match conversion? cs with
      | none => [.malformed]
      | some (found, length) => found ++ parts (cs.drop length)
    else if CharClass.isBlank c then
      .blanks (c :: cs.takeWhile CharClass.isBlank) :: parts (cs.dropWhile CharClass.isBlank)
    else .literal (c :: cs.takeWhile isPlain) :: parts (cs.dropWhile isPlain)
termination_by cs => cs.length
decreasing_by
  · simp only [List.length_drop, List.length_cons]; omega
  · exact Nat.lt_succ_of_le (List.dropWhile_sublist _).length_le
  · exact Nat.lt_succ_of_le (List.dropWhile_sublist _).length_le

end QueryGate.Calendar
