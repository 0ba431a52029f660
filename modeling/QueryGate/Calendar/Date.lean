/-!
# Dates

The Gregorian calendar, carried on in both directions, with a year zero. A date is found by its
month and day, by its place in the year, by its week, or by the number of days since a fixed day;
all of these are counted here, and none is trusted: what names no date gives none.

## The range of years

A date lies between the years `QueryGate.Date.firstYear` and `QueryGate.Date.lastYear`. Arithmetic
on days does not stop there, so a week that begins in a year without dates may still end in one
with dates.

## Weeks

A week begins on Monday, and belongs to the year that its Thursday lies in. Days of the week are
counted from Monday as zero.
-/

namespace QueryGate

/-- **A date.** -/
structure Date where
  /-- The year. -/
  year : Int
  /-- The month, from one. -/
  month : Nat
  /-- The day of the month, from one. -/
  day : Nat
  deriving DecidableEq, Repr

namespace Date

/-- The first year that has dates. -/
def firstYear : Int := -262143

/-- The last year that has dates. -/
def lastYear : Int := 262142

/-- Whether a year has a day more. -/
def isLeap (year : Int) : Bool := year % 4 = 0 ∧ (year % 100 ≠ 0 ∨ year % 400 = 0)

/-- The number of days of a month; a number that is no month has none. -/
def monthLength (year : Int) (month : Nat) : Nat :=
  match month with
  | 1 | 3 | 5 | 7 | 8 | 10 | 12 => 31
  | 4 | 6 | 9 | 11 => 30
  | 2 => if isLeap year then 29 else 28
  | _ => 0

/-- The number of days of a year before a month. -/
def daysBefore (year : Int) : Nat → Nat
  | 0 => 0
  | month + 1 => daysBefore year month + monthLength year month

/-- **The date of a month and a day**, if there is one. -/
def ofMonthDay? (year : Int) (month day : Nat) : Option Date :=
  if firstYear ≤ year ∧ year ≤ lastYear ∧ 1 ≤ day ∧ day ≤ monthLength year month then
    some ⟨year, month, day⟩
  else none

/-- The place of a date in its year, from one. -/
def ordinal (d : Date) : Nat := daysBefore d.year d.month + d.day

/-- **The date at a place in its year**, if there is one. -/
def ofOrdinal? (year : Int) (place : Nat) : Option Date :=
  (List.range 13).findSome? fun month =>
    if daysBefore year month < place then ofMonthDay? year month (place - daysBefore year month)
    else none

/-- The number of days before a year, counted from the year one. -/
def daysBeforeYear (year : Int) : Int :=
  365 * (year - 1) + (year - 1) / 4 - (year - 1) / 100 + (year - 1) / 400

/-- **The number of a date**: the days since the day before the year one. -/
def number (d : Date) : Int := daysBeforeYear d.year + d.ordinal

/-- The day of the week of the day with a number. -/
def weekdayOf (number : Int) : Nat := ((number - 1) % 7).toNat

/-- The day of the week of a date. -/
def weekday (d : Date) : Nat := weekdayOf d.number

/-- **The date with a number**, if there is one. The year is found by counting whole cycles of 400,
100, 4 and 1 years, of which a cycle of 400 or of 4 may end with a day that the shorter ones within
it do not count. -/
def ofNumber? (number : Int) : Option Date :=
  let cycle := (number - 1) / 146097
  let rest := ((number - 1) % 146097).toNat
  let centuries := min (rest / 36524) 3
  let rest := rest - centuries * 36524
  let fours := rest / 1461
  let rest := rest - fours * 1461
  let years := min (rest / 365) 3
  let rest := rest - years * 365
  ofOrdinal? (400 * cycle + 100 * centuries + 4 * fours + years + 1) (rest + 1)

/-! ### Weeks -/

/-- The number of the Monday that the first week of a year begins with: the week is the one that
the fourth of January lies in. -/
def firstMonday (year : Int) : Int :=
  daysBeforeYear year + 4 - weekdayOf (daysBeforeYear year + 4)

/-- The number of weeks that belong to a year. -/
def weeksOf (year : Int) : Nat := ((firstMonday (year + 1) - firstMonday year) / 7).toNat

/-- The year that the week of a date belongs to. -/
def weekYear (d : Date) : Int :=
  if d.number < firstMonday d.year then d.year - 1
  else if firstMonday (d.year + 1) ≤ d.number then d.year + 1
  else d.year

/-- The number of the week of a date, from one. -/
def week (d : Date) : Nat := ((d.number - firstMonday d.weekYear) / 7).toNat + 1

/-- **The date of a week and a day of the week**, if there is one. -/
def ofWeek? (year : Int) (week weekday : Nat) : Option Date :=
  if 1 ≤ week ∧ week ≤ weeksOf year then
    ofNumber? (firstMonday year + 7 * (week - 1) + weekday)
  else none

/-- How many days a day of the week lies behind the latest day of another kind. -/
def daysSince (weekday start : Nat) : Nat := (weekday + 7 - start) % 7

/-- The number of weeks of the year that have begun with a given day of the week by a date. -/
def weeksFrom (d : Date) (start : Nat) : Nat := (d.ordinal + 6 - daysSince d.weekday start) / 7

/-- The quarter of a date, from one. -/
def quarter (d : Date) : Nat := (d.month - 1) / 3 + 1

end Date

/-- **A moment without a time zone.** A leap second is the last second of its minute with a whole
second more of nanoseconds. -/
structure Moment where
  /-- The date. -/
  date : Date
  /-- The hour. -/
  hour : Nat
  /-- The minute. -/
  minute : Nat
  /-- The second, below sixty. -/
  second : Nat
  /-- The nanosecond. -/
  nanosecond : Nat
  deriving DecidableEq, Repr

/-- The day that seconds are counted from. -/
def Moment.epoch : Int := (Date.mk 1970 1 1).number

/-- The number of seconds from the first moment of that day, the time being universal. -/
def Moment.timestamp (m : Moment) : Int :=
  (m.date.number - epoch) * 86400 + m.hour * 3600 + m.minute * 60 + m.second

end QueryGate
