import QueryGate.Calendar.Date
import QueryGate.Calendar.Pattern
import QueryGate.Fault

/-!
# What a text says about a moment

A text read by a pattern yields quantities, in any order and perhaps more than once. They are
gathered first (`QueryGate.Calendar.Found`) and made into a moment afterwards
(`QueryGate.Calendar.Found.moment`).

## Gathering

A quantity has to lie in its own range, and a quantity that is found twice has to be found with the
same value both times. An hour of the day is two quantities, the half-day and the hour in it, so
that the two ways of telling it agree or contradict each other.

## Making a moment

The date is found from the first of these that is complete: year, month and day; year and day of
the year; year, week counted from Sunday or else from Monday, and day of the week; year of the week,
week and day of the week. A year may be given by its parts. Whatever else was found must then be
true of that date. The time needs an hour and a minute; a second may be missing unless there is a
fraction of it. A timestamp may take the place of what is missing, or has to agree.
-/

namespace QueryGate.Calendar

/-- **The quantities that have been found.** -/
structure Found where
  /-- The year. -/
  year : Option Int := none
  /-- The hundreds of the year. -/
  century : Option Int := none
  /-- The year in its hundred. -/
  yearOfCentury : Option Int := none
  /-- The year that the week belongs to. -/
  weekYear : Option Int := none
  /-- The hundreds of that year. -/
  weekCentury : Option Int := none
  /-- That year in its hundred. -/
  weekYearOfCentury : Option Int := none
  /-- The quarter. -/
  quarter : Option Nat := none
  /-- The month. -/
  month : Option Nat := none
  /-- The day of the month. -/
  day : Option Nat := none
  /-- The number of Sundays so far in the year. -/
  weekFromSunday : Option Nat := none
  /-- The number of Mondays so far in the year. -/
  weekFromMonday : Option Nat := none
  /-- The week. -/
  week : Option Nat := none
  /-- The day of the week, Monday being zero. -/
  weekday : Option Nat := none
  /-- The day of the year. -/
  ordinal : Option Nat := none
  /-- The half-day. -/
  half : Option Nat := none
  /-- The hour of the half-day. -/
  hourOfHalf : Option Nat := none
  /-- The minute. -/
  minute : Option Nat := none
  /-- The second; sixty is a leap second. -/
  second : Option Nat := none
  /-- The nanosecond. -/
  nanosecond : Option Nat := none
  /-- The seconds since the epoch. -/
  timestamp : Option Int := none
  /-- The offset of a time zone, in seconds. -/
  offset : Option Int := none
  deriving DecidableEq, Repr

namespace Found

/-! ### Gathering -/

/-- **A value found where another may have been found before.** -/
def agree {α : Type} [DecidableEq α] (old : Option α) (new : α) : Except MomentFault (Option α) :=
  match old with
  | none => .ok (some new)
  | some value => if value = new then .ok (some new) else .error .impossible

/-- A value that has to lie between two bounds. -/
def within (least greatest n : Int) : Except MomentFault Int :=
  if least ≤ n ∧ n ≤ greatest then .ok n else .error .outOfRange

/-- A value that has to lie between two bounds, as a natural number. -/
def natWithin (least greatest : Nat) (n : Int) : Except MomentFault Nat :=
  (within least greatest n).map Int.toNat

/-- The greatest integer of a signed word of 32 bits. -/
def greatestYear : Int := Int.pow 2 31 - 1

/-- The half-day is found. -/
def setHalf (found : Found) (half : Nat) : Except MomentFault Found := do
  return { found with half := ← agree found.half half }

/-- The hour of the half-day is found. -/
def setHourOfHalf (found : Found) (hour : Nat) : Except MomentFault Found := do
  return { found with hourOfHalf := ← agree found.hourOfHalf hour }

/-- The month is found. -/
def setMonth (found : Found) (month : Nat) : Except MomentFault Found := do
  return { found with month := ← agree found.month month }

/-- The day of the week is found. -/
def setWeekday (found : Found) (weekday : Nat) : Except MomentFault Found := do
  return { found with weekday := ← agree found.weekday weekday }

/-- The nanosecond is found. -/
def setNanosecond (found : Found) (n : Nat) : Except MomentFault Found := do
  return { found with nanosecond := ← agree found.nanosecond n }

/-- The offset of a time zone is found. -/
def setOffset (found : Found) (seconds : Int) : Except MomentFault Found := do
  return { found with offset := ← agree found.offset seconds }

/-- **A quantity is found.** -/
def set (found : Found) (q : Quantity) (n : Int) : Except MomentFault Found := do
  match q with
  | .year =>
    let n ← within (-greatestYear - 1) greatestYear n
    return { found with year := ← agree found.year n }
  | .century =>
    let n ← within 0 greatestYear n
    return { found with century := ← agree found.century n }
  | .yearOfCentury =>
    let n ← within 0 99 n
    return { found with yearOfCentury := ← agree found.yearOfCentury n }
  | .weekYear =>
    let n ← within (-greatestYear - 1) greatestYear n
    return { found with weekYear := ← agree found.weekYear n }
  | .weekCentury =>
    let n ← within 0 greatestYear n
    return { found with weekCentury := ← agree found.weekCentury n }
  | .weekYearOfCentury =>
    let n ← within 0 99 n
    return { found with weekYearOfCentury := ← agree found.weekYearOfCentury n }
  | .quarter => return { found with quarter := ← agree found.quarter (← natWithin 1 4 n) }
  | .month => found.setMonth (← natWithin 1 12 n)
  | .day => return { found with day := ← agree found.day (← natWithin 1 31 n) }
  | .weekFromSunday =>
    return { found with weekFromSunday := ← agree found.weekFromSunday (← natWithin 0 53 n) }
  | .weekFromMonday =>
    return { found with weekFromMonday := ← agree found.weekFromMonday (← natWithin 0 53 n) }
  | .week => return { found with week := ← agree found.week (← natWithin 1 53 n) }
  | .dayFromSunday => found.setWeekday (((← natWithin 0 6 n) + 6) % 7)
  | .dayFromMonday => found.setWeekday ((← natWithin 1 7 n) - 1)
  | .ordinal => return { found with ordinal := ← agree found.ordinal (← natWithin 1 366 n) }
  | .hour =>
    let hour ← natWithin 0 23 n
    (← found.setHalf (hour / 12)).setHourOfHalf (hour % 12)
  | .hour12 => found.setHourOfHalf ((← natWithin 1 12 n) % 12)
  | .minute => return { found with minute := ← agree found.minute (← natWithin 0 59 n) }
  | .second => return { found with second := ← agree found.second (← natWithin 0 60 n) }
  | .nanosecond => found.setNanosecond (← natWithin 0 999999999 n)
  | .timestamp => return { found with timestamp := ← agree found.timestamp n }

/-! ### The date -/

/-- **The year that a year and its parts determine.** Parts belong to a year that is not negative.
A year in its hundred alone is one of the hundred years from 1970 on. -/
def resolveYear (year century yearOfCentury : Option Int) : Except MomentFault (Option Int) :=
  match year, century, yearOfCentury with
  | year, none, none => .ok year
  | some y, q, r =>
    if 0 ≤ y ∧ q.getD (y / 100) = y / 100 ∧ r.getD (y % 100) = y % 100 then .ok (some y)
    else .error .impossible
  | none, some q, some r =>
    if q * 100 + r ≤ greatestYear then .ok (some (q * 100 + r)) else .error .outOfRange
  | none, none, some r => .ok (some (r + if r < 70 then 2000 else 1900))
  | none, some _, none => .error .notEnough

/-- Whether a quantity that may have been found has a given value. -/
def fits {α : Type} [DecidableEq α] (found : Option α) (value : α) : Bool :=
  match found with
  | none => true
  | some found => found = value

/-- Whether a part of a year that may have been found is a given one; a negative year has no
parts. -/
def fitsPart (found : Option Int) (year part : Int) : Bool :=
  match found with
  | none => true
  | some found => 0 ≤ year ∧ found = part

/-- Whether a date has the year, the month and the day that were found. -/
def fitsMonthDay (found : Found) (d : Date) : Bool :=
  fits found.year d.year && fitsPart found.century d.year (d.year / 100) &&
    fitsPart found.yearOfCentury d.year (d.year % 100) && fits found.month d.month &&
    fits found.day d.day

/-- Whether a date has the week and the day of the week that were found. -/
def fitsWeek (found : Found) (d : Date) : Bool :=
  fits found.weekYear d.weekYear && fitsPart found.weekCentury d.weekYear (d.weekYear / 100) &&
    fitsPart found.weekYearOfCentury d.weekYear (d.weekYear % 100) && fits found.week d.week &&
    fits found.weekday d.weekday

/-- Whether a date has the day of the year and the counts of weeks that were found. -/
def fitsOrdinal (found : Found) (d : Date) : Bool :=
  fits found.ordinal d.ordinal && fits found.weekFromSunday (d.weeksFrom 6) &&
    fits found.weekFromMonday (d.weeksFrom 0)

/-- **The date of a day of the week in a week counted from a given day of the week.** -/
def ofCountedWeek (year : Int) (week weekday start : Nat) : Except MomentFault Date :=
  match Date.ofOrdinal? year 1 with
  | none => .error .outOfRange
  | some first =>
    let place : Int := 1 + Date.daysSince start first.weekday + ((week : Int) - 1) * 7 +
      Date.daysSince weekday start
    if place ≤ 0 then .error .impossible
    else
      match Date.ofOrdinal? year place.toNat with
      | none => .error .impossible
      | some d => .ok d

/-- A date that may not exist. -/
def orOutOfRange (d : Option Date) : Except MomentFault Date :=
  match d with
  | none => .error .outOfRange
  | some d => .ok d

/-- A date of which everything has to be true that was found. -/
def verified (found : Found) (fits : Bool) (d : Date) : Except MomentFault Date :=
  if fits && Found.fits found.quarter d.quarter then .ok d else .error .impossible

/-- **The date that was found.** -/
def date (found : Found) : Except MomentFault Date := do
  let year ← resolveYear found.year found.century found.yearOfCentury
  let weekYear ← resolveYear found.weekYear found.weekCentury found.weekYearOfCentury
  let all (d : Date) : Bool := found.fitsMonthDay d && found.fitsWeek d && found.fitsOrdinal d
  match year, found.month, found.day, found.ordinal, found.weekday with
  | some year, some month, some day, _, _ =>
    let d ← orOutOfRange (Date.ofMonthDay? year month day)
    found.verified (found.fitsWeek d && found.fitsOrdinal d) d
  | some year, _, _, some ordinal, _ =>
    let d ← orOutOfRange (Date.ofOrdinal? year ordinal)
    found.verified (all d) d
  | year, _, _, _, some weekday =>
    match year, found.weekFromSunday, found.weekFromMonday, weekYear, found.week with
    | some year, some week, _, _, _ =>
      let d ← ofCountedWeek year week weekday 6
      found.verified (all d) d
    | some year, _, some week, _, _ =>
      let d ← ofCountedWeek year week weekday 0
      found.verified (all d) d
    | _, _, _, some weekYear, some week =>
      let d ← orOutOfRange (Date.ofWeek? weekYear week weekday)
      found.verified (found.fitsMonthDay d && found.fitsOrdinal d) d
    | _, _, _, _, _ => .error .notEnough
  | _, _, _, _, _ => .error .notEnough

/-! ### The time and the moment -/

/-- A time of day: hour, minute, second and nanosecond. -/
abbrev TimeOfDay := Nat × Nat × Nat × Nat

/-- **The time of day that was found.** A leap second becomes the last second of its minute with a
whole second of nanoseconds more. -/
def time (found : Found) : Except MomentFault TimeOfDay :=
  match found.half, found.hourOfHalf, found.minute with
  | some half, some hour, some minute =>
    let (second, extra) : Nat × Nat :=
      match found.second with
      | none => (0, 0)
      | some second => if second = 60 then (59, 1000000000) else (second, 0)
    match found.nanosecond, found.second with
    | some _, none => .error .notEnough
    | nano, _ => .ok (half * 12 + hour, minute, second, extra + nano.getD 0)
  | _, _, _ => .error .notEnough

/-- The moment of a date and a time of day. -/
def join (d : Date) (t : TimeOfDay) : Moment := ⟨d, t.1, t.2.1, t.2.2.1, t.2.2.2⟩

/-- The moment of a timestamp, if there is one. -/
def ofTimestamp? (timestamp : Int) : Option Moment :=
  (Date.ofNumber? (timestamp / 86400 + Moment.epoch)).map fun d =>
    let s := (timestamp % 86400).toNat
    ⟨d, s / 3600, s / 60 % 60, s % 60, 0⟩

/-- **The moment of a timestamp**, made to agree with what else was found. A leap second has the
timestamp of the second before it or of the one after it. -/
def ofTimestamp (found : Found) (timestamp : Int) : Except MomentFault Moment := do
  let given (timestamp : Int) : Except MomentFault Moment :=
    match ofTimestamp? timestamp with
    | none => .error .outOfRange
    | some m => .ok m
  let m ← given timestamp
  let m ←
    if found.second = some 60 then
      if m.second = 59 then pure m
      else if m.second = 0 then given (timestamp - 1)
      else throw .impossible
    else pure m
  let found ← if found.second = some 60 then pure found else found.set .second m.second
  let found ← found.set .year m.date.year
  let found ← found.set .ordinal m.date.ordinal
  let found ← found.set .hour m.hour
  let found ← found.set .minute m.minute
  return join (← found.date) (← found.time)

/-- **The moment that was found.** Of two faults, the date's is told first; with a timestamp at
hand, a fault stops the reading only if more information could not mend it. -/
def moment (found : Found) : Except MomentFault Moment :=
  match found.date, found.time, found.timestamp with
  | .ok d, .ok t, timestamp =>
    let m := join d t
    match timestamp with
    | none => .ok m
    | some given =>
      if given = m.timestamp ∨ (1000000000 ≤ m.nanosecond ∧ given = m.timestamp + 1) then .ok m
      else .error .impossible
  | d, t, some timestamp =>
    let fault {α : Type} (x : Except MomentFault α) (f : MomentFault) : Bool :=
      match x with
      | .error g => f = g
      | .ok _ => false
    if fault d .outOfRange || fault t .outOfRange then .error .outOfRange
    else if fault d .impossible || fault t .impossible then .error .impossible
    else found.ofTimestamp timestamp
  | .error fault, _, none => .error fault
  | .ok _, .error fault, none => .error fault

end Found

end QueryGate.Calendar
