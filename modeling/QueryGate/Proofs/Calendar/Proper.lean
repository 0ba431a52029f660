import Mathlib.Tactic.ByContra
import QueryGate.Calendar.Reading
import QueryGate.Proofs.Number.Numeral

/-!
# What is read is a moment of the calendar

Whatever the pattern and whatever the text, a moment that is read is one of the calendar
(`QueryGate.Moment.Proper`): the month has the day, the time of day is within bounds, and only the
last second of a minute may be a leap second. Moreover the moment has no finer fraction of a second
than the pattern asks for (`QueryGate.Calendar.told_read`).

## Where the bounds come from

A date is never trusted, whatever it is found by: all ways to find one end with a month and a day
that are looked up in the calendar. So nothing has to be known of what was found. The time of day is
put together as it was found, and for it there is an invariant (`QueryGate.Calendar.Found.Sound`):
each quantity was checked when it was found. One quantity more keeps the invariant
(`QueryGate.Calendar.Found.Sound.gives_set`), so one part of the pattern does
(`QueryGate.Calendar.gives_readPart`), and so does the whole pattern, by induction on its parts.

Reading may fail at every step, and what is said here is said of a result, if there is one. That is
`QueryGate.Gives`, which is closed under doing one thing after another.
-/

namespace QueryGate

/-! ### Results -/

section Gives

variable {ε α β : Type} {x : Except ε α} {f : α → Except ε β} {P : α → Prop} {Q : β → Prop}

/-- **That a result has a property**, if there is one. -/
def Gives (x : Except ε α) (P : α → Prop) : Prop := ∀ a, x = .ok a → P a

theorem gives_ok {a : α} (h : P a) : Gives (.ok a : Except ε α) P := by
  intro b hb
  obtain rfl := Except.ok.inj hb
  exact h

theorem gives_error (e : ε) : Gives (.error e : Except ε α) P := fun _ h => nomatch h

/-- **One thing after another.** -/
theorem Gives.bind (hx : Gives x P) (hf : ∀ a, P a → Gives (f a) Q) : Gives (x >>= f) Q := by
  intro b hb
  cases x with
  | error e => cases hb
  | ok a => exact hf a (hx a rfl) b hb

/-- What is made of a result. -/
theorem Gives.map (hx : Gives x P) {g : α → β} (hg : ∀ a, P a → Q (g a)) : Gives (x.map g) Q := by
  intro b hb
  cases x with
  | error e => cases hb
  | ok a =>
    obtain rfl := Except.ok.inj hb
    exact hg a (hx a rfl)

/-- Whatever the first thing gives. -/
theorem gives_bind (hf : ∀ a, Gives (f a) Q) : Gives (x >>= f) Q :=
  Gives.bind (P := fun _ => True) (fun _ _ => trivial) fun a _ => hf a

end Gives

/-! ### Dates -/

namespace Date

/-- **That a date is one of the calendar.** -/
structure Proper (d : Date) : Prop where
  /-- The year is one that has dates. -/
  year : firstYear ≤ d.year ∧ d.year ≤ lastYear
  /-- The month has the day. -/
  day : 1 ≤ d.day ∧ d.day ≤ monthLength d.year d.month

variable {d : Date} {year : Int}

/-- A month has at most 31 days. -/
theorem monthLength_le (year : Int) (month : Nat) : monthLength year month ≤ 31 := by
  unfold monthLength
  split <;> try split
  all_goals decide

/-- A month with a day is one of twelve. -/
theorem Proper.month (h : d.Proper) : 1 ≤ d.month ∧ d.month ≤ 12 := by
  have hlength : monthLength d.year d.month ≠ 0 := by
    have := h.day
    omega
  by_contra hmonth
  refine hlength ?_
  unfold monthLength
  split <;> omega

/-- **The date of a month and a day is one of the calendar.** -/
theorem proper_of_ofMonthDay? {month day : Nat} (h : ofMonthDay? year month day = some d) :
    d.Proper := by
  rw [ofMonthDay?] at h
  split at h
  · next hproper =>
    obtain rfl := Option.some.inj h
    exact ⟨⟨hproper.1, hproper.2.1⟩, hproper.2.2⟩
  · cases h

/-- A date of the calendar is found by its month and day. -/
theorem Proper.ofMonthDay?_eq (h : d.Proper) : ofMonthDay? d.year d.month d.day = some d :=
  if_pos ⟨h.year.1, h.year.2, h.day⟩

/-- A date found by its place in the year is found by a month and a day. -/
theorem proper_of_ofOrdinal? {place : Nat} (h : ofOrdinal? year place = some d) : d.Proper := by
  obtain ⟨month, -, hmonth⟩ := List.exists_of_findSome?_eq_some h
  split at hmonth
  · exact proper_of_ofMonthDay? hmonth
  · cases hmonth

/-- A date found by its week is found by its number, and that by its place in a year. -/
theorem proper_of_ofWeek? {week weekday : Nat} (h : ofWeek? year week weekday = some d) :
    d.Proper := by
  rw [ofWeek?] at h
  split at h
  · exact proper_of_ofOrdinal? h
  · cases h

end Date

/-! ### Moments -/

/-- **That a moment is one of the calendar.** -/
structure Moment.Proper (m : Moment) : Prop where
  /-- The date is one of the calendar. -/
  date : m.date.Proper
  /-- The hour is one of a day. -/
  hour : m.hour < 24
  /-- The minute is one of an hour. -/
  minute : m.minute < 60
  /-- The second is one of a minute. -/
  second : m.second < 60
  /-- Nanoseconds make at most a second and a leap second. -/
  nanosecond : m.nanosecond < 2000000000
  /-- A leap second comes last in its minute. -/
  leap : 1000000000 ≤ m.nanosecond → m.second = 59

/-- **That a moment of the calendar is told with so many digits** behind the second, or with
fewer. -/
structure Moment.Told (digits : Nat) (m : Moment) : Prop extends m.Proper where
  /-- The nanosecond is a multiple of what the last of these digits counts. -/
  fraction : 10 ^ (9 - digits) ∣ m.nanosecond

namespace Calendar

namespace Found

/-- **That the time of day that was found is within bounds**, and that it is told with a number of
digits behind the second at most. -/
structure Sound (digits : Nat) (found : Found) : Prop where
  /-- A day has two halves. -/
  half : ∀ n ∈ found.half, n < 2
  /-- Each half has twelve hours. -/
  hourOfHalf : ∀ n ∈ found.hourOfHalf, n < 12
  /-- An hour has sixty minutes. -/
  minute : ∀ n ∈ found.minute, n < 60
  /-- A minute has sixty seconds and perhaps one more. -/
  second : ∀ n ∈ found.second, n ≤ 60
  /-- A fraction is less than a second. -/
  nanosecond : ∀ n ∈ found.nanosecond, n < 1000000000 ∧ 10 ^ (9 - digits) ∣ n

variable {found : Found} {digits : Nat}

/-! ### Dates that are found -/

/-- A date that is verified is the date. -/
theorem gives_verified {fits : Bool} {d : Date} (h : d.Proper) :
    Gives (found.verified fits d) Date.Proper := by
  rw [verified]
  split
  · exact gives_ok h
  · exact gives_error _

/-- A date that may not exist is one of the calendar if it exists. -/
theorem gives_orOutOfRange {o : Option Date} (h : ∀ d, o = some d → d.Proper) :
    Gives (orOutOfRange o) Date.Proper := by
  cases o with
  | none => exact gives_error _
  | some d => exact gives_ok (h d rfl)

/-- The date of a day of the week in a counted week is found by its place in the year. -/
theorem gives_ofCountedWeek (year : Int) (week weekday start : Nat) :
    Gives (ofCountedWeek year week weekday start) Date.Proper := by
  unfold ofCountedWeek
  split
  · exact gives_error _
  · dsimp only
    split
    · exact gives_error _
    · split
      · exact gives_error _
      · next h => exact gives_ok (Date.proper_of_ofOrdinal? h)

/-- **A date that is found is one of the calendar**, whatever it is found by. -/
theorem gives_date (found : Found) : Gives found.date Date.Proper := by
  unfold date
  refine gives_bind fun year => gives_bind fun weekYear => ?_
  dsimp only
  split
  · exact (gives_orOutOfRange fun d => Date.proper_of_ofMonthDay?).bind fun d => gives_verified
  · exact (gives_orOutOfRange fun d => Date.proper_of_ofOrdinal?).bind fun d => gives_verified
  · split
    · exact (gives_ofCountedWeek _ _ _ 6).bind fun d => gives_verified
    · exact (gives_ofCountedWeek _ _ _ 0).bind fun d => gives_verified
    · exact (gives_orOutOfRange fun d => Date.proper_of_ofWeek?).bind fun d => gives_verified
    · exact gives_error _
  · exact gives_error _

/-! ### Quantities that are found -/

/-- What agrees with what was found is found. -/
theorem gives_agree {α : Type} [DecidableEq α] (old : Option α) (a : α) :
    Gives (agree old a) (· = some a) := by
  unfold agree
  split
  · exact gives_ok rfl
  · split
    · exact gives_ok rfl
    · exact gives_error _

/-- A value within bounds is within them. -/
theorem gives_natWithin (least greatest : Nat) (n : Int) :
    Gives (natWithin least greatest n) (· ≤ greatest) := by
  intro k hk
  rw [natWithin, within] at hk
  split at hk
  · next hbounds =>
    obtain rfl := Except.ok.inj hk
    omega
  · cases hk

/-- A half-day that is found. -/
theorem Sound.gives_setHalf (h : found.Sound digits) {half : Nat} (hhalf : half < 2) :
    Gives (found.setHalf half) (Sound digits) := by
  refine (gives_agree found.half half).bind ?_
  rintro _ rfl
  exact gives_ok ⟨fun n hn => Option.mem_some_iff.mp hn ▸ hhalf, h.hourOfHalf, h.minute, h.second,
    h.nanosecond⟩

/-- An hour of the half-day that is found. -/
theorem Sound.gives_setHourOfHalf (h : found.Sound digits) {hour : Nat} (hhour : hour < 12) :
    Gives (found.setHourOfHalf hour) (Sound digits) := by
  refine (gives_agree found.hourOfHalf hour).bind ?_
  rintro _ rfl
  exact gives_ok ⟨h.half, fun n hn => Option.mem_some_iff.mp hn ▸ hhour, h.minute, h.second,
    h.nanosecond⟩

/-- A nanosecond that is found. -/
theorem Sound.gives_setNanosecond (h : found.Sound digits) {n : Nat} (hn : n < 1000000000)
    (hdigits : 10 ^ (9 - digits) ∣ n) : Gives (found.setNanosecond n) (Sound digits) := by
  refine (gives_agree found.nanosecond n).bind ?_
  rintro _ rfl
  exact gives_ok ⟨h.half, h.hourOfHalf, h.minute, h.second,
    fun k hk => Option.mem_some_iff.mp hk ▸ ⟨hn, hdigits⟩⟩

/-- A day of the week does not matter for the time of day. -/
theorem Sound.gives_setWeekday (h : found.Sound digits) (weekday : Nat) :
    Gives (found.setWeekday weekday) (Sound digits) :=
  gives_bind fun _ => gives_ok ⟨h.half, h.hourOfHalf, h.minute, h.second, h.nanosecond⟩

/-- Neither does a month. -/
theorem Sound.gives_setMonth (h : found.Sound digits) (month : Nat) :
    Gives (found.setMonth month) (Sound digits) :=
  gives_bind fun _ => gives_ok ⟨h.half, h.hourOfHalf, h.minute, h.second, h.nanosecond⟩

/-- Nor does an offset. -/
theorem Sound.gives_setOffset (h : found.Sound digits) (seconds : Int) :
    Gives (found.setOffset seconds) (Sound digits) :=
  gives_bind fun _ => gives_ok ⟨h.half, h.hourOfHalf, h.minute, h.second, h.nanosecond⟩

/-- **A quantity that is found keeps the time of day within bounds.** -/
theorem Sound.gives_set (h : found.Sound digits) {q : Quantity} (n : Int)
    (hdigits : q = .nanosecond → digits = 9) : Gives (found.set q n) (Sound digits) := by
  cases q with
  | hour =>
    refine (gives_natWithin 0 23 n).bind fun hour hhour => ?_
    refine (h.gives_setHalf (by omega)).bind fun found' h' => ?_
    exact h'.gives_setHourOfHalf (Nat.mod_lt _ (by decide))
  | hour12 =>
    refine gives_bind fun hour => ?_
    exact h.gives_setHourOfHalf (Nat.mod_lt _ (by decide))
  | minute =>
    refine (gives_natWithin 0 59 n).bind fun minute hminute => ?_
    refine (gives_agree found.minute minute).bind ?_
    rintro _ rfl
    exact gives_ok ⟨h.half, h.hourOfHalf,
      fun k hk => Option.mem_some_iff.mp hk ▸ Nat.lt_succ_of_le hminute, h.second, h.nanosecond⟩
  | second =>
    refine (gives_natWithin 0 60 n).bind fun second hsecond => ?_
    refine (gives_agree found.second second).bind ?_
    rintro _ rfl
    exact gives_ok ⟨h.half, h.hourOfHalf, h.minute,
      fun k hk => Option.mem_some_iff.mp hk ▸ hsecond, h.nanosecond⟩
  | nanosecond =>
    obtain rfl := hdigits rfl
    refine (gives_natWithin 0 999999999 n).bind fun nano hnano => ?_
    exact h.gives_setNanosecond (Nat.lt_succ_of_le hnano) (Nat.one_dvd nano)
  | month => exact gives_bind fun month => h.gives_setMonth month
  | dayFromSunday => exact gives_bind fun day => h.gives_setWeekday _
  | dayFromMonday => exact gives_bind fun day => h.gives_setWeekday _
  | timestamp =>
    exact gives_bind fun _ => gives_ok ⟨h.half, h.hourOfHalf, h.minute, h.second, h.nanosecond⟩
  | _ =>
    exact gives_bind fun _ => gives_bind fun _ =>
      gives_ok ⟨h.half, h.hourOfHalf, h.minute, h.second, h.nanosecond⟩

/-! ### Moments that are found -/

/-- **The time of day that is found is within bounds.** -/
theorem Sound.gives_time (h : found.Sound digits) {d : Date} (hd : d.Proper) :
    Gives found.time fun t => (join d t).Told digits := by
  -- a leap second is a second more, which every fraction has a whole number of
  have hwhole : 10 ^ (9 - digits) ∣ 1000000000 := by
    have hpow : 10 ^ (9 - digits) ∣ 10 ^ 9 := Nat.pow_dvd_pow 10 (Nat.sub_le 9 digits)
    exact hpow
  have hfraction : ∀ nano : Option Nat, (∀ n ∈ nano, n < 1000000000 ∧ 10 ^ (9 - digits) ∣ n) →
      nano.getD 0 < 1000000000 ∧ 10 ^ (9 - digits) ∣ nano.getD 0 := by
    intro nano hnano
    cases nano with
    | none => exact ⟨by decide, Nat.dvd_zero _⟩
    | some n => exact hnano n rfl
  obtain ⟨hnano, hdvd⟩ := hfraction found.nanosecond h.nanosecond
  unfold time
  split
  · next half hour minute hhalf hhour hminute =>
    have hhalf' := h.half half hhalf
    have hhour' := h.hourOfHalf hour hhour
    have hminute' := h.minute minute hminute
    split
    next second extra htime =>
    have hsecond : second < 60 ∧ (extra = 0 ∨ extra = 1000000000 ∧ second = 59) := by
      split at htime
      · cases htime
        decide
      · next s hs =>
        have hle := h.second s hs
        split at htime <;> cases htime <;> omega
    split
    · exact gives_error _
    · refine gives_ok ⟨⟨hd, ?_, hminute', hsecond.1, ?_, ?_⟩, ?_⟩
      · change half * 12 + hour < 24
        omega
      · change extra + found.nanosecond.getD 0 < 2000000000
        omega
      · change 1000000000 ≤ extra + found.nanosecond.getD 0 → second = 59
        omega
      · refine Nat.dvd_add ?_ hdvd
        rcases hsecond.2 with rfl | ⟨rfl, -⟩
        · exact Nat.dvd_zero _
        · exact hwhole
  · exact gives_error _

/-- A date and a time of day that are found make a moment. -/
theorem Sound.gives_join (h : found.Sound digits) :
    Gives (do return join (← found.date) (← found.time)) (Moment.Told digits) :=
  (gives_date found).bind fun _ hd => (h.gives_time hd).bind fun _ ht => gives_ok ht

/-- A timestamp that is made to agree with what was found makes a moment. -/
theorem Sound.gives_ofTimestamp (h : found.Sound digits) (timestamp : Int) :
    Gives (found.ofTimestamp timestamp) (Moment.Told digits) := by
  have hrest : ∀ (found : Found) (m : Moment), found.Sound digits →
      Gives (do
        let found ← found.set .year m.date.year
        let found ← found.set .ordinal m.date.ordinal
        let found ← found.set .hour m.hour
        let found ← found.set .minute m.minute
        return join (← found.date) (← found.time)) (Moment.Told digits) := by
    intro found m h
    refine (h.gives_set (q := .year) _ nofun).bind fun found h => ?_
    refine (h.gives_set (q := .ordinal) _ nofun).bind fun found h => ?_
    refine (h.gives_set (q := .hour) _ nofun).bind fun found h => ?_
    refine (h.gives_set (q := .minute) _ nofun).bind fun found h => ?_
    exact h.gives_join
  unfold ofTimestamp
  refine gives_bind fun m => ?_
  dsimp only
  -- with a leap second the second is not set again, whichever moment it is of
  split
  · split
    · exact hrest found m h
    · split
      · exact gives_bind fun m => hrest found m h
      · exact gives_error _
  · exact (h.gives_set (q := .second) _ nofun).bind fun found h => hrest found m h

/-- **A moment that is found is one of the calendar.** -/
theorem Sound.gives_moment (h : found.Sound digits) : Gives found.moment (Moment.Told digits) := by
  unfold moment
  split
  · next d t hd ht =>
    have htold : (join d t).Told digits := h.gives_time (gives_date found d hd) t ht
    dsimp only
    split
    · exact gives_ok htold
    · split
      · exact gives_ok htold
      · exact gives_error _
  · dsimp only
    split
    · exact gives_error _
    · split
      · exact gives_error _
      · exact h.gives_ofTimestamp _
  · exact gives_error _
  · exact gives_error _

end Found

/-! ### Texts -/

/-- **How many digits behind the second a part asks for** at most. -/
def Part.fractionDigits : Part → Nat
  | .fraction | .quantity .nanosecond _ => 9
  | .fixedFraction digits _ => digits
  | _ => 0

variable {found : Found} {digits : Nat}

/-- The value of the digits that are read, and how many they are. -/
theorem gives_readNumber (least width : Nat) (cs : List Char) :
    Gives (readNumber least (some width) cs) fun taken =>
      taken.1 < 10 ^ (cs.length - taken.2.length) ∧ cs.length - taken.2.length ≤ width := by
  unfold readNumber
  dsimp only
  have hlength := (List.takeWhile_sublist CharClass.isAsciiDigit (l := cs.take width)).length_le
  rw [List.length_take] at hlength
  generalize (cs.take width).takeWhile CharClass.isAsciiDigit = ds at hlength ⊢
  split
  · exact gives_error _
  · split
    · refine gives_ok ?_
      have hlt := Decimal.value_lt ds
      have htaken : cs.length - (cs.drop ds.length).length = ds.length := by
        rw [List.length_drop]
        omega
      rw [htaken]
      exact ⟨hlt, by omega⟩
    · exact gives_error _

/-- Digits of a fraction, filled up to nine, are less than a second. -/
theorem mul_pow_lt {n k : Nat} (h : n < 10 ^ k) (hk : k ≤ 9) : n * 10 ^ (9 - k) < 1000000000 := by
  have hpow : 10 ^ k * 10 ^ (9 - k) = 10 ^ 9 := by
    rw [← Nat.pow_add, Nat.add_sub_cancel' hk]
  have hlt : n * 10 ^ (9 - k) < 10 ^ k * 10 ^ (9 - k) :=
    Nat.mul_lt_mul_of_pos_right h (Nat.pow_pos (by decide))
  rw [hpow] at hlt
  exact hlt

/-- A fraction is less than a second. -/
theorem gives_readFraction (cs : List Char) : Gives (readFraction cs) (·.1 < 1000000000) :=
  (gives_readNumber 1 9 cs).map fun _ h => mul_pow_lt h.1 h.2

/-- A fraction with a fixed number of digits is less than a second and has no more digits. -/
theorem gives_readFixedFraction {k : Nat} (hk : k ≤ 9) (cs : List Char) :
    Gives (readFixedFraction k cs) fun taken =>
      taken.1 < 1000000000 ∧ 10 ^ (9 - k) ∣ taken.1 := by
  refine (gives_readNumber k k cs).map fun taken h => ⟨mul_pow_lt ?_ hk, Nat.dvd_mul_left _ _⟩
  exact Nat.lt_of_lt_of_le h.1 (Nat.pow_le_pow_right (by decide) h.2)

/-- The half-day is one of two. -/
theorem gives_readHalf (cs : List Char) : Gives (readHalf cs) (·.1 < 2) := by
  unfold readHalf
  split
  · exact gives_error _
  · split
    · exact gives_ok Nat.zero_lt_two
    · split
      · exact gives_ok Nat.one_lt_two
      · exact gives_error _

/-- **A part that is read keeps the time of day within bounds.** -/
theorem gives_readPart (h : found.Sound digits) (hnine : digits ≤ 9) {part : Part}
    (hpart : part.fractionDigits ≤ digits) (cs : List Char) :
    Gives (readPart found part cs) (·.1.Sound digits) := by
  have hfixed : ∀ {k : Nat}, k ≤ digits → ∀ cs : List Char, Gives (do
      let taken ← readFixedFraction k cs
      return (← found.setNanosecond taken.1, taken.2)) (·.1.Sound digits) := by
    intro k hk cs
    refine (gives_readFixedFraction (Nat.le_trans hk hnine) cs).bind fun taken htaken => ?_
    have hdvd : 10 ^ (9 - digits) ∣ taken.1 :=
      Nat.dvd_trans (Nat.pow_dvd_pow 10 (Nat.sub_le_sub_left hk 9)) htaken.2
    exact (h.gives_setNanosecond htaken.1 hdvd).bind fun found h => gives_ok h
  cases part with
  | literal literal => exact gives_bind fun _ => gives_ok h
  | blanks cs => exact gives_ok h
  | quantity q pad =>
    refine gives_bind fun taken => ?_
    have hnano : q = .nanosecond → digits = 9 := by
      rintro rfl
      exact Nat.le_antisymm hnine hpart
    exact (h.gives_set taken.1 hnano).bind fun found h => gives_ok h
  | name name =>
    cases name with
    | shortMonth | longMonth =>
      exact gives_bind fun taken => (h.gives_setMonth _).bind fun found h => gives_ok h
    | shortWeekday | longWeekday =>
      exact gives_bind fun taken => (h.gives_setWeekday _).bind fun found h => gives_ok h
    | smallHalf | capitalHalf =>
      exact (gives_readHalf cs).bind fun taken htaken =>
        (h.gives_setHalf htaken).bind fun found h => gives_ok h
  | fraction =>
    obtain rfl : digits = 9 := Nat.le_antisymm hnine hpart
    unfold readPart
    dsimp only
    split
    · exact (gives_readFraction _).bind fun taken htaken =>
        (h.gives_setNanosecond htaken (Nat.one_dvd _)).bind fun found h => gives_ok h
    · exact gives_ok h
  | fixedFraction k point =>
    cases point with
    | true =>
      unfold readPart
      dsimp only
      split
      · exact hfixed hpart _
      · exact gives_ok h
    | false => exact hfixed hpart cs
  | zone zone =>
    cases zone with
    | name => exact gives_ok h
    | offset lenient =>
      exact gives_bind fun taken => (h.gives_setOffset _).bind fun found h => gives_ok h
    | mark => exact gives_bind fun _ => gives_ok h
    | universal =>
      unfold readPart
      dsimp only
      split
      · exact (h.gives_setOffset _).bind fun found h => gives_ok h
      · exact gives_bind fun taken => (h.gives_setOffset _).bind fun found h => gives_ok h
  | malformed => exact gives_error _

/-- **All parts of a pattern keep the time of day within bounds**, one after another. -/
theorem gives_readParts (h : found.Sound digits) (hnine : digits ≤ 9) {parts : List Part}
    (hparts : ∀ part ∈ parts, part.fractionDigits ≤ digits) (cs : List Char) :
    Gives (readParts found parts cs) (Found.Sound digits) := by
  induction parts generalizing found cs with
  | nil =>
    cases cs with
    | nil => exact gives_ok h
    | cons c cs => exact gives_error _
  | cons part parts ih =>
    obtain ⟨hpart, hparts⟩ := List.forall_mem_cons.mp hparts
    exact (gives_readPart h hnine hpart cs).bind fun taken h => ih h hparts taken.2

/-- **A moment that is read is one of the calendar**, and has no finer fraction of a second than
the parts of the pattern ask for. -/
theorem told_read (hnine : digits ≤ 9) {parts : List Part}
    (hparts : ∀ part ∈ parts, part.fractionDigits ≤ digits) {text : String} {m : Moment}
    (h : read parts text = .ok m) : m.Told digits := by
  have hnothing : Found.Sound digits {} := ⟨nofun, nofun, nofun, nofun, nofun⟩
  exact (gives_readParts hnothing hnine hparts text.toList).bind
    (fun found hfound => hfound.gives_moment) m h

end Calendar

end QueryGate
