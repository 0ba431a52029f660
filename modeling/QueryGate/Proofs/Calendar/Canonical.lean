import QueryGate.Proofs.Calendar.Echo

/-!
# Canonical texts

A text is made canonical by being read as a moment and written again. A canonical text is its own
canonical text (`QueryGate.Calendar.canonical_canonical`), and the texts that have one canonical
text are the spellings of one moment (`QueryGate.Calendar.canonical_eq_iff_read`). For both it is
enough that what is written is read as the same moment (`QueryGate.Calendar.read_of_write?`).

That is not so for every pattern. The pattern has to be *legible*
(`QueryGate.Calendar.Legible`), so that each part is read as it was written, and *complete*
(`QueryGate.Calendar.Complete`), so that the parts together tell the moment.

## What is told

Reading gathers quantities, and the moment is made of them afterwards. When a text is read that was
written of a moment, all that is gathered is true of that moment, and it is settled by which
quantities were told so far (`QueryGate.Calendar.Found.about`). Each part of the pattern adds its
quantities, and by induction on the pattern all of them are told
(`QueryGate.Calendar.readParts_of_write?`). A year, a month, a day and a time of day tell the moment
(`QueryGate.Calendar.Found.moment_about`), if it is one of the calendar.

## Fractions

A pattern without a fraction loses the fraction of a moment. No harm is done: by such a pattern no
text is read as a moment with a fraction (`QueryGate.Calendar.Complete.nanosecond`).
-/

namespace QueryGate

/-- **The number that a quantity of two digits is.** -/
def Moment.short (m : Moment) : Calendar.Quantity → Nat
  | .month => m.date.month
  | .day => m.date.day
  | .hour => m.hour
  | .minute => m.minute
  | .second => m.second + m.nanosecond / 1000000000
  | _ => 0

namespace Calendar

/-! ### What is told -/

/-- The quantities of a date and a time of day that have two digits. -/
def shortQuantities : List Quantity := [.month, .day, .hour, .minute, .second]

/-- The quantities that a part tells. -/
def Part.quantities : Part → List Quantity
  | .quantity q _ => [q]
  | .fraction => [.nanosecond]
  | _ => []

namespace Found

/-- **What some quantities of a moment tell about it.** A fraction of a second that is zero is not
told. -/
def about (m : Moment) (qs : List Quantity) : Found where
  year := if .year ∈ qs then some m.date.year else none
  month := if .month ∈ qs then some m.date.month else none
  day := if .day ∈ qs then some m.date.day else none
  half := if .hour ∈ qs then some (m.hour / 12) else none
  hourOfHalf := if .hour ∈ qs then some (m.hour % 12) else none
  minute := if .minute ∈ qs then some m.minute else none
  second := if .second ∈ qs then some (m.second + m.nanosecond / 1000000000) else none
  nanosecond :=
    if .nanosecond ∈ qs ∧ m.nanosecond % 1000000000 ≠ 0 then some (m.nanosecond % 1000000000)
    else none

variable {m : Moment} {qs : List Quantity}

/-- What is true agrees with what was found. -/
theorem agree_self {α : Type} [DecidableEq α] {p : Prop} [Decidable p] (a : α) :
    agree (if p then some a else none) a = .ok (some a) := by
  by_cases h : p
  · rw [if_pos h, agree, if_pos rfl]
  · rw [if_neg h, agree]

/-- A natural number within bounds. -/
theorem natWithin_natCast {least greatest n : Nat} (h : least ≤ n ∧ n ≤ greatest) :
    natWithin least greatest n = .ok n := by
  rw [natWithin, within, if_pos (by omega)]
  rfl

/-- A leap second is the sixtieth of its minute. -/
theorem second_le (hm : m.Proper) : m.second + m.nanosecond / 1000000000 ≤ 60 := by
  have hsecond := hm.second
  have hnano := hm.nanosecond
  have hleap := hm.leap
  omega

theorem set_year (hm : m.Proper) (qs : List Quantity) :
    (about m qs).set .year m.date.year = .ok (about m (qs ++ [.year])) := by
  have hyear : within (-greatestYear - 1) greatestYear m.date.year = .ok m.date.year := by
    refine if_pos ?_
    have hrange := hm.date.year
    have hbounds : -greatestYear - 1 ≤ Date.firstYear ∧ Date.lastYear ≤ greatestYear := by
      decide
    omega
  simp only [set, hyear]
  simp [about, agree_self, bind, Except.bind, pure, Except.pure]

/-- **A quantity of two digits is found**, whatever was found of the same moment before. -/
theorem set_short (hm : m.Proper) {q : Quantity} (hq : q ∈ shortQuantities) (qs : List Quantity) :
    (about m qs).set q (m.short q) = .ok (about m (qs ++ [q])) := by
  have hmonth := natWithin_natCast hm.date.month
  have hday : natWithin 1 31 m.date.day = .ok m.date.day :=
    natWithin_natCast ⟨hm.date.day.1, Nat.le_trans hm.date.day.2 (Date.monthLength_le _ _)⟩
  have hhour : natWithin 0 23 m.hour = .ok m.hour :=
    natWithin_natCast ⟨Nat.zero_le _, Nat.le_of_lt_succ hm.hour⟩
  have hminute : natWithin 0 59 m.minute = .ok m.minute :=
    natWithin_natCast ⟨Nat.zero_le _, Nat.le_of_lt_succ hm.minute⟩
  have hsecond : natWithin 0 60 (m.second + m.nanosecond / 1000000000 : Nat) = .ok _ :=
    natWithin_natCast ⟨Nat.zero_le _, second_le hm⟩
  simp only [shortQuantities, List.mem_cons, List.not_mem_nil, or_false] at hq
  rcases hq with rfl | rfl | rfl | rfl | rfl
  · simp only [set, Moment.short, hmonth, setMonth]
    simp [about, agree_self, bind, Except.bind, pure, Except.pure]
  · simp only [set, Moment.short, hday]
    simp [about, agree_self, bind, Except.bind, pure, Except.pure]
  · simp only [set, Moment.short, hhour, setHalf, setHourOfHalf]
    simp [about, agree_self, bind, Except.bind, pure, Except.pure]
  · simp only [set, Moment.short, hminute]
    simp [about, agree_self, bind, Except.bind, pure, Except.pure]
  · simp only [set, Moment.short, hsecond]
    simp [about, agree_self, bind, Except.bind, pure, Except.pure]

theorem setNanosecond_about (h : m.nanosecond % 1000000000 ≠ 0) (qs : List Quantity) :
    (about m qs).setNanosecond (m.nanosecond % 1000000000) =
      .ok (about m (qs ++ [.nanosecond])) := by
  simp only [setNanosecond]
  simp [about, agree_self, bind, Except.bind, pure, Except.pure, h]

/-- The time of day that is found where an hour, a minute and a second are. -/
theorem time_eq {found : Found} {half hour minute second : Nat} (hhalf : found.half = some half)
    (hhour : found.hourOfHalf = some hour) (hminute : found.minute = some minute)
    (hsecond : found.second = some second) :
    found.time = .ok (half * 12 + hour, minute, if second = 60 then 59 else second,
      (if second = 60 then 1000000000 else 0) + found.nanosecond.getD 0) := by
  unfold time
  simp only [hhalf, hhour, hminute, hsecond]
  cases found.nanosecond <;> by_cases hsixty : second = 60 <;> simp [hsixty]

/-- **The date of a moment is found** from its year, its month and its day. -/
theorem date_about (hm : m.Proper) (hyear : .year ∈ qs) (hshort : ∀ q ∈ shortQuantities, q ∈ qs) :
    (about m qs).date = .ok m.date := by
  have hmonth := hshort .month (by decide)
  have hday := hshort .day (by decide)
  have hfound := hm.date.ofMonthDay?_eq
  simp only [date, about, hyear, hmonth, hday, if_true, resolveYear]
  simp [bind, Except.bind, hfound, orOutOfRange, verified, fitsWeek, fitsOrdinal, fits, fitsPart]

/-- **The time of day of a moment is found**, if its fraction of a second is told or there is
none. -/
theorem time_about (hm : m.Proper) (hshort : ∀ q ∈ shortQuantities, q ∈ qs)
    (hfraction : .nanosecond ∈ qs ∨ m.nanosecond % 1000000000 = 0) :
    (about m qs).time = .ok (m.hour, m.minute, m.second, m.nanosecond) := by
  have hhour := hshort .hour (by decide)
  have hminute := hshort .minute (by decide)
  have hsecond := hshort .second (by decide)
  have hnano : (about m qs).nanosecond.getD 0 = m.nanosecond % 1000000000 := by
    by_cases hzero : m.nanosecond % 1000000000 = 0
    · simp [about, hzero]
    · simp [about, hzero, hfraction.resolve_right hzero]
  have htime := @time_eq (about m qs) (m.hour / 12) (m.hour % 12) m.minute
    (m.second + m.nanosecond / 1000000000) (if_pos hhour) (if_pos hhour) (if_pos hminute)
    (if_pos hsecond)
  have hleap := hm.leap
  have hlast := hm.second
  have hbound := hm.nanosecond
  rw [htime, hnano, Except.ok.injEq, Prod.mk.injEq, Prod.mk.injEq, Prod.mk.injEq]
  refine ⟨Nat.div_add_mod' m.hour 12, rfl, ?_, ?_⟩
  · split <;> omega
  · split <;> omega

/-- **What the quantities of a date and a time of day tell is the moment.** -/
theorem moment_about (hm : m.Proper) (hyear : .year ∈ qs) (hshort : ∀ q ∈ shortQuantities, q ∈ qs)
    (hfraction : .nanosecond ∈ qs ∨ m.nanosecond % 1000000000 = 0) :
    (about m qs).moment = .ok m := by
  have htimestamp : (about m qs).timestamp = none := rfl
  unfold moment
  rw [date_about hm hyear hshort, time_about hm hshort hfraction, htimestamp]
  rfl

end Found

variable {m : Moment} {parts : List Part}

/-! ### Legible patterns -/

/-- **Patterns whose moments can be read back**: a year ends where a character of the pattern that
is no digit follows it, blanks stand before a quantity and a fraction comes last. -/
inductive Legible : List Part → Prop
  /-- The end of the pattern. -/
  | nil : Legible []
  /-- Characters of the pattern. -/
  | literal (cs : List Char) {parts : List Part} (h : Legible parts) :
      Legible (.literal cs :: parts)
  /-- A year before characters of the pattern. -/
  | year {c : Char} {cs : List Char} {parts : List Part} (hc : c.isDigit = false)
      (h : Legible (.literal (c :: cs) :: parts)) :
      Legible (.quantity .year .zero :: .literal (c :: cs) :: parts)
  /-- A quantity of two digits. -/
  | two {q : Quantity} {parts : List Part} (hq : q ∈ shortQuantities) (h : Legible parts) :
      Legible (.quantity q .zero :: parts)
  /-- Blanks before a quantity. -/
  | blanks {cs : List Char} {q : Quantity} {parts : List Part}
      (hcs : ∀ c ∈ cs, CharClass.isBlank c = true) (h : Legible (.quantity q .zero :: parts)) :
      Legible (.blanks cs :: .quantity q .zero :: parts)
  /-- A fraction at the end. -/
  | fraction : Legible [.fraction]

/-- A part that is read takes the reading on to the next one. -/
theorem readParts_cons {found found' : Found} {part : Part} {cs rest : List Char}
    (h : readPart found part cs = .ok (found', rest)) :
    readParts found (part :: parts) cs = readParts found' parts rest := by
  rw [readParts, h]
  rfl

/-- A year that has dates is not too great to be read. -/
theorem natAbs_year_le (hm : m.Proper) : m.date.year.natAbs ≤ greatestNumber := by
  have hrange := hm.date.year
  have hfirst : Date.firstYear = -262143 := rfl
  have hlast : Date.lastYear = 262142 := rfl
  have hgreatest : 262143 ≤ greatestNumber := by
    decide
  omega

/-- A quantity that is read is found. -/
theorem readPart_quantity {found found' : Found} {q : Quantity} {pad : Pad} {n : Int}
    {cs rest : List Char} (hread : readQuantity q cs = .ok (n, rest))
    (hset : found.set q n = .ok found') :
    readPart found (.quantity q pad) cs = .ok (found', rest) := by
  rw [readPart, hread]
  change (found.set q n >>= fun found => pure (found, rest)) = .ok (found', rest)
  rw [hset]
  rfl

/-- A fraction that is read is found. -/
theorem readPart_point {found found' : Found} {n : Nat} {cs rest : List Char}
    (hread : readFraction cs = .ok (n, rest)) (hset : found.setNanosecond n = .ok found') :
    readPart found .fraction ('.' :: cs) = .ok (found', rest) := by
  change (readFraction cs >>= fun taken =>
    found.setNanosecond taken.1 >>= fun found => pure (found, taken.2)) = .ok (found', rest)
  rw [hread]
  change (found.setNanosecond n >>= fun found => pure (found, rest)) = .ok (found', rest)
  rw [hset]
  rfl

/-- A pattern is written part by part. -/
theorem write?_cons_eq_some_iff {part : Part} {text : List Char} :
    write? m (part :: parts) = some text ↔
      ∃ first rest, writePart? m part = some first ∧ write? m parts = some rest ∧
        text = first ++ rest := by
  rw [write?]
  cases writePart? m part with
  | none => simp
  | some first => cases write? m parts <;> simp [eq_comm]

/-- **A quantity of two digits is read as it was written**, and is found. -/
theorem readPart_short (hm : m.Proper) {q : Quantity} (hq : q ∈ shortQuantities)
    (qs : List Quantity) (rest : List Char) :
    readPart (Found.about m qs) (.quantity q .zero) (writeQuantity m .zero q ++ rest) =
      .ok (Found.about m (qs ++ [q]), rest) := by
  have hshort : writeQuantity m .zero q = writeTwo .zero (m.short q) ∧ q.width = some 2 ∧
      m.short q < 100 := by
    have hmonth := hm.date.month.2
    have hday := Nat.le_trans hm.date.day.2 (Date.monthLength_le _ _)
    have hhour := hm.hour
    have hminute := hm.minute
    have hsecond := Found.second_le hm
    simp only [shortQuantities, List.mem_cons, List.not_mem_nil, or_false] at hq
    rcases hq with rfl | rfl | rfl | rfl | rfl
    · exact ⟨rfl, rfl, Nat.lt_of_le_of_lt hmonth (by decide)⟩
    · exact ⟨rfl, rfl, Nat.lt_of_le_of_lt hday (by decide)⟩
    · exact ⟨rfl, rfl, Nat.lt_trans hhour (by decide)⟩
    · exact ⟨rfl, rfl, Nat.lt_trans hminute (by decide)⟩
    · exact ⟨rfl, rfl, Nat.lt_of_le_of_lt hsecond (by decide)⟩
  obtain ⟨hwrite, hwidth, hlt⟩ := hshort
  rw [hwrite]
  exact readPart_quantity (readQuantity_writeTwo hwidth hlt) (Found.set_short hm hq qs)

/-- **A year is read as it was written**, and is found. -/
theorem readPart_year (hm : m.Proper) (qs : List Quantity) {rest : List Char}
    (hrest : ∀ c ∈ rest.head?, c.isDigit = false) :
    readPart (Found.about m qs) (.quantity .year .zero) (writeQuantity m .zero .year ++ rest) =
      .ok (Found.about m (qs ++ [.year]), rest) :=
  readPart_quantity (readQuantity_writeYear (natAbs_year_le hm) hrest) (Found.set_year hm qs)

/-- **A fraction is read as it was written**, and is found unless it is zero. -/
theorem readPart_fraction (qs : List Quantity) :
    readPart (Found.about m qs) .fraction (writeFraction m) =
      .ok (Found.about m (qs ++ [.nanosecond]), []) := by
  rcases writeFraction_eq m with ⟨hzero, hnone⟩ | ⟨hnonzero, k, hk, hdvd, hsome⟩
  · have hsame : Found.about m (qs ++ [.nanosecond]) = Found.about m qs := by
      simp [Found.about, hzero]
    rw [hnone, hsame]
    rfl
  · rw [hsome]
    exact readPart_point (readFraction_fractionDigits hk hdvd)
      (Found.setNanosecond_about hnonzero qs)

/-- **What was written by a legible pattern tells its quantities**, when it is read. -/
theorem readParts_of_write? (hm : m.Proper) (h : Legible parts) {text : List Char}
    (hwrite : write? m parts = some text) (qs : List Quantity) :
    readParts (Found.about m qs) parts text =
      .ok (Found.about m (qs ++ parts.flatMap Part.quantities)) := by
  -- each part adds to what was told, so the induction is for all that was told before
  induction h generalizing qs text with
  | nil =>
    obtain rfl := Option.some.inj hwrite
    rw [List.flatMap_nil, List.append_nil]
    rfl
  | @literal cs parts h ih =>
    obtain ⟨first, rest, hfirst, hrest, rfl⟩ := write?_cons_eq_some_iff.mp hwrite
    obtain rfl := Option.some.inj hfirst
    rw [readParts_cons (by rw [readPart, readLiteral_append]; rfl)]
    exact ih hrest qs
  | @year c cs parts hc h ih =>
    obtain ⟨first, rest, hfirst, hrest, rfl⟩ := write?_cons_eq_some_iff.mp hwrite
    obtain rfl := Option.some.inj hfirst
    obtain ⟨second, rest', hsecond, -, rfl⟩ := write?_cons_eq_some_iff.mp hrest
    obtain rfl := Option.some.inj hsecond
    -- the digits of the year end with the character that follows it
    have hnext : ∀ d ∈ (c :: cs ++ rest').head?, d.isDigit = false := fun d hd =>
      Option.some.inj hd ▸ hc
    rw [readParts_cons (readPart_year hm qs hnext), ih hrest, List.append_assoc]
    rfl
  | @two q parts hq h ih =>
    obtain ⟨first, rest, hfirst, hrest, rfl⟩ := write?_cons_eq_some_iff.mp hwrite
    obtain rfl := Option.some.inj hfirst
    rw [readParts_cons (readPart_short hm hq qs rest), ih hrest, List.append_assoc]
    rfl
  | @blanks cs q parts hcs h ih =>
    obtain ⟨first, rest, hfirst, hrest, rfl⟩ := write?_cons_eq_some_iff.mp hwrite
    obtain rfl := Option.some.inj hfirst
    obtain ⟨second, rest', hsecond, -, rfl⟩ := write?_cons_eq_some_iff.mp hrest
    obtain rfl := Option.some.inj hsecond
    obtain ⟨c, ds, hquantity, hc⟩ := exists_writeQuantity_eq_cons m q
    have hskip : skipBlanks (cs ++ (writeQuantity m .zero q ++ rest')) =
        writeQuantity m .zero q ++ rest' := by
      rw [hquantity]
      exact skipBlanks_append hcs hc
    rw [readParts_cons (by rw [readPart, hskip]), ih hrest]
    rfl
  | fraction =>
    obtain ⟨first, rest, hfirst, hrest, rfl⟩ := write?_cons_eq_some_iff.mp hwrite
    obtain rfl := Option.some.inj hfirst
    obtain rfl := Option.some.inj hrest
    rw [List.append_nil, readParts_cons (readPart_fraction qs)]
    rfl

/-! ### Texts that are read -/

/-- **That a pattern tells a date and a time of day**, with a fraction of a second as fine as it is
read, or with none. -/
structure Complete (parts : List Part) : Prop where
  /-- The year is told. -/
  year : .year ∈ parts.flatMap Part.quantities
  /-- So are the quantities of two digits. -/
  short : ∀ q ∈ shortQuantities, q ∈ parts.flatMap Part.quantities
  /-- A fraction that is read is told. -/
  fraction : .nanosecond ∈ parts.flatMap Part.quantities ∨ ∀ part ∈ parts, part.fractionDigits = 0

/-- A legible pattern asks for nine digits of a fraction at most. -/
theorem Legible.fractionDigits_le (h : Legible parts) :
    ∀ part ∈ parts, part.fractionDigits ≤ 9 := by
  induction h with
  | nil => exact nofun
  | literal cs h ih => exact List.forall_mem_cons.mpr ⟨Nat.zero_le 9, ih⟩
  | year hc h ih => exact List.forall_mem_cons.mpr ⟨Nat.zero_le 9, ih⟩
  | @two q parts hq h ih =>
    refine List.forall_mem_cons.mpr ⟨?_, ih⟩
    cases q <;> decide
  | blanks hcs h ih => exact List.forall_mem_cons.mpr ⟨Nat.zero_le 9, ih⟩
  | fraction => exact List.forall_mem_singleton.mpr (Nat.le_refl 9)

/-- A fraction that a complete pattern does not tell is zero. -/
theorem Complete.nanosecond (h : Complete parts) {text : String} (hread : read parts text = .ok m) :
    .nanosecond ∈ parts.flatMap Part.quantities ∨ m.nanosecond % 1000000000 = 0 := by
  refine h.fraction.imp id fun hnone => ?_
  have htold : m.Told 0 :=
    told_read (Nat.zero_le 9) (fun part hpart => Nat.le_of_eq (hnone part hpart)) hread
  exact Nat.mod_eq_zero_of_dvd htold.fraction

/-- **What was read and is written is read as the same moment.** -/
theorem read_of_write? (hlegible : Legible parts) (hcomplete : Complete parts) {text : String}
    (hread : read parts text = .ok m) {written : String}
    (hwrite : write? m parts = some written.toList) : read parts written = .ok m := by
  have hproper : m.Proper :=
    (told_read (Nat.le_refl 9) hlegible.fractionDigits_le hread).toProper
  have hnothing : Found.about m [] = {} := by
    simp [Found.about]
  have hparts := readParts_of_write? hproper hlegible hwrite []
  rw [hnothing] at hparts
  rw [read, hparts]
  exact Found.moment_about hproper hcomplete.year hcomplete.short (hcomplete.nanosecond hread)

/-- **What the canonical text of a text is**: the text of the moment that it spells. -/
theorem canonical_eq_ok_iff {pattern text canonicalText : String} :
    canonical pattern text = .ok canonicalText ↔
      ∃ m, read (Calendar.parts pattern.toList) text = .ok m ∧
        write? m (Calendar.parts pattern.toList) = some canonicalText.toList := by
  rw [canonical]
  generalize Calendar.parts pattern.toList = parts
  cases read parts text with
  | error fault => simp
  | ok m =>
    simp only [Except.ok.injEq, exists_eq_left']
    cases write? m parts with
    | none => exact iff_of_false (fun h => nomatch h) (fun h => nomatch h)
    | some cs =>
      simp only [Except.ok.injEq, Option.some.injEq, ← String.toList_inj, String.toList_ofList]

/-! ### Patterns that can be written -/

/-- Whether every moment can be written by a part: the part does not speak of a time zone. -/
def Part.isWritable : Part → Bool
  | .zone _ | .malformed => false
  | _ => true

/-- A moment can be written by parts if it can be by each of them. -/
theorem exists_write? (m : Moment) {parts : List Part}
    (h : ∀ part ∈ parts, part.isWritable = true) : ∃ text, write? m parts = some text := by
  induction parts with
  | nil => exact ⟨[], rfl⟩
  | cons part rest ih =>
    obtain ⟨hpart, hrest⟩ := List.forall_mem_cons.mp h
    obtain ⟨behind, hbehind⟩ := ih hrest
    obtain ⟨front, hfront⟩ : ∃ front, writePart? m part = some front := by
      cases part with
      | zone _ | malformed => cases hpart
      | fixedFraction digits dotted => cases dotted <;> exact ⟨_, rfl⟩
      | _ => exact ⟨_, rfl⟩
    exact ⟨front ++ behind, by rw [write?, hfront, hbehind]; rfl⟩

/-- **A pattern without time zones** does not end the run, whatever the text. -/
theorem canonical_ne_abandoned {pattern : String}
    (h : ∀ part ∈ Calendar.parts pattern.toList, part.isWritable = true) (text : String) :
    canonical pattern text ≠ .error .abandoned := by
  rw [canonical]
  split
  · simp
  · next m hread =>
    obtain ⟨cs, hcs⟩ := exists_write? m h
    simp [hcs]

/-- A text that is read by a pattern with a time zone, and that there is no way to write again. -/
example : canonical "%Y-%m-%dT%H:%M:%S%z" "2024-01-15T10:30:00+0000" = .error .abandoned := by
  with_unfolding_all rfl

section Pattern

variable {pattern text canonicalText : String}
variable (hlegible : Legible (Calendar.parts pattern.toList))
variable (hcomplete : Complete (Calendar.parts pattern.toList))
include hlegible hcomplete

/-- **What has a canonical text in common** are the spellings of one moment. -/
theorem canonical_eq_iff_read (h : canonical pattern text = .ok canonicalText)
    (hread : read (Calendar.parts pattern.toList) text = .ok m) (other : String) :
    canonical pattern other = .ok canonicalText ↔
      read (Calendar.parts pattern.toList) other = .ok m := by
  obtain ⟨m', hread', hwrite⟩ := canonical_eq_ok_iff.mp h
  obtain rfl : m = m' := Except.ok.inj (hread.symm.trans hread')
  constructor
  · intro hother
    obtain ⟨m', hread', hwrite'⟩ := canonical_eq_ok_iff.mp hother
    have hback := read_of_write? hlegible hcomplete hread hwrite
    have hback' := read_of_write? hlegible hcomplete hread' hwrite'
    rwa [Except.ok.inj (hback.symm.trans hback')]
  · intro hother
    exact canonical_eq_ok_iff.mpr ⟨m, hother, hwrite⟩

/-- **A canonical text is its own canonical text.** -/
theorem canonical_canonical (h : canonical pattern text = .ok canonicalText) :
    canonical pattern canonicalText = .ok canonicalText := by
  obtain ⟨m, hread, hwrite⟩ := canonical_eq_ok_iff.mp h
  exact canonical_eq_ok_iff.mpr ⟨m, read_of_write? hlegible hcomplete hread hwrite, hwrite⟩

end Pattern

/-! ### Characters -/

/-- Whether a part is written with digits and signs, apart from its own characters. -/
def Part.isNumeric : Part → Bool
  | .literal _ | .blanks _ | .quantity _ .zero | .fraction => true
  | _ => false

/-- The characters that a part may have besides digits and signs. -/
def Part.characters : Part → List Char
  | .literal cs | .blanks cs => cs
  | .fraction => ['.']
  | _ => []

/-- The characters of one part. -/
theorem of_mem_writePart? {part : Part} (hpart : part.isNumeric = true) {text : List Char}
    (hwrite : writePart? m part = some text) {c : Char} (hc : c ∈ text) :
    IsNumeric c ∨ c ∈ part.characters := by
  cases part with
  | literal cs | blanks cs =>
    obtain rfl := Option.some.inj hwrite
    exact Or.inr hc
  | quantity q pad =>
    obtain rfl := Option.some.inj hwrite
    cases pad with
    | zero => exact Or.inl (isNumeric_of_mem_writeQuantity hc)
    | _ => cases hpart
  | fraction =>
    obtain rfl := Option.some.inj hwrite
    exact (of_mem_writeFraction hc).imp Or.inl List.mem_singleton.mpr
  | _ => cases hpart

/-- **The characters of a moment**: digits, signs and those that the parts of the pattern have. -/
theorem of_mem_write? (hparts : ∀ part ∈ parts, part.isNumeric = true) {text : List Char}
    (hwrite : write? m parts = some text) {c : Char} (hc : c ∈ text) :
    IsNumeric c ∨ c ∈ parts.flatMap Part.characters := by
  induction parts generalizing text with
  | nil =>
    obtain rfl := Option.some.inj hwrite
    cases hc
  | cons part parts ih =>
    obtain ⟨hpart, hparts⟩ := List.forall_mem_cons.mp hparts
    obtain ⟨first, rest, hfirst, hrest, rfl⟩ := write?_cons_eq_some_iff.mp hwrite
    rw [List.flatMap_cons, List.mem_append]
    rcases List.mem_append.mp hc with hc | hc
    · exact (of_mem_writePart? hpart hfirst hc).imp id Or.inl
    · exact (ih hparts hrest hc).imp id Or.inr

end Calendar

end QueryGate
