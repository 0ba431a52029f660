import QueryGate.Calendar.Writing
import QueryGate.Proofs.Calendar.Proper

/-!
# What is written is read back

Each part of a pattern is read as it was written. Reading takes as much of the text as it can, so
this has to be said with the text that follows, and for each part there is a reason why its end is
found again:

* a quantity of two digits is filled up to its width, and no more digits are taken
  (`QueryGate.Calendar.readQuantity_writeTwo`);
* a year of four digits is filled up likewise, and any other year has a sign, which lifts the limit;
  its digits end where the text goes on with something else
  (`QueryGate.Calendar.readQuantity_writeYear`);
* characters of the pattern are met exactly (`QueryGate.Calendar.readLiteral_append`), and blanks
  end where a number begins (`QueryGate.Calendar.skipBlanks_append`);
* a fraction stands at the end of the text, and its value is that of its digits if none of the
  digits that were left out counts (`QueryGate.Calendar.readFraction_fractionDigits`).

All numbers come down to one lemma (`QueryGate.Calendar.readNumber_append`).
-/

namespace QueryGate.Calendar

variable {m : Moment} {rest : List Char}

/-! ### Characters -/

/-- **That a character stands in numbers**: a digit or a sign. -/
def IsNumeric (c : Char) : Prop := c.isDigit = true ∨ c = '-' ∨ c = '+'

/-- A character of a number is not a blank. -/
theorem IsNumeric.not_isBlank {c : Char} (h : IsNumeric c) : CharClass.isBlank c = false := by
  rcases h with h | rfl | rfl
  · rw [Char.isDigit, Bool.and_eq_true, decide_eq_true_eq, decide_eq_true_eq] at h
    have hleast : 48 ≤ c.toNat := h.1
    have hgreatest : c.toNat ≤ 57 := h.2
    simp [CharClass.isBlank, CharClass.blanks, CharClass.Ranges.has]
    omega
  · decide
  · decide

/-- A number has no blanks in front. -/
theorem skipBlanks_cons {c : Char} {cs : List Char} (h : IsNumeric c) :
    skipBlanks (c :: cs) = c :: cs :=
  List.dropWhile_cons_of_neg (by rw [h.not_isBlank]; decide)

/-! ### Numbers -/

/-- **A number is read back**, if the digits end where the width does or where the text goes on with
something else. -/
theorem readNumber_append {width : Option Nat} {ds : List Char}
    (hds : ∀ c ∈ ds, c.isDigit = true) (hne : ds ≠ [])
    (hvalue : Decimal.value ds ≤ greatestNumber) (hwidth : ∀ w ∈ width, ds.length ≤ w)
    (hend : width = some ds.length ∨ ∀ c ∈ rest.head?, c.isDigit = false) :
    readNumber 1 width (ds ++ rest) = .ok (Decimal.value ds, rest) := by
  have hascii : ∀ c ∈ ds, CharClass.isAsciiDigit c = true := hds
  -- what follows the digits within the width is no digit
  have hstop : ∀ k, (width = some ds.length → k = 0) →
      (rest.take k).takeWhile CharClass.isAsciiDigit = [] := by
    intro k hk
    rcases hend with hfull | hother
    · rw [hk hfull]
      rfl
    · cases rest with
      | nil => rw [List.take_nil, List.takeWhile_nil]
      | cons c rest =>
        have hc : CharClass.isAsciiDigit c = false := hother c rfl
        cases k with
        | zero => rfl
        | succ k => rw [List.take_succ_cons, List.takeWhile_cons_of_neg (by rw [hc]; decide)]
  have hlength : ¬ds.length < 1 := Nat.not_lt.mpr (List.length_pos_iff.mpr hne)
  unfold readNumber
  cases width with
  | none =>
    have hrest := hstop rest.length nofun
    rw [List.take_length] at hrest
    simp only [List.takeWhile_append_of_pos hascii, hrest, List.append_nil, if_neg hlength,
      if_pos hvalue, List.drop_left]
  | some w =>
    have hrest := hstop (w - ds.length) fun h => by
      rw [Option.some.inj h, Nat.sub_self]
    simp only [List.take_append, List.take_of_length_le (hwidth w rfl),
      List.takeWhile_append_of_pos hascii, hrest, List.append_nil, if_neg hlength, if_pos hvalue,
      List.drop_left]

/-- **A number filled up to the width is read back**, whatever follows. -/
theorem readNumber_filled {width n : Nat} (hn : n < 10 ^ (width + 1)) (hle : n ≤ greatestNumber) :
    readNumber 1 (some (width + 1)) (Decimal.filled '0' (width + 1) n ++ rest) = .ok (n, rest) := by
  have hlength := Decimal.length_filled hn
  have hread : readNumber 1 (some (width + 1)) (Decimal.filled '0' (width + 1) n ++ rest) =
      .ok (_, rest) :=
    readNumber_append (fun c => Decimal.isDigit_of_mem_filled) (Decimal.filled_ne_nil _ _ _)
      (by rwa [Decimal.value_filled])
      (fun w hw => Nat.le_of_eq (hlength.trans (Option.some.inj hw)))
      (Or.inl (congrArg some hlength.symm))
  rwa [Decimal.value_filled] at hread

/-- An integer filled up with zeros is its sign and its magnitude. -/
theorem padded_zero (width : Nat) (plus : Bool) (n : Int) :
    padded .zero width plus n =
      (if n < 0 then ['-'] else if plus then ['+'] else []) ++
        Decimal.filled '0' (width - (if n < 0 then 1 else if plus then 1 else 0)) n.natAbs := by
  have hlength : (if n < 0 then ['-'] else if plus = true then ['+'] else []).length =
      if n < 0 then 1 else if plus = true then 1 else 0 := by
    split
    · rfl
    · split <;> rfl
  simp only [padded, Decimal.filled, hlength, List.append_assoc, Nat.sub_sub]

/-- Integers filled up with zeros consist of digits and perhaps a sign. -/
theorem isNumeric_of_mem_padded {width : Nat} {plus : Bool} {n : Int} {c : Char}
    (h : c ∈ padded .zero width plus n) : IsNumeric c := by
  rw [padded_zero, List.mem_append] at h
  rcases h with h | h
  · refine Or.inr ?_
    split at h
    · exact Or.inl (List.mem_singleton.mp h)
    · split at h
      · exact Or.inr (List.mem_singleton.mp h)
      · cases h
  · exact Or.inl (Decimal.isDigit_of_mem_filled h)

/-- **Quantities consist of digits and perhaps a sign.** -/
theorem isNumeric_of_mem_writeQuantity {q : Quantity} {c : Char}
    (h : c ∈ writeQuantity m .zero q) : IsNumeric c := by
  have hyear : ∀ {year : Int}, c ∈ writeYear .zero year → IsNumeric c := by
    intro year h
    rw [writeYear] at h
    split at h <;> exact isNumeric_of_mem_padded h
  cases q with
  | year | weekYear => exact hyear h
  | quarter | dayFromSunday | dayFromMonday => exact Or.inl (Decimal.isDigit_of_mem_digits h)
  | _ => exact isNumeric_of_mem_padded h

/-- Integers have at least one digit. -/
theorem padded_zero_ne_nil (width : Nat) (plus : Bool) (n : Int) :
    padded .zero width plus n ≠ [] := by
  rw [padded_zero]
  exact List.append_ne_nil_of_right_ne_nil _ (Decimal.filled_ne_nil _ _ _)

/-- Quantities begin with a digit or a sign. -/
theorem exists_writeQuantity_eq_cons (m : Moment) (q : Quantity) :
    ∃ c cs, writeQuantity m .zero q = c :: cs ∧ IsNumeric c := by
  have hyear : ∀ year, writeYear .zero year ≠ [] := by
    intro year
    rw [writeYear]
    split <;> exact padded_zero_ne_nil _ _ _
  have hne : writeQuantity m .zero q ≠ [] := by
    cases q with
    | year | weekYear => exact hyear _
    | quarter | dayFromSunday | dayFromMonday => exact Decimal.digits_ne_nil _
    | _ => exact padded_zero_ne_nil _ _ _
  obtain ⟨c, cs, hcs⟩ := List.exists_cons_of_ne_nil hne
  exact ⟨c, cs, hcs, isNumeric_of_mem_writeQuantity (hcs ▸ List.mem_cons_self)⟩

/-- A quantity of two digits is filled up with zeros. -/
theorem writeTwo_zero (n : Nat) : writeTwo .zero n = Decimal.filled '0' 2 n := by
  have hn : ¬(n : Int) < 0 := Int.not_lt.mpr (Int.natCast_nonneg n)
  simp [writeTwo, padded_zero, hn]

/-- A text that begins with a digit is read as a number without a sign. -/
theorem readQuantity_of_isDigit (q : Quantity) {c : Char} {cs : List Char}
    (hc : c.isDigit = true) :
    readQuantity q (c :: cs) =
      (readNumber 1 q.width (c :: cs)).map fun taken => ((taken.1 : Int), taken.2) := by
  rw [readQuantity, skipBlanks_cons (Or.inl hc)]
  split
  · split
    · next heq =>
      obtain rfl := (List.cons.inj heq).1
      exact absurd hc (by decide)
    · next heq =>
      obtain rfl := (List.cons.inj heq).1
      exact absurd hc (by decide)
    · rfl
  · rfl

/-- **A number filled up to the width of its quantity is read back**, whatever follows. -/
theorem readQuantity_filled {q : Quantity} {width n : Nat} (hwidth : q.width = some (width + 1))
    (hn : n < 10 ^ (width + 1)) (hle : n ≤ greatestNumber) :
    readQuantity q (Decimal.filled '0' (width + 1) n ++ rest) = .ok ((n : Int), rest) := by
  have hread : readNumber 1 (some (width + 1)) (Decimal.filled '0' (width + 1) n ++ rest) =
      .ok (n, rest) := readNumber_filled hn hle
  obtain ⟨c, cs, hcs⟩ := List.exists_cons_of_ne_nil (Decimal.filled_ne_nil '0' (width + 1) n)
  have hc : c.isDigit = true := Decimal.isDigit_of_mem_filled (hcs ▸ List.mem_cons_self)
  rw [hcs] at hread ⊢
  rw [List.cons_append, readQuantity_of_isDigit q hc, hwidth, ← List.cons_append, hread]
  rfl

/-- **A quantity of two digits is read back**, whatever follows. -/
theorem readQuantity_writeTwo {q : Quantity} (hwidth : q.width = some 2) {n : Nat} (hn : n < 100) :
    readQuantity q (writeTwo .zero n ++ rest) = .ok ((n : Int), rest) := by
  rw [writeTwo_zero]
  exact readQuantity_filled hwidth hn (Nat.le_trans (Nat.le_of_lt hn) (by decide))

/-- **A year is read back**, if no digit follows. -/
theorem readQuantity_writeYear {year : Int} (hyear : year.natAbs ≤ greatestNumber)
    (hrest : ∀ c ∈ rest.head?, c.isDigit = false) :
    readQuantity .year (writeYear .zero year ++ rest) = .ok (year, rest) := by
  have hmagnitude : readNumber 1 none (Decimal.filled '0' 4 year.natAbs ++ rest) =
      .ok (year.natAbs, rest) := by
    have hread : readNumber 1 none (Decimal.filled '0' 4 year.natAbs ++ rest) = .ok (_, rest) :=
      readNumber_append (fun c => Decimal.isDigit_of_mem_filled) (Decimal.filled_ne_nil _ _ _)
        (by rwa [Decimal.value_filled]) nofun (Or.inr hrest)
    rwa [Decimal.value_filled] at hread
  rw [writeYear]
  split
  · next hfour =>
    -- there are four digits, and the width ends with them
    obtain ⟨n, rfl⟩ := Int.eq_ofNat_of_zero_le hfour.1
    rw [padded_zero, if_neg (Int.not_lt.mpr hfour.1), if_neg (Int.not_lt.mpr hfour.1)]
    exact readQuantity_filled rfl (by omega) hyear
  · -- there is a sign, and behind it there is no width
    rw [padded_zero]
    by_cases hnegative : year < 0
    · have habs : -(year.natAbs : Int) = year := by
        omega
      have hread : readQuantity .year ('-' :: (Decimal.filled '0' 4 year.natAbs ++ rest)) =
          .ok (-(year.natAbs : Int), rest) := by
        rw [readQuantity, skipBlanks_cons (Or.inr (Or.inl rfl))]
        simp only [Quantity.signed, if_true, hmagnitude, Except.map]
      rw [habs] at hread
      simpa [hnegative] using hread
    · have habs : (year.natAbs : Int) = year := by
        omega
      have hread : readQuantity .year ('+' :: (Decimal.filled '0' 4 year.natAbs ++ rest)) =
          .ok ((year.natAbs : Int), rest) := by
        rw [readQuantity, skipBlanks_cons (Or.inr (Or.inr rfl))]
        simp only [Quantity.signed, if_true, hmagnitude, Except.map]
      rw [habs] at hread
      simpa [hnegative] using hread

/-! ### Other parts -/

/-- The number of bytes of texts one after another. -/
theorem size_append (cs ds : List Char) : Utf8.size (cs ++ ds) = Utf8.size cs + Utf8.size ds := by
  induction cs with
  | nil => rw [List.nil_append, Utf8.size, Nat.zero_add]
  | cons c cs ih => rw [List.cons_append, Utf8.size, Utf8.size, ih, Nat.add_assoc]

/-- **Characters of the pattern are met where they were written.** -/
theorem readLiteral_append (literal : List Char) :
    readLiteral literal (literal ++ rest) = .ok rest := by
  have hsize : ¬Utf8.size (literal ++ rest) < Utf8.size literal := by
    rw [size_append]
    omega
  have hbegins : literal.isPrefixOf (literal ++ rest) = true :=
    List.isPrefixOf_iff_prefix.mpr (List.prefix_append _ _)
  rw [readLiteral, if_neg hsize, if_pos hbegins, List.drop_left]

/-- Blanks of the pattern are passed over, up to the number that follows. -/
theorem skipBlanks_append {blanks : List Char} (hblanks : ∀ c ∈ blanks, CharClass.isBlank c = true)
    {c : Char} {cs : List Char} (h : IsNumeric c) :
    skipBlanks (blanks ++ c :: cs) = c :: cs := by
  rw [skipBlanks, List.dropWhile_append_of_pos hblanks]
  exact skipBlanks_cons h

/-- **A fraction of a second is read back**, if it has no more digits than are written. -/
theorem readFraction_fractionDigits {k : Nat} (hk : k + 1 ≤ 9)
    (hdvd : 10 ^ (9 - (k + 1)) ∣ m.nanosecond % 1000000000) :
    readFraction (fractionDigits m (k + 1)) = .ok (m.nanosecond % 1000000000, []) := by
  generalize hnano : m.nanosecond % 1000000000 = nano at hdvd
  have hnine : nano < 10 ^ 9 := hnano ▸ Nat.mod_lt _ (by decide)
  have hpow : 10 ^ 9 = 10 ^ (9 - (k + 1)) * 10 ^ (k + 1) := by
    rw [← Nat.pow_add, Nat.sub_add_cancel hk]
  have hlt : nano / 10 ^ (9 - (k + 1)) < 10 ^ (k + 1) :=
    Nat.div_lt_of_lt_mul (hpow ▸ hnine)
  have hle : nano / 10 ^ (9 - (k + 1)) ≤ greatestNumber :=
    Nat.le_trans (Nat.div_le_self _ _) (Nat.le_trans (Nat.le_of_lt hnine) (by decide))
  have hdigits : fractionDigits m (k + 1) =
      Decimal.filled '0' (k + 1) (nano / 10 ^ (9 - (k + 1))) := by
    rw [fractionDigits, hnano]
    rfl
  have hlength := Decimal.length_filled hlt
  have hwidth : ∀ w ∈ some 9,
      (Decimal.filled '0' (k + 1) (nano / 10 ^ (9 - (k + 1)))).length ≤ w := by
    intro w hw
    rw [hlength, ← Option.some.inj hw]
    exact hk
  have hread : readNumber 1 (some 9)
      (Decimal.filled '0' (k + 1) (nano / 10 ^ (9 - (k + 1))) ++ []) = .ok (_, []) :=
    readNumber_append (fun c => Decimal.isDigit_of_mem_filled) (Decimal.filled_ne_nil _ _ _)
      (by rwa [Decimal.value_filled]) hwidth (Or.inr nofun)
  rw [List.append_nil, Decimal.value_filled] at hread
  rw [hdigits, readFraction, hread]
  have hwhole : nano / 10 ^ (9 - (k + 1)) * 10 ^ (9 - (k + 1)) = nano := Nat.div_mul_cancel hdvd
  have hleft : (Decimal.filled '0' (k + 1) (nano / 10 ^ (9 - (k + 1)))).length -
      ([] : List Char).length = k + 1 := hlength
  simp only [Except.map, hleft, List.dropWhile_nil]
  exact congrArg (fun n => Except.ok (n, [])) hwhole

/-- **How many digits a fraction is written with**: none if it is zero, and otherwise no fewer than
it has. -/
theorem writeFraction_eq (m : Moment) :
    m.nanosecond % 1000000000 = 0 ∧ writeFraction m = [] ∨
      m.nanosecond % 1000000000 ≠ 0 ∧ ∃ k, k + 1 ≤ 9 ∧
        10 ^ (9 - (k + 1)) ∣ m.nanosecond % 1000000000 ∧
        writeFraction m = '.' :: fractionDigits m (k + 1) := by
  by_cases hzero : m.nanosecond % 1000000000 = 0
  · exact Or.inl ⟨hzero, if_pos hzero⟩
  refine Or.inr ⟨hzero, ?_⟩
  by_cases hthree : m.nanosecond % 1000000000 % 1000000 = 0
  · refine ⟨2, by decide, Nat.dvd_of_mod_eq_zero hthree, ?_⟩
    rw [writeFraction, if_neg hzero, if_pos hthree]
  by_cases hsix : m.nanosecond % 1000000000 % 1000 = 0
  · refine ⟨5, by decide, Nat.dvd_of_mod_eq_zero hsix, ?_⟩
    rw [writeFraction, if_neg hzero, if_neg hthree, if_pos hsix]
  · refine ⟨8, by decide, Nat.one_dvd _, ?_⟩
    rw [writeFraction, if_neg hzero, if_neg hthree, if_neg hsix]

/-- Fractions consist of a point and digits. -/
theorem of_mem_writeFraction {c : Char} (h : c ∈ writeFraction m) : c.isDigit = true ∨ c = '.' := by
  rcases writeFraction_eq m with ⟨-, hnone⟩ | ⟨-, k, -, -, hsome⟩
  · rw [hnone] at h
    cases h
  · rw [hsome, List.mem_cons] at h
    exact h.elim Or.inr fun h => Or.inl (Decimal.isDigit_of_mem_filled h)

end QueryGate.Calendar
