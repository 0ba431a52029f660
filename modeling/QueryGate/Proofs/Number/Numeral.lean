import Mathlib.Algebra.Group.Nat.Defs
import QueryGate.Number.Decimal

/-!
# Numerals and their digits

The digits of a number are ASCII digits (`QueryGate.Decimal.isDigit_of_mem_digits`), and their value
is the number again (`QueryGate.Decimal.value_digits`), so a number is known by its text, with a
sign or without. Zeros that fill a number up to a width do not change that
(`QueryGate.Decimal.value_filled`), and the width is met by all numbers that fit into it
(`QueryGate.Decimal.length_filled`).
-/

namespace QueryGate.Decimal

/-- A digit below ten has the value that it was written for. -/
theorem digitValue?_digitChar {d : Nat} (h : d < 10) : digitValue? (digitChar d) = some d := by
  have all : ∀ d : Fin 10, digitValue? (digitChar d) = some d.val := by decide
  exact all ⟨d, h⟩

/-- The characters of a numeral are digits of ASCII. -/
theorem isDigit_of_mem_digits {n : Nat} {c : Char} (h : c ∈ digits n) : c.isDigit = true := by
  have all : ∀ d : Fin 10, (digitChar d).isDigit = true := by decide
  induction n using digits.induct with
  | case1 n hn =>
    rw [digits_of_lt hn, List.mem_singleton] at h
    rw [h]
    exact all ⟨n, hn⟩
  | case2 n hn ih =>
    rw [digits_of_ge (Nat.le_of_not_lt hn), List.mem_append, List.mem_singleton] at h
    rcases h with h | h
    · exact ih h
    · rw [h]
      exact all ⟨n % 10, Nat.mod_lt n (by decide)⟩

/-- A character that is no digit does not stand in a numeral. -/
theorem not_mem_digits {c : Char} (h : c.isDigit = false) (n : Nat) : c ∉ digits n := by
  intro hmem
  rw [isDigit_of_mem_digits hmem] at h
  exact Bool.noConfusion h

/-- A digit put behind a run of digits. -/
theorem value_append_digitChar (cs : List Char) {d : Nat} (h : d < 10) :
    value (cs ++ [digitChar d]) = 10 * value cs + d := by
  simp [value, List.foldl_append, digitValue?_digitChar h]

/-- **A numeral has the value of its number.** -/
theorem value_digits (n : Nat) : value (digits n) = n := by
  induction n using digits.induct with
  | case1 n hn => simp [digits_of_lt hn, value, digitValue?_digitChar hn]
  | case2 n hn ih =>
    rw [digits_of_ge (Nat.le_of_not_lt hn), value_append_digitChar _ (Nat.mod_lt n (by decide)), ih]
    omega

/-- **Different numbers have different texts.** -/
theorem ofNat_inj {m n : Nat} : ofNat m = ofNat n ↔ m = n := by
  refine ⟨fun h => ?_, congrArg ofNat⟩
  have hdigits : digits m = digits n := String.ofList_inj.mp h
  rw [← value_digits m, hdigits, value_digits]

/-- There is at least one digit. -/
theorem digits_ne_nil (n : Nat) : digits n ≠ [] := by
  cases Nat.lt_or_ge n 10 with
  | inl h => simp [digits_of_lt h]
  | inr h => simp [digits_of_ge h]

/-- Numerals begin with a digit. -/
theorem exists_ofNat_eq_cons (n : Nat) :
    ∃ c cs, (ofNat n).toList = c :: cs ∧ c.isDigit = true := by
  obtain ⟨c, cs, hdigits⟩ := List.exists_cons_of_ne_nil (digits_ne_nil n)
  refine ⟨c, cs, by rw [ofNat, String.toList_ofList, hdigits], ?_⟩
  exact isDigit_of_mem_digits (hdigits ▸ List.mem_cons_self)

/-- Numerals with a sign begin with a digit or the sign. -/
theorem exists_ofInt_eq_cons (n : Int) :
    ∃ c cs, (ofInt n).toList = c :: cs ∧ (c.isDigit = true ∨ c = '-') := by
  cases n with
  | ofNat n =>
    obtain ⟨c, cs, htext, hdigit⟩ := exists_ofNat_eq_cons n
    exact ⟨c, cs, htext, Or.inl hdigit⟩
  | negSucc n => exact ⟨'-', (ofNat (n + 1)).toList, by simp [ofInt], Or.inr rfl⟩

/-- **Different integers have different texts.** -/
theorem ofInt_inj {m n : Int} : ofInt m = ofInt n ↔ m = n := by
  refine ⟨fun h => ?_, congrArg ofInt⟩
  -- a sign is no digit, so the two are negative or not together
  have hsign : ∀ k l : Nat, ofNat k ≠ "-" ++ ofNat l := by
    intro k l heq
    obtain ⟨c, cs, htext, hdigit⟩ := exists_ofNat_eq_cons k
    have hhead : (c :: cs).head? = some '-' := by
      rw [← htext, heq]
      simp
    obtain rfl := Option.some.inj hhead
    exact absurd hdigit (by decide)
  cases m with
  | ofNat k =>
    cases n with
    | ofNat l => exact congrArg Int.ofNat (ofNat_inj.mp h)
    | negSucc l => exact absurd h (hsign k (l + 1))
  | negSucc k =>
    cases n with
    | ofNat l => exact absurd h.symm (hsign l (k + 1))
    | negSucc l =>
      have hlist : "-".toList ++ (ofNat (k + 1)).toList = "-".toList ++ (ofNat (l + 1)).toList := by
        rw [← String.toList_append, ← String.toList_append]
        exact congrArg String.toList h
      have htext := String.toList_inj.mp (List.append_cancel_left hlist)
      exact congrArg Int.negSucc (Nat.succ.inj (ofNat_inj.mp htext))

/-! ### Zeros in front -/

/-- The value of digits behind others. -/
theorem value_append (cs ds : List Char) :
    value (cs ++ ds) = ds.foldl (fun n c => 10 * n + (digitValue? c).getD 0) (value cs) := by
  rw [value, List.foldl_append]
  rfl

/-- Zeros have no value. -/
theorem value_replicate_zero (k : Nat) : value (List.replicate k '0') = 0 := by
  induction k with
  | zero => rfl
  | succ k ih =>
    rw [List.replicate_succ', value_append, ih]
    decide

/-- **Filling a number up does not change its value.** -/
theorem value_filled (width n : Nat) : value (filled '0' width n) = n := by
  rw [filled, value_append, value_replicate_zero]
  exact value_digits n

/-- Numbers filled up with zeros consist of digits. -/
theorem isDigit_of_mem_filled {width n : Nat} {c : Char} (h : c ∈ filled '0' width n) :
    c.isDigit = true := by
  rcases List.mem_append.mp h with h | h
  · rw [List.eq_of_mem_replicate h]
    decide
  · exact isDigit_of_mem_digits h

/-- There is at least one digit, with zeros in front or without. -/
theorem filled_ne_nil (fill : Char) (width n : Nat) : filled fill width n ≠ [] :=
  List.append_ne_nil_of_right_ne_nil _ (digits_ne_nil n)

/-- A number below a power of ten has at most as many digits. -/
theorem length_digits_le {width n : Nat} (h : n < 10 ^ (width + 1)) :
    (digits n).length ≤ width + 1 := by
  induction width generalizing n with
  | zero =>
    rw [digits_of_lt (by simpa using h)]
    exact Nat.le_refl 1
  | succ width ih =>
    cases Nat.lt_or_ge n 10 with
    | inl hlt =>
      rw [digits_of_lt hlt, List.length_singleton]
      omega
    | inr hge =>
      have hquotient : n / 10 < 10 ^ (width + 1) := by
        rw [Nat.div_lt_iff_lt_mul (by decide), ← Nat.pow_succ]
        exact h
      rw [digits_of_ge hge, List.length_append, List.length_singleton]
      exact Nat.succ_le_succ (ih hquotient)

/-- **A number that fits into a width is filled up to it.** -/
theorem length_filled {width n : Nat} (h : n < 10 ^ (width + 1)) :
    (filled '0' (width + 1) n).length = width + 1 := by
  have hlength := length_digits_le h
  rw [filled, List.length_append, List.length_replicate]
  omega

/-- A run of digits has a value below the power of ten that belongs to its length. -/
theorem value_lt (cs : List Char) : value cs < 10 ^ cs.length := by
  have hdigit : ∀ c : Char, (digitValue? c).getD 0 < 10 := by
    intro c
    rw [digitValue?]
    split
    · next hc =>
      have hle : c.toNat ≤ '9'.toNat := hc.2
      have hnine : '9'.toNat = 57 := rfl
      rw [Option.getD_some]
      omega
    · decide
  rw [← List.reverse_reverse cs]
  induction cs.reverse with
  | nil => decide
  | cons c rest ih =>
    have hc := hdigit c
    rw [List.reverse_cons, value_append, List.length_append, List.length_singleton, Nat.pow_succ]
    simp only [List.foldl_cons, List.foldl_nil]
    omega

end QueryGate.Decimal
