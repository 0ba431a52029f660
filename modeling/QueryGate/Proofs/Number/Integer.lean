import QueryGate.Number.Integer
import QueryGate.Proofs.Number.Numeral

/-!
# Which texts are read as integers

A text is read as an integer if it spells that integer (`QueryGate.Decimal.Spells`), if the integer
lies in the range, and if there is no minus sign that the range does not admit; and no other text is
read (`QueryGate.IntegerRange.read_eq_ok_iff`).

The digits are read one at a time, and the reading ends where their value leaves the range. This
says nothing about the digits behind, but these never bring the value back
(`QueryGate.Decimal.le_valueAfter`), so it is the value of all digits that counts, for a numeral of
any length.
-/

namespace QueryGate

namespace Decimal

/-! ### Texts that spell an integer -/

/-- A character has a value as a digit if it is a digit of ASCII. -/
theorem isSome_digitValue? (c : Char) : (digitValue? c).isSome = c.isDigit := by
  have hleast : '0' ≤ c ↔ c.val ≥ 48 := Iff.rfl
  have hgreatest : c ≤ '9' ↔ c.val ≤ 57 := Iff.rfl
  simp only [digitValue?, Char.isDigit, hleast, hgreatest]
  split <;> simp_all

/-- The value of a run of digits behind others that have a value. -/
def valueAfter (n : Nat) (cs : List Char) : Nat :=
  cs.foldl (fun n c => 10 * n + (digitValue? c).getD 0) n

theorem valueAfter_cons {c : Char} {d : Nat} (h : digitValue? c = some d) (n : Nat)
    (cs : List Char) : valueAfter n (c :: cs) = valueAfter (10 * n + d) cs := by
  rw [valueAfter, List.foldl_cons, h]
  rfl

/-- **More digits do not make the value smaller.** -/
theorem le_valueAfter (n : Nat) (cs : List Char) : n ≤ valueAfter n cs := by
  induction cs generalizing n with
  | nil => exact Nat.le_refl n
  | cons c cs ih =>
    have hnext : n ≤ 10 * n + (digitValue? c).getD 0 := by
      omega
    exact Nat.le_trans hnext (ih _)

/-- **That a text spells an integer** in decimal: one digit of ASCII or more, with a sign in front
or without. -/
inductive Spells : List Char → Int → Prop
  /-- Digits without a sign. -/
  | plain {ds : List Char} (hne : ds ≠ []) (h : ∀ c ∈ ds, c.isDigit = true) :
      Spells ds (value ds)
  /-- Digits behind a plus sign. -/
  | plus {ds : List Char} (hne : ds ≠ []) (h : ∀ c ∈ ds, c.isDigit = true) :
      Spells ('+' :: ds) (value ds)
  /-- Digits behind a minus sign. -/
  | minus {ds : List Char} (hne : ds ≠ []) (h : ∀ c ∈ ds, c.isDigit = true) :
      Spells ('-' :: ds) (-value ds)

/-- A text that begins with a plus sign spells what the digits behind it do. -/
theorem spells_plus_iff {cs : List Char} {n : Int} :
    Spells ('+' :: cs) n ↔ cs ≠ [] ∧ (∀ c ∈ cs, c.isDigit = true) ∧ n = value cs := by
  constructor
  · intro h
    cases h with
    | plain hne h => exact absurd (h '+' List.mem_cons_self) (by decide)
    | plus hne h => exact ⟨hne, h, rfl⟩
  · rintro ⟨hne, h, rfl⟩
    exact .plus hne h

/-- A text that begins with a minus sign spells the negative of what the digits behind it do. -/
theorem spells_minus_iff {cs : List Char} {n : Int} :
    Spells ('-' :: cs) n ↔ cs ≠ [] ∧ (∀ c ∈ cs, c.isDigit = true) ∧ n = -value cs := by
  constructor
  · intro h
    cases h with
    | plain hne h => exact absurd (h '-' List.mem_cons_self) (by decide)
    | minus hne h => exact ⟨hne, h, rfl⟩
  · rintro ⟨hne, h, rfl⟩
    exact .minus hne h

/-- A text that begins with another character spells an integer if it has digits alone. -/
theorem spells_cons_iff {c : Char} (hplus : c ≠ '+') (hminus : c ≠ '-') {cs : List Char} {n : Int} :
    Spells (c :: cs) n ↔ (∀ d ∈ c :: cs, d.isDigit = true) ∧ n = value (c :: cs) := by
  constructor
  · intro h
    cases h with
    | plain hne h => exact ⟨h, rfl⟩
    | plus hne h => exact absurd rfl hplus
    | minus hne h => exact absurd rfl hminus
  · rintro ⟨h, rfl⟩
    exact .plain (List.cons_ne_nil _ _) h

/-- The digits of a number spell it. -/
theorem spells_digits (n : Nat) : Spells (digits n) n := by
  have hspells := Spells.plain (digits_ne_nil n) fun c => isDigit_of_mem_digits
  rwa [value_digits] at hspells

end Decimal

namespace IntegerRange

open Decimal

variable {range : IntegerRange}

/-! ### Texts that are read -/

/-- **Which digits are read upwards**: those whose value stays within the range. -/
theorem readUp_eq_ok_iff {n : Nat} {m : Int} {cs : List Char} (hn : (n : Int) ≤ range.greatest) :
    range.readUp n cs = .ok m ↔
      (∀ c ∈ cs, c.isDigit = true) ∧ m = valueAfter n cs ∧ m ≤ range.greatest := by
  induction cs generalizing n with
  | nil =>
    rw [readUp, Except.ok.injEq]
    constructor
    · rintro rfl
      exact ⟨nofun, rfl, hn⟩
    · rintro ⟨-, rfl, -⟩
      rfl
  | cons c cs ih =>
    rw [readUp, List.forall_mem_cons, ← isSome_digitValue?]
    cases hd : digitValue? c with
    | none => simp
    | some d =>
      have hnext : 10 * (n : Int) + d = ((10 * n + d : Nat) : Int) := by
        omega
      simp only [Option.isSome_some, true_and, valueAfter_cons hd, hnext]
      by_cases hle : ((10 * n + d : Nat) : Int) ≤ range.greatest
      · rw [if_pos hle, ih hle]
      · rw [if_neg hle]
        have hgrows := le_valueAfter (10 * n + d) cs
        constructor
        · intro h
          cases h
        · rintro ⟨-, rfl, hm⟩
          omega

/-- **Which digits are read downwards**: those whose value stays within the range. -/
theorem readDown_eq_ok_iff {n : Nat} {m : Int} {cs : List Char} (hn : range.least ≤ -(n : Int)) :
    range.readDown (-n) cs = .ok m ↔
      (∀ c ∈ cs, c.isDigit = true) ∧ m = -valueAfter n cs ∧ range.least ≤ m := by
  induction cs generalizing n with
  | nil =>
    rw [readDown, Except.ok.injEq]
    constructor
    · rintro rfl
      exact ⟨nofun, rfl, hn⟩
    · rintro ⟨-, rfl, -⟩
      rfl
  | cons c cs ih =>
    rw [readDown, List.forall_mem_cons, ← isSome_digitValue?]
    cases hd : digitValue? c with
    | none => simp
    | some d =>
      have hnext : 10 * -(n : Int) - d = -((10 * n + d : Nat) : Int) := by
        omega
      simp only [Option.isSome_some, true_and, valueAfter_cons hd, hnext]
      by_cases hle : range.least ≤ -((10 * n + d : Nat) : Int)
      · rw [if_pos hle, ih hle]
      · rw [if_neg hle]
        have hgrows := le_valueAfter (10 * n + d) cs
        constructor
        · intro h
          cases h
        · rintro ⟨-, rfl, hm⟩
          omega

/-- **Which texts are read**: those that spell an integer of the range, and with a minus sign only
if the range has negatives. -/
theorem read_eq_ok_iff (hzero : range.Holds 0) {text : List Char} {n : Int} :
    range.read text = .ok n ↔
      Spells text n ∧ range.Holds n ∧ (text.head? = some '-' → range.hasNegatives = true) := by
  obtain ⟨hleast, hgreatest⟩ := hzero
  -- with one sign a number cannot leave the range at the other end
  have hup : ∀ cs, range.readUp 0 cs = .ok n ↔
      (∀ c ∈ cs, c.isDigit = true) ∧ n = value cs ∧ range.Holds n := by
    intro cs
    refine (readUp_eq_ok_iff hgreatest).trans (and_congr_right fun _ => and_congr_right ?_)
    rintro rfl
    exact (and_iff_right (Int.le_trans hleast (Int.natCast_nonneg _))).symm
  have hdown : ∀ cs, range.readDown 0 cs = .ok n ↔
      (∀ c ∈ cs, c.isDigit = true) ∧ n = -value cs ∧ range.Holds n := by
    intro cs
    refine (readDown_eq_ok_iff (n := 0) hleast).trans
      (and_congr_right fun _ => and_congr_right ?_)
    rintro rfl
    exact (and_iff_left
      (Int.le_trans (Int.neg_nonpos_of_nonneg (Int.natCast_nonneg _)) hgreatest)).symm
  cases text with
  | nil =>
    refine iff_of_false (fun h => nomatch h) fun h => ?_
    cases h.1 with
    | plain hne h => exact hne rfl
  | cons c cs =>
    by_cases hplus : c = '+'
    · subst hplus
      rw [spells_plus_iff]
      cases cs with
      | nil => exact iff_of_false (fun h => nomatch h) fun h => h.1.1 rfl
      | cons d rest =>
        have hread : range.read ('+' :: d :: rest) = range.readUp 0 (d :: rest) := rfl
        rw [hread, hup]
        simp [and_assoc]
    by_cases hminus : c = '-'
    · subst hminus
      rw [spells_minus_iff]
      cases cs with
      | nil => exact iff_of_false (fun h => nomatch h) fun h => h.1.1 rfl
      | cons d rest =>
        cases hnegatives : range.hasNegatives with
        | true =>
          have hread : range.read ('-' :: d :: rest) = range.readDown 0 (d :: rest) := by
            simp [read, hnegatives]
          rw [hread, hdown]
          simp [and_assoc]
        | false =>
          -- the sign is then taken for a digit, which it is not
          have hread : range.read ('-' :: d :: rest) = range.readUp 0 ('-' :: d :: rest) := by
            simp [read, hnegatives]
          rw [hread, hup]
          simp
    · have hread : range.read (c :: cs) = range.readUp 0 (c :: cs) := by
        cases cs <;> simp [read, hplus, hminus]
      rw [hread, hup, spells_cons_iff hplus hminus]
      simp [and_assoc, hminus]

/-- **The numeral of a number is read as that number**, if it is in the range. -/
theorem read_digits (hzero : range.Holds 0) {n : Nat} (hle : (n : Int) ≤ range.greatest) :
    range.read (digits n) = .ok n := by
  have hsign : (digits n).head? ≠ some '-' := fun h =>
    not_mem_digits (by decide) n (List.mem_of_mem_head? h)
  exact (read_eq_ok_iff hzero).mpr ⟨spells_digits n,
    ⟨Int.le_trans hzero.1 (Int.natCast_nonneg n), hle⟩, fun h => absurd h hsign⟩

/-- **What is read lies in the range**, if zero does. -/
theorem holds_of_read (hzero : range.Holds 0) {text : List Char} {n : Int}
    (h : range.read text = .ok n) : range.Holds n :=
  ((read_eq_ok_iff hzero).mp h).2.1

end IntegerRange

end QueryGate
