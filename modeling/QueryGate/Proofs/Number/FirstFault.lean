import QueryGate.Proofs.Number.Integer

/-!
# What is wrong with a text that is no integer

A text that is not read as an integer is refused for the first thing that is wrong with it, from the
left (`QueryGate.IntegerRange.FirstFault`): there is no character, there is a sign alone, or behind
the sign stand digits whose value is in the range and then a character that is no digit or takes the
value out of the range. So a stray character is told unless the digits before it have left the range
already, and nothing behind the first fault matters.

## Two directions

Digits are read upwards or, behind a minus sign, downwards. Both are one scan of the magnitude
against a bound (`QueryGate.IntegerRange.scan`), so where the reading stops is shown once, for the
scan (`QueryGate.IntegerRange.scan_eq_error_iff`), by induction on the digits.
-/

namespace QueryGate.IntegerRange

open Decimal

variable {range : IntegerRange}

/-! ### The scan -/

/-- **Digits taken one at a time**, as long as their value does not exceed a bound. -/
def scan (bound : Int) (beyond : IntegerFault) (n : Nat) : List Char → Except IntegerFault Nat
  | [] => .ok n
  | c :: rest =>
    match digitValue? c with
    | none => .error .invalidDigit
    | some d =>
      if ((10 * n + d : Nat) : Int) ≤ bound then scan bound beyond (10 * n + d) rest
      else .error beyond

/-- Digits are read upwards by scanning them against the greatest integer of the range. -/
theorem readUp_eq_scan (n : Nat) (cs : List Char) :
    range.readUp n cs = (scan range.greatest .tooLarge n cs).map Int.ofNat := by
  induction cs generalizing n with
  | nil => rfl
  | cons c rest ih =>
    rw [readUp, scan]
    cases digitValue? c with
    | none => rfl
    | some d =>
      have hnext : 10 * (n : Int) + d = ((10 * n + d : Nat) : Int) := by
        omega
      simp only [hnext]
      split
      · exact ih (10 * n + d)
      · rfl

/-- Digits are read downwards by scanning them against the magnitude of the least integer. -/
theorem readDown_eq_scan (n : Nat) (cs : List Char) :
    range.readDown (-n) cs = (scan (-range.least) .tooSmall n cs).map fun m => -Int.ofNat m := by
  induction cs generalizing n with
  | nil => rfl
  | cons c rest ih =>
    rw [readDown, scan]
    cases digitValue? c with
    | none => rfl
    | some d =>
      have hnext : 10 * -(n : Int) - d = -((10 * n + d : Nat) : Int) := by
        omega
      have hbound : range.least ≤ -((10 * n + d : Nat) : Int) ↔
          ((10 * n + d : Nat) : Int) ≤ -range.least := by
        omega
      simp only [hnext, hbound]
      split
      · exact ih (10 * n + d)
      · rfl

/-- Mapping what is read leaves a fault as it is. -/
theorem map_eq_error_iff {ε α β : Type} {x : Except ε α} {f : α → β} {e : ε} :
    x.map f = .error e ↔ x = .error e := by
  cases x <;> simp [Except.map]

/-- **Digits within the bound are passed over.** -/
theorem scan_append {bound : Int} {beyond : IntegerFault} {n : Nat} {ds : List Char}
    (hds : ∀ c ∈ ds, c.isDigit = true) (hbound : (valueAfter n ds : Int) ≤ bound)
    (rest : List Char) :
    scan bound beyond n (ds ++ rest) = scan bound beyond (valueAfter n ds) rest := by
  induction ds generalizing n with
  | nil => rfl
  | cons c ds ih =>
    obtain ⟨hc, hds⟩ := List.forall_mem_cons.mp hds
    rw [← isSome_digitValue?] at hc
    obtain ⟨d, hd⟩ := Option.isSome_iff_exists.mp hc
    rw [valueAfter_cons hd] at hbound ⊢
    have hle : ((10 * n + d : Nat) : Int) ≤ bound :=
      Int.le_trans (Int.ofNat_le.mpr (le_valueAfter (10 * n + d) ds)) hbound
    rw [List.cons_append, scan, hd]
    simp only [if_pos hle]
    exact ih hds hbound

/-- **Where a scan stops**: behind digits within the bound, at a character that is no digit or that
takes the value beyond it. -/
inductive Stops (bound : Int) (beyond : IntegerFault) (n : Nat) :
    List Char → IntegerFault → Prop
  /-- It stops at a character that is no digit. -/
  | stray {ds : List Char} {c : Char} {rest : List Char} (hds : ∀ d ∈ ds, d.isDigit = true)
      (hbound : (valueAfter n ds : Int) ≤ bound) (hc : c.isDigit = false) :
      Stops bound beyond n (ds ++ c :: rest) .invalidDigit
  /-- It stops at a digit that leads beyond the bound. -/
  | beyond {ds : List Char} {c : Char} {rest : List Char} (hds : ∀ d ∈ ds, d.isDigit = true)
      (hbound : (valueAfter n ds : Int) ≤ bound) (hc : c.isDigit = true)
      (hover : bound < valueAfter n (ds ++ [c])) :
      Stops bound beyond n (ds ++ c :: rest) beyond

/-- **A scan fails where it stops.** -/
theorem scan_eq_error_iff {bound : Int} {beyond fault : IntegerFault} {n : Nat} {cs : List Char}
    (hn : (n : Int) ≤ bound) :
    scan bound beyond n cs = .error fault ↔ Stops bound beyond n cs fault := by
  constructor
  · intro h
    induction cs generalizing n with
    | nil => cases h
    | cons c rest ih =>
      rw [scan] at h
      cases hd : digitValue? c with
      | none =>
        rw [hd] at h
        obtain rfl := Except.error.inj h
        have hc : c.isDigit = false := by
          rw [← isSome_digitValue?, hd, Option.isSome_none]
        exact @Stops.stray bound beyond n [] c rest nofun hn hc
      | some d =>
        have hc : c.isDigit = true := by
          rw [← isSome_digitValue?, hd, Option.isSome_some]
        simp only [hd] at h
        split at h
        · next hle =>
          cases ih hle h with
          | stray hds hbound hstray =>
            exact Stops.stray (List.forall_mem_cons.mpr ⟨hc, hds⟩)
              (by rwa [valueAfter_cons hd]) hstray
          | beyond hds hbound hdigit hover =>
            exact Stops.beyond (List.forall_mem_cons.mpr ⟨hc, hds⟩)
              (by rwa [valueAfter_cons hd]) hdigit (by rwa [List.cons_append, valueAfter_cons hd])
        · next hgt =>
          obtain rfl := Except.error.inj h
          refine @Stops.beyond bound beyond n [] c rest nofun hn hc ?_
          rw [List.nil_append, valueAfter_cons hd]
          exact Int.not_le.mp hgt
  · intro h
    cases h with
    | stray hds hbound hc =>
      rw [scan_append hds hbound, scan]
      rw [← isSome_digitValue?, Option.isSome_eq_false_iff, Option.isNone_iff_eq_none] at hc
      rw [hc]
    | @beyond ds c rest hds hbound hc hover =>
      rw [scan_append hds hbound, scan]
      rw [← isSome_digitValue?] at hc
      obtain ⟨d, hd⟩ := Option.isSome_iff_exists.mp hc
      have hvalue : valueAfter n (ds ++ [c]) = 10 * valueAfter n ds + d := by
        rw [valueAfter, List.foldl_append, List.foldl_cons, hd]
        rfl
      rw [hvalue] at hover
      simp only [hd, if_neg (Int.not_le.mpr hover)]

/-! ### The first fault of a text -/

/-- **Whether a minus sign leads, and the text behind the sign**, if there is a sign that the range
admits. -/
def cutSign (range : IntegerRange) : List Char → Bool × List Char
  | [] => (false, [])
  | c :: cs =>
    if c = '+' then (false, cs)
    else if c = '-' ∧ range.hasNegatives = true then (true, cs)
    else (false, c :: cs)

/-- **The integer that digits spell**, behind a minus sign or without one. -/
def signedValue (negative : Bool) (ds : List Char) : Int :=
  if negative then -(value ds : Int) else value ds

/-- The fault of leaving the range: behind a minus sign below it, and without one above it. -/
def outside (negative : Bool) : IntegerFault := if negative then .tooSmall else .tooLarge

/-- **The first fault of a text**, from the left. -/
inductive FirstFault (range : IntegerRange) : List Char → IntegerFault → Prop
  /-- There is no character. -/
  | empty : FirstFault range [] .empty
  /-- There is a sign and nothing else. -/
  | lone {c : Char} (h : c = '+' ∨ c = '-') : FirstFault range [c] .invalidDigit
  /-- Behind digits whose value is in the range stands a character that is no digit. -/
  | stray {text ds rest : List Char} {c : Char} {negative : Bool}
      (hcut : range.cutSign text = (negative, ds ++ c :: rest))
      (hds : ∀ d ∈ ds, d.isDigit = true) (hholds : range.Holds (signedValue negative ds))
      (hc : c.isDigit = false) : FirstFault range text .invalidDigit
  /-- Behind digits whose value is in the range stands one with which it no longer is. -/
  | beyond {text ds rest : List Char} {c : Char} {negative : Bool}
      (hcut : range.cutSign text = (negative, ds ++ c :: rest))
      (hds : ∀ d ∈ ds, d.isDigit = true) (hholds : range.Holds (signedValue negative ds))
      (hc : c.isDigit = true) (hleaves : ¬range.Holds (signedValue negative (ds ++ [c]))) :
      FirstFault range text (outside negative)

/-- The greatest magnitude of an integer of the range, behind a minus sign or without one. -/
def limit (range : IntegerRange) (negative : Bool) : Int :=
  if negative then -range.least else range.greatest

/-- What digits spell lies in the range if it does so at the end that the sign leads to. -/
theorem holds_signedValue_iff (hzero : range.Holds 0) (negative : Bool) (ds : List Char) :
    range.Holds (signedValue negative ds) ↔ (valueAfter 0 ds : Int) ≤ range.limit negative := by
  obtain ⟨hleast, hgreatest⟩ := hzero
  have hvalue : valueAfter 0 ds = value ds := rfl
  rw [hvalue]
  cases negative with
  | false =>
    simp only [Holds, signedValue, limit, Bool.false_eq_true, if_false]
    omega
  | true =>
    simp only [Holds, signedValue, limit, if_true]
    omega

/-- Zero is within either limit. -/
theorem zero_le_limit (hzero : range.Holds 0) (negative : Bool) :
    ((0 : Nat) : Int) ≤ range.limit negative :=
  (holds_signedValue_iff hzero negative []).mp (by cases negative <;> exact hzero)

variable {text cs : List Char} {c : Char} {negative : Bool} {fault : IntegerFault}

/-- **What stands behind the sign is scanned** against the end of the range that the sign leads
to. -/
theorem read_eq_scan (hcut : range.cutSign text = (negative, c :: cs)) :
    range.read text = (scan (range.limit negative) (outside negative) 0 (c :: cs)).map
      fun m => if negative then -Int.ofNat m else Int.ofNat m := by
  have hup : range.readUp 0 (c :: cs) =
      (scan (range.limit false) (outside false) 0 (c :: cs)).map Int.ofNat :=
    readUp_eq_scan 0 (c :: cs)
  have hdown : range.readDown 0 (c :: cs) =
      (scan (range.limit true) (outside true) 0 (c :: cs)).map fun m => -Int.ofNat m :=
    readDown_eq_scan 0 (c :: cs)
  cases text with
  | nil => cases hcut
  | cons sign rest =>
    rw [cutSign] at hcut
    split at hcut
    · next hplus =>
      obtain ⟨rfl, rfl⟩ := Prod.mk.inj hcut
      simp only [read, if_pos hplus]
      exact hup
    · next hplus =>
      split at hcut
      · next hminus =>
        obtain ⟨rfl, rfl⟩ := Prod.mk.inj hcut
        simp only [read, if_neg hplus, if_pos hminus]
        exact hdown
      · next hminus =>
        obtain ⟨rfl, hbody⟩ := Prod.mk.inj hcut
        obtain ⟨rfl, rfl⟩ := List.cons.inj hbody
        refine Eq.trans ?_ hup
        cases rest with
        | cons d rest => simp only [read, if_neg hplus, if_neg hminus]
        | nil =>
          rw [read]
          split
          · next hsign =>
            -- a minus sign alone is no digit either
            obtain rfl := hsign.resolve_left hplus
            rfl
          · rfl

/-- **A scan behind the sign stops at the first fault of the text.** -/
theorem stops_iff_firstFault (hzero : range.Holds 0)
    (hcut : range.cutSign text = (negative, c :: cs)) :
    Stops (range.limit negative) (outside negative) 0 (c :: cs) fault ↔
      range.FirstFault text fault := by
  have hholds := holds_signedValue_iff hzero
  constructor
  · intro h
    generalize c :: cs = body at h hcut
    cases h with
    | stray hds hbound hc => exact .stray hcut hds ((hholds _ _).mpr hbound) hc
    | beyond hds hbound hc hover =>
      exact .beyond hcut hds ((hholds _ _).mpr hbound) hc
        fun h => Int.not_le.mpr hover ((hholds _ _).mp h)
  · intro h
    cases h with
    | empty => cases hcut
    | @lone sign h =>
      -- the sign was not cut off, so it is the character that is no digit
      have hbody : c :: cs = [sign] ∧ sign.isDigit = false := by
        rcases h with rfl | rfl
        · cases hcut
        · rw [cutSign, if_neg (by decide)] at hcut
          split at hcut
          · cases hcut
          · exact ⟨(Prod.mk.inj hcut).2.symm, rfl⟩
      rw [hbody.1]
      exact @Stops.stray _ _ 0 [] sign [] nofun (zero_le_limit hzero negative) hbody.2
    | stray hcut' hds hin hc =>
      obtain ⟨rfl, hbody⟩ := Prod.mk.inj (hcut.symm.trans hcut')
      rw [hbody]
      exact .stray hds ((hholds _ _).mp hin) hc
    | beyond hcut' hds hin hc hleaves =>
      obtain ⟨rfl, hbody⟩ := Prod.mk.inj (hcut.symm.trans hcut')
      rw [hbody]
      exact .beyond hds ((hholds _ _).mp hin) hc
        (Int.not_le.mp fun h => hleaves ((hholds _ _).mpr h))

/-- **A text with nothing behind the sign** is at fault for that. -/
theorem read_of_cutSign_eq_nil (hcut : range.cutSign text = (negative, [])) :
    range.read text = .error fault ↔ range.FirstFault text fault := by
  have hbare : ∀ {ds rest : List Char} {c : Char} {b : Bool},
      range.cutSign text ≠ (b, ds ++ c :: rest) := fun h =>
    List.append_ne_nil_of_right_ne_nil _ (List.cons_ne_nil _ _)
      (Prod.mk.inj (hcut.symm.trans h)).2.symm
  cases text with
  | nil =>
    constructor
    · intro h
      obtain rfl := Except.error.inj h
      exact .empty
    · intro h
      cases h with
      | empty => rfl
      | stray hcut' => exact absurd hcut' hbare
      | beyond hcut' => exact absurd hcut' hbare
  | cons sign rest =>
    have hsign : rest = [] ∧ (sign = '+' ∨ sign = '-') := by
      rw [cutSign] at hcut
      split at hcut
      · next hplus => exact ⟨(Prod.mk.inj hcut).2, Or.inl hplus⟩
      · split at hcut
        · next hminus => exact ⟨(Prod.mk.inj hcut).2, Or.inr hminus.1⟩
        · exact absurd (Prod.mk.inj hcut).2 (List.cons_ne_nil _ _)
    obtain ⟨rfl, hsign⟩ := hsign
    rw [read, if_pos hsign]
    constructor
    · intro h
      obtain rfl := Except.error.inj h
      exact .lone hsign
    · intro h
      cases h with
      | lone => rfl
      | stray hcut' => exact absurd hcut' hbare
      | beyond hcut' => exact absurd hcut' hbare

/-- **Why a text is not read**: for its first fault. -/
theorem read_eq_error_iff (hzero : range.Holds 0) :
    range.read text = .error fault ↔ range.FirstFault text fault := by
  obtain ⟨⟨negative, body⟩, hcut⟩ : ∃ cut, range.cutSign text = cut := ⟨_, rfl⟩
  cases body with
  | nil => exact read_of_cutSign_eq_nil hcut
  | cons c cs =>
    rw [read_eq_scan hcut, map_eq_error_iff, scan_eq_error_iff (zero_le_limit hzero negative),
      stops_iff_firstFault hzero hcut]

end QueryGate.IntegerRange
