import QueryGate.Number.Real

/-!
# Real numbers that are read are finite

A text that is read as a real number is read as a finite one, in either format. Into 64 bits there
is nothing to show but that putting the sign back changes nothing
(`QueryGate.Binary64.isFinite_of_readDouble`). A number of 32 bits is widened afterwards
(`QueryGate.Binary64.isFinite_of_readSingle`), and widening rounds once more, into the wider format.

## Why widening does not overflow

The rounding stays clear of infinity because of the *length* of its argument alone: what takes so
many bits has at most that exponent and a full significand, and rounding up adds one in the last
place (`QueryGate.BinaryFormat.nearest_lt_infinity`). A number of 32 bits takes far fewer bits than
the wider format has exponents for. That its value is kept exactly is not needed and not shown.
-/

namespace QueryGate

/-- Rounding adds one at most. -/
theorem roundHalfEven_le (num den : Nat) : roundHalfEven num den ≤ num / den + 1 := by
  simp only [roundHalfEven]
  split
  · omega
  · split <;> omega

namespace BinaryFormat

/-- **A binary fraction is not rounded to infinity** if it takes so few bits, in units of the least
positive number, that numbers of that length are not infinite. -/
theorem nearest_lt_infinity {format : BinaryFormat} {num digits places : Nat} (bits : Nat)
    (hnum : num < Nat.pow 2 digits) (hbits : digits + format.scale ≤ places + bits)
    (hroom : (bits - format.precision) * Nat.pow 2 (format.precision - 1) +
      Nat.pow 2 format.precision < format.infinity) :
    format.nearest num (Nat.pow 2 places) < format.infinity := by
  simp only [nearest, Nat.pow_eq] at *
  have hwhole : num * 2 ^ format.scale / 2 ^ places < 2 ^ bits := by
    rw [Nat.div_lt_iff_lt_mul (Nat.two_pow_pos _), ← Nat.pow_add]
    calc num * 2 ^ format.scale < 2 ^ digits * 2 ^ format.scale :=
          Nat.mul_lt_mul_of_pos_right hnum (Nat.two_pow_pos _)
      _ = 2 ^ (digits + format.scale) := (Nat.pow_add 2 _ _).symm
      _ ≤ 2 ^ (bits + places) := Nat.pow_le_pow_right (by decide) (by omega)
  generalize num * 2 ^ format.scale = units at *
  generalize hlength : (if units / 2 ^ places = 0 then 0 else Nat.log2 (units / 2 ^ places) + 1) =
    length
  -- the integral part is no longer than it may be, and has the length that it is said to have
  have hshort : length ≤ bits := by
    rw [← hlength]
    split
    · exact Nat.zero_le _
    · next h => exact (Nat.log2_lt h).mpr hwhole
  have hfits : units / 2 ^ places < 2 ^ length := by
    rw [← hlength]
    split
    · next h => simp [h]
    · exact Nat.lt_log2_self
  have hsignificand :
      units / (2 ^ places * 2 ^ (length - format.precision)) < 2 ^ format.precision := by
    rw [← Nat.div_div_eq_div_mul, Nat.div_lt_iff_lt_mul (Nat.two_pow_pos _), ← Nat.pow_add]
    exact Nat.lt_of_lt_of_le hfits (Nat.pow_le_pow_right (by decide) (by omega))
  have hrounded := roundHalfEven_le units (2 ^ places * 2 ^ (length - format.precision))
  have hstep : (length - format.precision) * 2 ^ (format.precision - 1) ≤
      (bits - format.precision) * 2 ^ (format.precision - 1) :=
    Nat.mul_le_mul_right _ (Nat.sub_le_sub_right hshort _)
  omega

/-- A significand has one digit before the fraction at most. -/
theorem significand_lt (format : BinaryFormat) (word : Nat) :
    format.significand word < 2 * Nat.pow 2 (format.precision - 1) := by
  simp only [significand, step, Nat.pow_eq]
  have hplace := Nat.two_pow_pos (format.precision - 1)
  have hword := Nat.div_add_mod word (2 ^ (format.precision - 1))
  have hfraction := Nat.mod_lt word hplace
  generalize 2 ^ (format.precision - 1) = place at *
  rcases Nat.eq_zero_or_pos (word / place) with hzero | hpos
  · rw [hzero] at hword ⊢
    omega
  · obtain ⟨exponent, hexponent⟩ := Nat.exists_eq_add_of_le' hpos
    rw [hexponent, Nat.mul_add, Nat.mul_one, Nat.mul_comm] at hword
    rw [hexponent, Nat.add_sub_cancel]
    omega

/-- A word on a small step has a small value. -/
theorem units_lt {format : BinaryFormat} (hprecision : 0 < format.precision) {word top : Nat}
    (h : format.step word ≤ top) : format.units word < Nat.pow 2 (format.precision + top) := by
  have hsignificand : format.significand word < Nat.pow 2 format.precision := by
    have hplaces : format.precision = format.precision - 1 + 1 := by omega
    rw [hplaces, Nat.pow_eq, Nat.pow_succ, Nat.mul_comm]
    exact significand_lt format word
  simp only [units, Nat.pow_eq] at *
  calc format.significand word * 2 ^ format.step word
      < 2 ^ format.precision * 2 ^ format.step word :=
        Nat.mul_lt_mul_of_pos_right hsignificand (Nat.two_pow_pos _)
    _ ≤ 2 ^ format.precision * 2 ^ top :=
        Nat.mul_le_mul_left _ (Nat.pow_le_pow_right (by decide) h)
    _ = 2 ^ (format.precision + top) := (Nat.pow_add 2 _ _).symm

/-- A finite number of 32 bits stands on a step that is not far out. -/
theorem step_single_le {word : Nat} (h : word < single.infinity) : single.step word ≤ 253 := by
  have hinfinity : single.infinity = 255 * Nat.pow 2 23 := by decide
  have hexponent : word / Nat.pow 2 23 < 255 :=
    (Nat.div_lt_iff_lt_mul (Nat.two_pow_pos 23)).mpr (hinfinity ▸ h)
  have hstep : single.step word = word / Nat.pow 2 23 - 1 := rfl
  omega

end BinaryFormat

namespace Binary64

/-- **A number made of a sign and a finite word is finite.** -/
theorem isFinite_ofWord {negative : Bool} {word : Nat} (h : word < BinaryFormat.double.infinity) :
    (ofWord negative word).isFinite = true := by
  have hinfinity : BinaryFormat.double.infinity = 9218868437227405312 := by decide
  have hsign : Nat.pow 2 63 = 9223372036854775808 := by decide
  have hmagnitude : (ofWord negative word).magnitude = word := by
    rw [magnitude, ofWord, UInt64.toNat_ofNat', hsign]
    split <;> omega
  rw [isFinite, hmagnitude]
  exact decide_eq_true h

/-- A finite number of 32 bits is finite when it is widened. -/
theorem isFinite_ofSingle {word : UInt32}
    (h : word.toNat % Nat.pow 2 31 < BinaryFormat.single.infinity) :
    (ofSingle word).isFinite = true := by
  rw [ofSingle]
  simp only [if_pos h]
  have hunits := BinaryFormat.units_lt (by decide) (BinaryFormat.step_single_le h)
  exact isFinite_ofWord (BinaryFormat.nearest_lt_infinity 1202 hunits (by decide) (by decide))

variable {text : List Char} {x : Binary64}

/-- **What is read into 64 bits is finite.** -/
theorem isFinite_of_readDouble (h : readDouble text = .ok x) : x.isFinite = true := by
  rw [readDouble] at h
  cases hread : RealText.read text with
  | error fault =>
    rw [hread] at h
    cases h
  | ok read =>
    obtain ⟨negative, value⟩ := read
    rw [hread] at h
    cases value with
    | decimal digits exponent =>
      simp only [bind, Except.bind] at h
      split at h
      · next hfinite =>
        obtain rfl := Except.ok.inj h
        exact isFinite_ofWord hfinite
      · cases h
    | infinite => cases h
    | undefined => cases h

/-- **What is read into 32 bits is finite**, and is so still when it is widened. -/
theorem isFinite_of_readSingle (h : readSingle text = .ok x) : x.isFinite = true := by
  rw [readSingle] at h
  cases hread : RealText.read text with
  | error fault =>
    rw [hread] at h
    cases h
  | ok read =>
    obtain ⟨negative, value⟩ := read
    rw [hread] at h
    cases value with
    | decimal digits exponent =>
      simp only [bind, Except.bind] at h
      split at h
      · next hfinite =>
        obtain rfl := Except.ok.inj h
        have hinfinity : BinaryFormat.single.infinity = 2139095040 := by decide
        have hsign : Nat.pow 2 31 = 2147483648 := by decide
        refine isFinite_ofSingle ?_
        rw [UInt32.toNat_ofNat', hsign]
        split <;> omega
      · cases h
    | infinite => cases h
    | undefined => cases h

end Binary64

end QueryGate
