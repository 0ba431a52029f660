import QueryGate.Proofs.Text.Utf8
import QueryGate.Text.Form

/-!
# Spellings

One text has many spellings in a query string: a character may stand for itself unless it is
reserved, a space may be a plus sign, and any character may be escaped, byte by byte, in digits of
either case (`QueryGate.Form.Spells`). All of them are read as the text that they spell
(`QueryGate.Form.decode_of_spells`). The characters that divide a query string are reserved, so none
of them stands in a spelling (`QueryGate.Form.not_mem_of_spells`).
-/

namespace QueryGate.Form

/-- **The characters that cannot stand for themselves.** -/
def reserved : List Char := ['%', '+', '&', '=', '?']

/-- **That some bytes are written as escapes.** -/
inductive Escapes : List UInt8 → List Char → Prop
  /-- Nothing is escaped. -/
  | nil : Escapes [] []
  /-- One more byte in front. -/
  | cons {byte : UInt8} {high low : Char} {bytes : List UInt8} {escaped : List Char}
      (hhigh : Hexadecimal.value? high = some (byte.toNat / 16))
      (hlow : Hexadecimal.value? low = some (byte.toNat % 16)) (rest : Escapes bytes escaped) :
      Escapes (byte :: bytes) ('%' :: high :: low :: escaped)

/-- **That a text is spelt by a piece of a query string.** -/
inductive Spells : List Char → List Char → Prop
  /-- Nothing is spelt by nothing. -/
  | nil : Spells [] []
  /-- A character stands for itself. -/
  | plain {c : Char} {text spelling : List Char} (h : c ∉ reserved) (rest : Spells text spelling) :
      Spells (c :: text) (c :: spelling)
  /-- A space is a plus sign. -/
  | space {text spelling : List Char} (rest : Spells text spelling) :
      Spells (' ' :: text) ('+' :: spelling)
  /-- A character is escaped. -/
  | escaped {c : Char} {escaped text spelling : List Char}
      (h : Escapes (String.utf8EncodeChar c) escaped) (rest : Spells text spelling) :
      Spells (c :: text) (escaped ++ spelling)

/-! ### Undoing escapes -/

/-- A byte other than a percent sign is kept. -/
theorem unescape_cons_of_ne {byte : UInt8} (h : byte ≠ 37) (bytes : List UInt8) :
    unescape (byte :: bytes) = byte :: unescape bytes := by
  rcases bytes with _ | ⟨high, _ | ⟨low, rest⟩⟩
  · rfl
  · rfl
  · rw [unescape, if_neg h]

/-- Bytes without percent signs are kept. -/
theorem unescape_append_of_not_mem {bytes : List UInt8} (h : 37 ∉ bytes) (further : List UInt8) :
    unescape (bytes ++ further) = bytes ++ unescape further := by
  induction bytes with
  | nil => rfl
  | cons byte bytes ih =>
    obtain ⟨hbyte, hbytes⟩ := List.ne_and_not_mem_of_not_mem_cons h
    rw [List.cons_append, unescape_cons_of_ne (Ne.symm hbyte), ih hbytes, List.cons_append]

/-- A percent sign with two digits is a byte. -/
theorem unescape_percent {high low : UInt8} {m n : Nat} (hhigh : hexValue? high = some m)
    (hlow : hexValue? low = some n) (bytes : List UInt8) :
    unescape (37 :: high :: low :: bytes) = UInt8.ofNat (16 * m + n) :: unescape bytes := by
  rw [unescape, if_pos rfl, hhigh, hlow]

/-- **The bytes of a character that is not of ASCII** are none of ASCII either. -/
theorem le_toNat_of_mem_utf8EncodeChar {c : Char} (hc : 127 < c.val.toNat) {byte : UInt8}
    (h : byte ∈ String.utf8EncodeChar c) : 128 ≤ byte.toNat := by
  have hbyte : ∀ n, n < 256 → 128 ≤ n → byte = UInt8.ofNat n → 128 ≤ byte.toNat := by
    rintro n hn hle rfl
    rwa [UInt8.toNat_ofNat_of_lt' hn]
  rw [String.utf8EncodeChar] at h
  generalize c.val.toNat = v at hc h
  rw [if_neg (by omega)] at h
  split at h
  · simp only [List.mem_cons, List.not_mem_nil, or_false] at h
    rcases h with h | h <;> exact hbyte _ (by omega) (by omega) h
  split at h
  · simp only [List.mem_cons, List.not_mem_nil, or_false] at h
    rcases h with h | h | h <;> exact hbyte _ (by omega) (by omega) h
  · simp only [List.mem_cons, List.not_mem_nil, or_false] at h
    rcases h with h | h | h | h <;> exact hbyte _ (by omega) (by omega) h

/-- No other character than the percent sign has its byte. -/
theorem percent_not_mem_utf8EncodeChar {c : Char} (h : c ≠ '%') :
    37 ∉ String.utf8EncodeChar c := by
  intro hmem
  by_cases hc : c.val.toNat ≤ 127
  · have hone : String.utf8EncodeChar c = [UInt8.ofNat c.val.toNat] := if_pos hc
    rw [hone, List.mem_singleton] at hmem
    have hlt : c.val.toNat < 256 := by omega
    have hv : (37 : UInt8).toNat = c.val.toNat := by
      rw [hmem, UInt8.toNat_ofNat_of_lt' hlt]
    exact h (Char.ext (UInt32.toNat_inj.mp hv.symm))
  · exact absurd (le_toNat_of_mem_utf8EncodeChar (by omega) hmem) (by decide)

/-- A hexadecimal digit is one byte with the same value, and no plus sign. -/
theorem encode_of_value? {c : Char} {n : Nat} (h : Hexadecimal.value? c = some n) :
    spaced c = c ∧ ∃ byte, String.utf8EncodeChar c = [byte] ∧ hexValue? byte = some n := by
  have hplus : c ≠ '+' := by
    rintro rfl
    cases h
  have hle : ∀ d : Char, c ≤ d → d.val.toNat ≤ 127 → c.val.toNat ≤ 127 := fun d hcd hd =>
    Nat.le_trans (UInt32.le_iff_toNat_le.mp hcd) hd
  have hascii : c.val.toNat ≤ 127 := by
    rw [Hexadecimal.value?] at h
    split at h
    · next hrange => exact hle '9' hrange.2 (by decide)
    split at h
    · next hrange => exact hle 'F' hrange.2 (by decide)
    split at h
    · next hrange => exact hle 'f' hrange.2 (by decide)
    · cases h
  have hlt : c.val.toNat < 256 := by omega
  refine ⟨if_neg hplus, UInt8.ofNat c.val.toNat, if_pos hascii, ?_⟩
  rw [hexValue?, UInt8.toNat_ofNat_of_lt' hlt]
  exact (congrArg Hexadecimal.value? (Char.ofNat_toNat c)).trans h

/-- **Escaped bytes are read as themselves.** -/
theorem unescape_of_escapes {bytes : List UInt8} {escaped : List Char} (h : Escapes bytes escaped)
    (further : List UInt8) :
    unescape (Utf8.encode (escaped.map spaced) ++ further) = bytes ++ unescape further := by
  induction h with
  | nil => rfl
  | @cons byte high low bytes escaped hhigh hlow _ ih =>
    obtain ⟨hspaced, b, hb, hm⟩ := encode_of_value? hhigh
    obtain ⟨hspaced', b', hb', hn⟩ := encode_of_value? hlow
    have hpercent : String.utf8EncodeChar '%' = [37] := rfl
    have hbyte : UInt8.ofNat (16 * (byte.toNat / 16) + byte.toNat % 16) = byte := by
      rw [Nat.div_add_mod, UInt8.ofNat_toNat]
    have hsign : spaced '%' = '%' := rfl
    simp only [List.map_cons, Utf8.encode_cons, hsign, hspaced, hspaced', hpercent, hb, hb',
      List.cons_append, List.nil_append]
    rw [unescape_percent hm hn, hbyte, ih]

/-- **A spelling is read as the text that it spells.** -/
theorem decode_of_spells {text spelling : List Char} (h : Spells text spelling) :
    decode spelling = text := by
  have hbytes : unescape (Utf8.encode (spelling.map spaced)) = Utf8.encode text := by
    induction h with
    | nil => rfl
    | @plain c text spelling hc _ ih =>
      have hplus : c ≠ '+' := fun h => hc (by simp [reserved, h])
      have hpercent : c ≠ '%' := fun h => hc (by simp [reserved, h])
      have hspaced : spaced c = c := if_neg hplus
      rw [List.map_cons, hspaced, Utf8.encode_cons, Utf8.encode_cons,
        unescape_append_of_not_mem (percent_not_mem_utf8EncodeChar hpercent), ih]
    | @space text spelling _ ih =>
      have hspaced : spaced '+' = ' ' := rfl
      rw [List.map_cons, hspaced, Utf8.encode_cons, Utf8.encode_cons,
        unescape_append_of_not_mem (percent_not_mem_utf8EncodeChar (by decide)), ih]
    | @escaped c escaped text spelling hescaped _ ih =>
      rw [List.map_append, Utf8.encode_append, unescape_of_escapes hescaped, ih, Utf8.encode_cons]
  rw [decode, hbytes, Utf8.decode_encode]

/-- Bytes can be escaped. -/
theorem exists_escapes (bytes : List UInt8) : ∃ escaped, Escapes bytes escaped := by
  induction bytes with
  | nil => exact ⟨[], .nil⟩
  | cons byte bytes ih =>
    obtain ⟨escaped, hescaped⟩ := ih
    have hbyte : byte.toNat < 256 := byte.toNat_lt
    have hhigh : byte.toNat / 16 < 16 := by omega
    have hlow : byte.toNat % 16 < 16 := by omega
    exact ⟨_, .cons (Hexadecimal.value?_digit hhigh) (Hexadecimal.value?_digit hlow) hescaped⟩

/-- **Every text has a spelling.** -/
theorem exists_spells (text : List Char) : ∃ spelling, Spells text spelling := by
  induction text with
  | nil => exact ⟨[], .nil⟩
  | cons c text ih =>
    obtain ⟨spelling, hspelling⟩ := ih
    obtain ⟨escaped, hescaped⟩ := exists_escapes (String.utf8EncodeChar c)
    exact ⟨_, .escaped hescaped hspelling⟩

/-! ### What does not stand in a spelling -/

/-- Escapes are percent signs and digits. -/
theorem not_mem_of_escapes {c : Char} (hpercent : c ≠ '%') (hdigit : Hexadecimal.value? c = none)
    {bytes : List UInt8} {escaped : List Char} (h : Escapes bytes escaped) : c ∉ escaped := by
  induction h with
  | nil => exact List.not_mem_nil
  | cons hhigh hlow _ ih =>
    intro hmem
    rcases List.mem_cons.mp hmem with rfl | hmem
    · exact hpercent rfl
    rcases List.mem_cons.mp hmem with rfl | hmem
    · rw [hdigit] at hhigh
      cases hhigh
    rcases List.mem_cons.mp hmem with rfl | hmem
    · rw [hdigit] at hlow
      cases hlow
    exact ih hmem

/-- **A reserved character other than the signs of an escape and a space does not stand in a
spelling.** -/
theorem not_mem_of_spells {c : Char} (hc : c ∈ ['&', '=', '?']) {text spelling : List Char}
    (h : Spells text spelling) : c ∉ spelling := by
  have hall : ∀ c ∈ ['&', '=', '?'],
      c ∈ reserved ∧ c ≠ '+' ∧ c ≠ '%' ∧ Hexadecimal.value? c = none := by
    rw [List.forall_mem_cons, List.forall_mem_cons, List.forall_mem_singleton]
    decide
  obtain ⟨hreserved, hplus, hpercent, hdigit⟩ := hall c hc
  induction h with
  | nil => exact List.not_mem_nil
  | plain hplain _ ih =>
    intro hmem
    rcases List.mem_cons.mp hmem with rfl | hmem
    · exact hplain hreserved
    · exact ih hmem
  | space _ ih =>
    intro hmem
    rcases List.mem_cons.mp hmem with rfl | hmem
    · exact hplus rfl
    · exact ih hmem
  | escaped hescaped _ ih =>
    intro hmem
    rcases List.mem_append.mp hmem with hmem | hmem
    · exact not_mem_of_escapes hpercent hdigit hescaped hmem
    · exact ih hmem

end QueryGate.Form
