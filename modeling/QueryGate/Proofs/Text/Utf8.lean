import QueryGate.Text.Utf8

/-!
# Text out of its own bytes

The bytes of a text are read as that text again (`QueryGate.Utf8.decode_encode`): for each character
the reader goes from one boundary to the next and delivers the character and nothing else
(`QueryGate.Utf8.decodeFrom_utf8EncodeChar`). The four lengths of a character are taken one by one.
A lead says how many tails are owed and what the first of them may be, and the first tail of a
character that is a character keeps to that.
-/

namespace QueryGate.Utf8

/-! ### One step of the reader -/

/-- A lead of a longer character delivers nothing yet. -/
theorem decodeFrom_lead {n : Nat} (hn : n < 256) {progress : Progress}
    (h : lead n = ([], progress)) (rest : List UInt8) :
    decodeFrom .boundary (UInt8.ofNat n :: rest) = decodeFrom progress rest := by
  rw [decodeFrom, UInt8.toNat_ofNat_of_lt' hn, h, List.nil_append]

/-- A tail in its place, if more tails are owed. -/
theorem decodeFrom_tail {n code owed least greatest : Nat} (hn : n < 256) (hleast : least ≤ n)
    (hgreatest : n ≤ greatest) (rest : List UInt8) :
    decodeFrom (.inside code (owed + 1) least greatest) (UInt8.ofNat n :: rest) =
      decodeFrom (.inside (extend code n) owed 0x80 0xBF) rest := by
  rw [decodeFrom, UInt8.toNat_ofNat_of_lt' hn, if_pos ⟨hleast, hgreatest⟩]

/-- The last tail delivers the character. -/
theorem decodeFrom_last {n code least greatest : Nat} (hn : n < 256) (hleast : least ≤ n)
    (hgreatest : n ≤ greatest) (rest : List UInt8) :
    decodeFrom (.inside code 0 least greatest) (UInt8.ofNat n :: rest) =
      Char.ofNat (extend code n) :: decodeFrom .boundary rest := by
  rw [decodeFrom, UInt8.toNat_ofNat_of_lt' hn, if_pos ⟨hleast, hgreatest⟩]

/-- The lead of a character of two bytes. -/
theorem lead_two {n : Nat} (hleast : 2 ≤ n) (hgreatest : n < 32) :
    lead (n + 192) = ([], .inside n 0 0x80 0xBF) := by
  have hall : ∀ n : Fin 32, 2 ≤ n.val → lead (n.val + 192) = ([], .inside n.val 0 0x80 0xBF) := by
    decide
  exact hall ⟨n, hgreatest⟩ hleast

/-- The lead of a character of three bytes: two of them restrict the first tail. -/
theorem lead_three {n : Nat} (h : n < 16) :
    lead (n + 224) =
      ([], .inside n 1 (if n = 0 then 0xA0 else 0x80) (if n = 13 then 0x9F else 0xBF)) := by
  have hall : ∀ n : Fin 16, lead (n.val + 224) =
      ([], .inside n.val 1 (if n.val = 0 then 0xA0 else 0x80)
        (if n.val = 13 then 0x9F else 0xBF)) := by
    decide
  exact hall ⟨n, h⟩

/-- The lead of a character of four bytes: two of them restrict the first tail. -/
theorem lead_four {n : Nat} (h : n < 5) :
    lead (n + 240) =
      ([], .inside n 2 (if n = 0 then 0x90 else 0x80) (if n = 4 then 0x8F else 0xBF)) := by
  have hall : ∀ n : Fin 5, lead (n.val + 240) =
      ([], .inside n.val 2 (if n.val = 0 then 0x90 else 0x80)
        (if n.val = 4 then 0x8F else 0xBF)) := by
    decide
  exact hall ⟨n, h⟩

/-! ### Characters and texts -/

/-- **The bytes of a character are read as that character**, and the reader is at a boundary
again. -/
theorem decodeFrom_utf8EncodeChar (c : Char) (rest : List UInt8) :
    decodeFrom .boundary (String.utf8EncodeChar c ++ rest) = c :: decodeFrom .boundary rest := by
  have hchar : ∀ n, n = c.val.toNat → Char.ofNat n = c := by
    rintro n rfl
    exact Char.ofNat_toNat c
  have hvalid : c.val.toNat < 0xD800 ∨ 0xDFFF < c.val.toNat ∧ c.val.toNat < 0x110000 := c.valid
  rw [String.utf8EncodeChar]
  generalize c.val.toNat = v at hchar hvalid
  split
  · next h1 =>
    have hlead : lead v = ([Char.ofNat v], .boundary) := if_pos (by omega)
    have hbyte : v < 256 := by omega
    rw [List.singleton_append, decodeFrom, UInt8.toNat_ofNat_of_lt' hbyte, hlead, hchar v rfl,
      List.singleton_append]
  split
  · next h1 h2 =>
    have hlead := lead_two (n := v / 64 % 32) (by omega) (by omega)
    rw [List.cons_append, List.singleton_append, decodeFrom_lead (by omega) hlead,
      decodeFrom_last (by omega) (by omega) (by omega), hchar _ (by simp only [extend]; omega)]
  split
  · next h1 h2 h3 =>
    have hlead := lead_three (n := v / 4096 % 16) (by omega)
    rw [List.cons_append, List.cons_append, List.singleton_append, decodeFrom_lead (by omega) hlead,
      decodeFrom_tail (by omega) (by split <;> omega) (by split <;> omega),
      decodeFrom_last (by omega) (by omega) (by omega), hchar _ (by simp only [extend]; omega)]
  · next h1 h2 h3 =>
    have hlead := lead_four (n := v / 262144 % 8) (by omega)
    rw [List.cons_append, List.cons_append, List.cons_append, List.singleton_append,
      decodeFrom_lead (by omega) hlead,
      decodeFrom_tail (by omega) (by split <;> omega) (by split <;> omega),
      decodeFrom_tail (by omega) (by omega) (by omega),
      decodeFrom_last (by omega) (by omega) (by omega), hchar _ (by simp only [extend]; omega)]

/-- **A text is read from its own bytes.** -/
theorem decode_encode (cs : List Char) : decode (encode cs) = cs := by
  rw [decode]
  induction cs with
  | nil => rfl
  | cons c cs ih => rw [encode_cons, decodeFrom_utf8EncodeChar, ih]

end QueryGate.Utf8
