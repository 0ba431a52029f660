import Mathlib.Data.List.TakeDrop
import Mathlib.Data.List.TakeWhile
import QueryGate.Json.Number
import QueryGate.Json.Reader
import QueryGate.Proofs.Number.Integer
import QueryGate.Proofs.Schema.Kind

/-!
# Numbers of JSON documents

Which scalar a number of a document is, said by the integer that the number is written as
(`QueryGate.Json.Numeral.integer?`) rather than by its sign and its digits. An integer that fits
into a signed word of 64 bits is that word, one that fits into an unsigned word alone is that, and
every other number is a real one (`QueryGate.Json.Numeral.scalar?_eq_some_iff`). A zero with a minus
sign is a real number, since no integer is written so.

## Integers written out

The numeral of an integer is also a document, namely a number (`QueryGate.Json.read?_ofInt`), and a
field of integers reads the same text as the same integer (`QueryGate.IntegerRange.read_ofInt`). The
tokens of such a document are a single run of characters (`QueryGate.Json.tokens?_run`).
-/

namespace QueryGate

namespace Decimal

/-- A numeral begins with a zero only if it is the numeral of zero. -/
theorem head?_digits_ne_zero {n : Nat} (h : n ≠ 0) : (digits n).head? ≠ some '0' := by
  have hdigit : ∀ d : Fin 10, d.val ≠ 0 → digitChar d ≠ '0' := by
    decide
  induction n using digits.induct with
  | case1 n hn =>
    rw [digits_of_lt hn, List.head?_cons]
    exact fun heq => hdigit ⟨n, hn⟩ h (Option.some.inj heq)
  | case2 n hn ih =>
    obtain ⟨c, cs, hdigits⟩ := List.exists_cons_of_ne_nil (digits_ne_nil (n / 10))
    have hhead := ih (by omega)
    rw [hdigits] at hhead
    rw [digits_of_ge (Nat.le_of_not_lt hn), hdigits]
    exact hhead

/-- The text of an integer spells it. -/
theorem spells_ofInt (n : Int) : Spells (ofInt n).toList n := by
  cases n with
  | ofNat n => simpa [ofInt, ofNat] using spells_digits n
  | negSucc n =>
    have hspells := Spells.minus (digits_ne_nil (n + 1)) fun c => isDigit_of_mem_digits
    rw [value_digits] at hspells
    simpa [ofInt, ofNat, Int.negSucc_eq] using hspells

/-- The text of an integer consists of digits and perhaps a sign. -/
theorem isDigit_or_eq_of_mem_ofInt {n : Int} {c : Char} (h : c ∈ (ofInt n).toList) :
    c.isDigit = true ∨ c = '-' := by
  cases n with
  | ofNat n => exact Or.inl (isDigit_of_mem_digits (by simpa [ofInt, ofNat] using h))
  | negSucc n =>
    have hmem : c = '-' ∨ c ∈ digits (n + 1) := by simpa [ofInt, ofNat] using h
    exact hmem.symm.imp isDigit_of_mem_digits id

end Decimal

namespace IntegerRange

/-- **The text of an integer is read as that integer**, if it is in the range. -/
theorem read_ofInt {range : IntegerRange} (hzero : range.Holds 0) {n : Int} (h : range.Holds n) :
    range.read (Decimal.ofInt n).toList = .ok n := by
  refine (read_eq_ok_iff hzero).mpr ⟨Decimal.spells_ofInt n, h, fun hsign => ?_⟩
  cases n with
  | ofNat n =>
    have hmem : '-' ∈ Decimal.digits n := by
      simpa [Decimal.ofInt, Decimal.ofNat] using List.mem_of_mem_head? hsign
    exact absurd hmem (Decimal.not_mem_digits (by decide) n)
  | negSucc n =>
    have hnegative : range.least < 0 := Int.lt_of_le_of_lt h.1 (Int.negSucc_lt_zero n)
    exact decide_eq_true hnegative

end IntegerRange

namespace Json

namespace Numeral

/-! ### Integers -/

/-- **The number that an integer is written as.** -/
def ofInt : Int → Numeral
  | .ofNat n => { negative := false, whole := Decimal.digits n, fraction := none, exponent := none }
  | .negSucc n =>
    { negative := true, whole := Decimal.digits (n + 1), fraction := none, exponent := none }

/-- **The integer that a number is written as**, if it has neither a point nor an exponent. A zero
with a minus sign is not one. -/
def integer? (n : Numeral) : Option Int :=
  let magnitude := Decimal.value n.whole
  if n.isIntegral then
    if n.negative then if magnitude = 0 then none else some (-magnitude) else some magnitude
  else none

/-- An integer is the integer that it is written as. -/
theorem integer?_ofInt (n : Int) : (ofInt n).integer? = some n := by
  cases n with
  | ofNat n => simp [ofInt, integer?, isIntegral, Decimal.value_digits]
  | negSucc n =>
    simp [ofInt, integer?, isIntegral, Decimal.value_digits]
    omega

/-- **What scalar a number is.** -/
inductive Valued : Numeral → Scalar → Prop
  /-- An integer that a signed word of 64 bits holds. -/
  | signed {n : Numeral} {k : Int64} (h : n.integer? = some k.toInt) : Valued n (.int k)
  /-- An integer above these that an unsigned word of 64 bits holds. -/
  | unsigned {n : Numeral} {k : UInt64} (h : n.integer? = some (k.toNat : Int))
      (hlarge : ¬(IntegerRange.signed 64).Holds k.toNat) : Valued n (.uint k)
  /-- Any other number. -/
  | real {n : Numeral} {x : Binary64}
      (h : ∀ k, n.integer? = some k →
        ¬(IntegerRange.signed 64).Holds k ∧ ¬(IntegerRange.unsigned 64).Holds k)
      (hx : n.real? = some x) : Valued n (.float x)

/-- What is not written as an integer is a real number. -/
theorem scalar?_of_integer?_eq_none {n : Numeral} (h : n.integer? = none) :
    n.scalar? = n.real?.map .float := by
  rw [integer?] at h
  rw [scalar?]
  split at h
  · next hintegral =>
    split at h
    · next hnegative =>
      split at h
      · next hzero => simp [hintegral, hnegative, hzero]
      · cases h
    · cases h
  · next hintegral => simp [hintegral]

/-- What is written as an integer is one, as far as a word of 64 bits can hold it. -/
theorem scalar?_of_integer? {n : Numeral} {k : Int} (h : n.integer? = some k) :
    n.scalar? =
      if (IntegerRange.signed 64).Holds k then some (.int (Int64.ofInt k))
      else if (IntegerRange.unsigned 64).Holds k then some (.uint (UInt64.ofNat k.toNat))
      else n.real?.map .float := by
  have hsigned : (IntegerRange.signed 64).Holds k ↔
      -9223372036854775808 ≤ k ∧ k ≤ 9223372036854775807 := Iff.rfl
  have hunsigned : (IntegerRange.unsigned 64).Holds k ↔ 0 ≤ k ∧ k ≤ 18446744073709551615 :=
    Iff.rfl
  have h63 : Nat.pow 2 63 = 9223372036854775808 := rfl
  have h64 : Nat.pow 2 64 = 18446744073709551616 := rfl
  simp only [integer?] at h
  simp only [scalar?, hsigned, hunsigned, h63, h64]
  split at h
  · next hintegral =>
    split at h
    · next hnegative =>
      split at h
      · cases h
      · next hzero =>
        obtain rfl := Option.some.inj h
        rw [if_neg (by simp [hnegative]), if_neg (by simp [hnegative])]
        by_cases hle : Decimal.value n.whole ≤ 9223372036854775808
        · rw [if_pos ⟨hintegral, hnegative, hzero, hle⟩, if_pos (by omega)]
        · rw [if_neg fun h => hle h.2.2.2, if_neg (by omega), if_neg (by omega)]
    · next hnegative =>
      obtain rfl := Option.some.inj h
      by_cases hlt : Decimal.value n.whole < 9223372036854775808
      · rw [if_pos ⟨hintegral, hnegative, hlt⟩, if_pos (by omega), Int64.ofInt_eq_ofNat]
      · rw [if_neg fun h => hlt h.2.2]
        by_cases hlt' : Decimal.value n.whole < 18446744073709551616
        · rw [if_pos ⟨hintegral, hnegative, hlt'⟩, if_neg (by omega), if_pos (by omega),
            Int.toNat_natCast]
        · rw [if_neg fun h => hlt' h.2.2, if_neg fun h => hnegative h.2.1, if_neg (by omega),
            if_neg (by omega)]
  · cases h

/-- **What scalar a number is.** -/
theorem scalar?_eq_some_iff {n : Numeral} {s : Scalar} : n.scalar? = some s ↔ Valued n s := by
  constructor
  · intro h
    cases hint : n.integer? with
    | none =>
      rw [scalar?_of_integer?_eq_none hint, Option.map_eq_some_iff] at h
      obtain ⟨x, hx, rfl⟩ := h
      exact .real (fun k hk => absurd (hint.symm.trans hk) (by simp)) hx
    | some k =>
      rw [scalar?_of_integer? hint] at h
      split at h
      · next hsigned =>
        obtain rfl := Option.some.inj h
        have hvalue := @Field.Width.toInt_ofInt .sixtyFour k hsigned
        exact .signed (by rw [hint, hvalue])
      · next hsigned =>
        split at h
        · next hunsigned =>
          obtain rfl := Option.some.inj h
          have hvalue := @Field.Width.toNat_ofNat .sixtyFour k hunsigned
          exact .unsigned (by rw [hint, hvalue]) (by rwa [hvalue])
        · next hunsigned =>
          obtain ⟨x, hx, rfl⟩ := Option.map_eq_some_iff.mp h
          refine .real (fun k' hk' => ?_) hx
          obtain rfl := Option.some.inj (hint.symm.trans hk')
          exact ⟨hsigned, hunsigned⟩
  · intro h
    cases h with
    | @signed k h =>
      have hholds : (IntegerRange.signed 64).Holds k.toInt :=
        ⟨k.le_toInt, Int.le_sub_one_of_lt k.toInt_lt⟩
      rw [scalar?_of_integer? h, if_pos hholds, Int64.ofInt_toInt]
    | @unsigned k h hlarge =>
      have hholds : (IntegerRange.unsigned 64).Holds k.toNat :=
        ⟨Int.natCast_nonneg _, Int.le_sub_one_of_lt (Int.ofNat_lt.mpr k.toNat_lt)⟩
      rw [scalar?_of_integer? h, if_neg hlarge, if_pos hholds, Int.toNat_natCast,
        UInt64.ofNat_toNat]
    | @real x h hx =>
      cases hint : n.integer? with
      | none => rw [scalar?_of_integer?_eq_none hint, hx, Option.map_some]
      | some k =>
        obtain ⟨hsigned, hunsigned⟩ := h k hint
        rw [scalar?_of_integer? hint, if_neg hsigned, if_neg hunsigned, hx, Option.map_some]

end Numeral

/-! ### Integers in a document -/

/-- Digits without a leading zero are a number. -/
theorem numeral?_of_digits {ds : List Char} (hne : ds ≠ []) (hdigits : ∀ c ∈ ds, c.isDigit = true)
    (hzero : ds.head? = some '0' → ds = ['0']) :
    numeral? ds = some ⟨false, ds, none, none⟩ ∧
      numeral? ('-' :: ds) = some ⟨true, ds, none, none⟩ := by
  have hascii : ∀ c ∈ ds, CharClass.isAsciiDigit c = true := hdigits
  have htake := List.takeWhile_eq_self_iff.mpr hascii
  have hdrop := List.dropWhile_eq_nil_iff.mpr hascii
  have hwhole : ¬(ds = [] ∨ (ds.head? = some '0' ∧ ds ≠ ['0'])) := by
    rintro (hempty | ⟨hhead, hmore⟩)
    · exact hne hempty
    · exact hmore (hzero hhead)
  constructor
  · obtain ⟨c, cs, rfl⟩ := List.exists_cons_of_ne_nil hne
    have hminus : c ≠ '-' := by
      rintro rfl
      exact absurd (hdigits '-' List.mem_cons_self) (by decide)
    simpa [numeral?, hminus, htake, hdrop, takeFraction?, exponent?] using hzero
  · simp only [numeral?, List.span_eq_takeWhile_dropWhile, htake, hdrop, if_neg hwhole]
    rfl

/-- The text of an integer is the number that the integer is written as. -/
theorem numeral?_ofInt (n : Int) : numeral? (Decimal.ofInt n).toList = some (.ofInt n) := by
  have hdigits : ∀ n, numeral? (Decimal.digits n) = some ⟨false, Decimal.digits n, none, none⟩ ∧
      numeral? ('-' :: Decimal.digits n) = some ⟨true, Decimal.digits n, none, none⟩ := by
    intro n
    refine numeral?_of_digits (Decimal.digits_ne_nil n) (fun c => Decimal.isDigit_of_mem_digits)
      fun hzero => ?_
    by_cases hn : n = 0
    · rw [hn, Decimal.digits_of_lt (by decide)]
      rfl
    · exact absurd hzero (Decimal.head?_digits_ne_zero hn)
  cases n with
  | ofNat n => simpa [Decimal.ofInt, Decimal.ofNat, Numeral.ofInt] using (hdigits n).1
  | negSucc n => simpa [Decimal.ofInt, Decimal.ofNat, Numeral.ofInt] using (hdigits (n + 1)).2

/-- A digit or a sign is none of the other characters. -/
theorem ne_of_isDigit_or_eq {c d : Char} (h : c.isDigit = true ∨ c = '-')
    (hdigit : d.isDigit = false) (hsign : d ≠ '-') : c ≠ d := by
  rintro rfl
  rcases h with h | h
  · exact Bool.false_ne_true (hdigit.symm.trans h)
  · exact hsign h

/-- A digit or a sign begins a run or goes on with one. -/
theorem cutOne?_of_isDigit_or_eq {c : Char} (h : c.isDigit = true ∨ c = '-') (seen : List Char) :
    cutOne? .between c = some ([], .run [c]) ∧
      cutOne? (.run seen) c = some ([], .run (c :: seen)) := by
  have hplain : ∀ d ∈ ['\x22', ' ', '\n', '\t', '\r', '[', ']', '\x7b', '\x7d', ',', ':'],
      d.isDigit = false ∧ d ≠ '-' := by
    simp
  have hne := fun d hd => ne_of_isDigit_or_eq h (hplain d hd).1 (hplain d hd).2
  simp only [List.forall_mem_cons] at hne
  simp [cutOne?, isSpace, punctuation?, hne]

/-- **Digits and signs make one run.** -/
theorem tokens?_run {cs : List Char} (h : ∀ c ∈ cs, c.isDigit = true ∨ c = '-')
    (seen : List Char) : tokens? (.run seen) cs = ended? (.run (cs.reverse ++ seen)) := by
  induction cs generalizing seen with
  | nil => rfl
  | cons c rest ih =>
    obtain ⟨hc, hrest⟩ := List.forall_mem_cons.mp h
    rw [tokens?, (cutOne?_of_isDigit_or_eq hc seen).2, List.reverse_cons, List.append_assoc]
    simp [ih hrest]

/-- **The text of an integer is a document**, with the number that the integer is written as. -/
theorem read?_ofInt (n : Int) : read? (Decimal.ofInt n) = some (.number (.ofInt n)) := by
  obtain ⟨c, cs, htext, -⟩ := Decimal.exists_ofInt_eq_cons n
  have hchars : ∀ d ∈ c :: cs, d.isDigit = true ∨ d = '-' :=
    fun d hd => Decimal.isDigit_or_eq_of_mem_ofInt (htext ▸ hd)
  obtain ⟨hc, hrest⟩ := List.forall_mem_cons.mp hchars
  have hplain : ∀ d ∈ ['n', 't', 'f'], d.isDigit = false ∧ d ≠ '-' := by
    simp
  have hne := fun d hd => ne_of_isDigit_or_eq hc (hplain d hd).1 (hplain d hd).2
  simp only [List.forall_mem_cons] at hne
  have hatom : atom? (c :: cs) = some (.number (.ofInt n)) := by
    have hnumeral := numeral?_ofInt n
    rw [htext] at hnumeral
    simp [atom?, hne, hnumeral]
  have htokens : tokens? .between (c :: cs) = some [.atom (.number (.ofInt n))] := by
    rw [tokens?, (cutOne?_of_isDigit_or_eq hc []).1]
    simp [tokens?_run hrest, ended?, hatom]
  rw [read?, htext, htokens]
  rfl

end Json

end QueryGate
