import QueryGate.Proofs.Number.FirstFault
import QueryGate.Proofs.Schema.Spelling

/-!
# Fields of integers

A field of integers takes a text if and only if the text spells an integer of the field's width: one
digit or more behind a sign or none, a minus sign only where the field is signed. What it makes of
the text is a word of that value and of the field's signedness, and the literal of that word is the
canonical numeral (`QueryGate.Decimal.Canonical`), which the field reads as the same word again.
Every other text is refused with the first fault that it has from the left
(`QueryGate.IntegerRange.FirstFault`). Together that is
`QueryGate.Field.Kind.parse_integer`: the field is described for every text, by what the text is and
not by how it is read.

The eight constructors differ by their width and signedness only, and what they have in common is
`QueryGate.Field.Kind.parse_eq_verdict`.
-/

namespace QueryGate

namespace Decimal

/-- **That a text is the canonical numeral of an integer**: digits without a zero in front of
others, with a minus sign for a negative number and no sign for any other. -/
inductive Canonical : List Char → Int → Prop
  /-- The numeral of a number that is not negative. -/
  | nonnegative {ds : List Char} (hne : ds ≠ []) (h : ∀ c ∈ ds, c.isDigit = true)
      (hzero : ds.head? = some '0' → ds = ['0']) : Canonical ds (value ds)
  /-- The numeral of a negative number. -/
  | negative {ds : List Char} (hne : ds ≠ []) (h : ∀ c ∈ ds, c.isDigit = true)
      (hzero : ds.head? ≠ some '0') : Canonical ('-' :: ds) (-value ds)

/-- **The text of an integer is its canonical numeral.** -/
theorem canonical_ofInt (n : Int) : Canonical (ofInt n).toList n := by
  have hdigit : ∀ {k : Nat}, ∀ c ∈ digits k, c.isDigit = true := fun c => isDigit_of_mem_digits
  cases n with
  | ofNat k =>
    have hzero : (digits k).head? = some '0' → digits k = ['0'] := by
      intro hhead
      obtain rfl : k = 0 := by_contra fun hk => head?_digits_ne_zero hk hhead
      exact digits_of_lt (by decide)
    have hcanonical := Canonical.nonnegative (digits_ne_nil k) hdigit hzero
    rw [value_digits] at hcanonical
    simpa [ofInt, ofNat] using hcanonical
  | negSucc k =>
    have hcanonical := Canonical.negative (digits_ne_nil (k + 1)) hdigit
      (head?_digits_ne_zero (Nat.succ_ne_zero k))
    rw [value_digits] at hcanonical
    simpa [ofInt, ofNat, Int.negSucc_eq] using hcanonical

end Decimal

namespace Field

namespace Kind

variable {kind : Kind} {range : IntegerRange}

/-- **Fields of integers differ by their range and signedness only.** -/
theorem parse_eq_verdict (hrange : kind.range? = some range) (name raw : String) :
    (kind.field name).parse raw =
      verdict .integer raw ((range.read raw.toList).map kind.kept) := by
  cases kind with
  | signed width =>
    obtain rfl := Option.some.inj hrange
    rfl
  | unsigned width =>
    obtain rfl := Option.some.inj hrange
    rfl
  | _ => cases hrange

/-- The range of a field of integers has zero in it. -/
theorem holds_zero (hrange : kind.range? = some range) : range.Holds 0 := by
  cases kind with
  | signed width =>
    obtain rfl := Option.some.inj hrange
    cases width <;> decide
  | unsigned width =>
    obtain rfl := Option.some.inj hrange
    cases width <;> decide
  | _ => cases hrange

/-- A range has negatives if the field is signed. -/
theorem hasNegatives_iff (hrange : kind.range? = some range) :
    range.hasNegatives = true ↔ ∃ width, kind = .signed width := by
  cases kind with
  | signed width =>
    obtain rfl := Option.some.inj hrange
    exact iff_of_true (by cases width <;> decide) ⟨width, rfl⟩
  | unsigned width =>
    obtain rfl := Option.some.inj hrange
    exact iff_of_false (by cases width <;> decide) fun ⟨_, h⟩ => nomatch h
  | _ => cases hrange

/-- **What an integer is kept as** is the one scalar of the kind that has its value. -/
theorem kept_eq_iff (hrange : kind.range? = some range) {n : Int} (hn : range.Holds n)
    {s : Scalar} : kind.kept n = s ↔ kind.Takes s ∧ s.number? = some n := by
  constructor
  · rintro rfl
    refine ⟨?_, number?_kept hrange hn⟩
    cases kind with
    | signed width =>
      obtain rfl := Option.some.inj hrange
      exact .signed (by rwa [Width.toInt_ofInt hn])
    | unsigned width =>
      obtain rfl := Option.some.inj hrange
      exact .unsigned (by rwa [Width.toNat_ofNat hn])
    | _ => cases hrange
  · rintro ⟨htakes, hnumber⟩
    cases htakes with
    | @signed width m _ =>
      obtain rfl : m.toInt = n := Option.some.inj hnumber
      exact congrArg Scalar.int (Int64.ofInt_toInt m)
    | @unsigned width m _ =>
      obtain rfl : (m.toNat : Int) = n := Option.some.inj hnumber
      exact congrArg Scalar.uint UInt64.ofNat_toNat
    | _ => cases hrange

/-- **What a field of integers makes of a text.** -/
theorem parse_integer (hrange : kind.range? = some range) (name raw : String) :
    (∀ s, (kind.field name).parse raw = .ok s ↔
      ∃ n, Decimal.Spells raw.toList n ∧
        (raw.toList.head? = some '-' → ∃ width, kind = .signed width) ∧ range.Holds n ∧
        kind.Takes s ∧ s.number? = some n) ∧
    (∀ s, (kind.field name).parse raw = .ok s →
      ∃ n, s.number? = some n ∧ Decimal.Canonical s.literal.toList n ∧
        (kind.field name).parse s.literal = .ok s) ∧
    ∀ e, (kind.field name).parse raw = .error e ↔
      ∃ fault, range.FirstFault raw.toList fault ∧ e = .refused ⟨raw, .integer fault⟩ := by
  have hzero := holds_zero hrange
  refine ⟨fun s => ?_, fun s hs => ?_, fun e => ?_⟩
  · rw [parse_eq_verdict hrange, verdict_map_eq_ok_iff]
    refine exists_congr fun n => ?_
    rw [IntegerRange.read_eq_ok_iff hzero, hasNegatives_iff hrange, and_assoc, and_assoc]
    refine and_congr_right fun _ => ?_
    constructor
    · rintro ⟨hn, hsign, hkept⟩
      exact ⟨hsign, hn, (kept_eq_iff hrange hn).mp hkept⟩
    · rintro ⟨hsign, hn, hkept⟩
      exact ⟨hn, hsign, (kept_eq_iff hrange hn).mpr hkept⟩
  · rw [parse_eq_verdict hrange, verdict_map_eq_ok_iff] at hs
    obtain ⟨n, hread, rfl⟩ := hs
    have hn := IntegerRange.holds_of_read hzero hread
    have hnumber := number?_kept hrange hn
    have hliteral : (kind.kept n).literal = Decimal.ofInt n :=
      Scalar.literal_of_number? hnumber
    rw [hliteral]
    exact ⟨n, hnumber, Decimal.canonical_ofInt n, reader_ofInt hrange hn name⟩
  · rw [parse_eq_verdict hrange, verdict_map_eq_error_iff]
    exact exists_congr fun fault =>
      and_congr_left fun _ => IntegerRange.read_eq_error_iff hzero

/-- The least integer of eight bits behind zeros, and two texts that leave that range: the first
before its stray character, the second after it. -/
theorem parse_integer_eight : (signed .eight).range? = some (IntegerRange.signed 8) ∧
    ((signed .eight).field "level").parse "-000128" = .ok (.int (-128)) ∧
    ((signed .eight).field "level").parse "128x" =
      .error (.refused ⟨"128x", .integer .tooLarge⟩) ∧
    ((signed .eight).field "level").parse "12x8" =
      .error (.refused ⟨"12x8", .integer .invalidDigit⟩) := by
  have hrange : (signed .eight).range? = some (IntegerRange.signed 8) := rfl
  have hdigits : ∀ d ∈ ['1', '2'], d.isDigit = true := by
    simp
  have hholds : (IntegerRange.signed 8).Holds (IntegerRange.signedValue false ['1', '2']) := by
    decide
  refine ⟨hrange, ?_, ?_, ?_⟩
  · refine ((parse_integer hrange "level" "-000128").1 _).mpr ⟨-128, ?_⟩
    have hspells : Decimal.Spells ['-', '0', '0', '0', '1', '2', '8'] (-128) :=
      @Decimal.Spells.minus ['0', '0', '0', '1', '2', '8'] (by decide) (by simp)
    exact ⟨hspells, fun _ => ⟨.eight, rfl⟩, by decide, .signed (by decide), by decide⟩
  · refine ((parse_integer hrange "level" "128x").2.2 _).mpr ⟨.tooLarge, ?_, rfl⟩
    exact @IntegerRange.FirstFault.beyond (.signed 8) _ ['1', '2'] ['x'] '8' false rfl hdigits
      hholds (by decide) (by decide)
  · refine ((parse_integer hrange "level" "12x8").2.2 _).mpr ⟨.invalidDigit, ?_, rfl⟩
    exact @IntegerRange.FirstFault.stray (.signed 8) _ ['1', '2'] ['8'] 'x' false rfl hdigits hholds
      (by decide)

end Kind

end Field

end QueryGate
