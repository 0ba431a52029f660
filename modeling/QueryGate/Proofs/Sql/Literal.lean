import QueryGate.Proofs.Json.Numeral
import QueryGate.Proofs.Sql.Injection

/-!
# What a literal says

Two scalars may have one literal: an integer and an unsigned integer of the same value, and numbers
that are told apart by more places than are written. Of the other kinds (`QueryGate.Scalar.Spelt`) a
literal says all there is to say but for the signedness of an integer: where it is read as the same,
the scalars are the same once they are brought into one form
(`QueryGate.Scalar.normalized_eq_of_tokens_eq`).

What a literal looks like is settled by a few forms (`QueryGate.Scalar.Form`), of which each has
something in it. Every scalar but bytes has a literal of such a form
(`QueryGate.Scalar.form_literal`), and that of bytes is empty.
-/

namespace QueryGate

namespace Scalar

/-- **That the literal of a scalar spells it out**: there is a literal, and nothing is rounded. -/
def Spelt : Scalar → Prop
  | .null | .bool _ | .int _ | .uint _ | .text _ => True
  | .float _ | .blob _ => False

instance : DecidablePred Spelt := fun s => by
  cases s <;> simp only [Spelt] <;> infer_instance

/-- The signed integer that an unsigned one becomes has the same value. -/
theorem toInt_toInt64 {n : UInt64} (h : n.toNat < Nat.pow 2 63) : n.toInt64.toInt = n.toNat := by
  have htoInt : n.toInt64.toInt = n.toBitVec.toInt := rfl
  have hpow : Nat.pow 2 63 = 9223372036854775808 := by decide
  have htoNat : n.toBitVec.toNat = n.toNat := rfl
  rw [htoInt, BitVec.toInt_eq_toNat_of_lt (by rw [htoNat]; omega), htoNat]

/-- **A scalar brought into one form has the same literal.** -/
theorem literal_normalized (s : Scalar) : s.normalized.literal = s.literal := by
  cases s with
  | uint n =>
    rw [normalized]
    split
    · next h =>
      rw [literal, toInt_toInt64 h]
      rfl
    · rfl
  | _ => rfl

/-- The number that an integer is, of either signedness. -/
def number? : Scalar → Option Int
  | .int n => some n.toInt
  | .uint n => some n.toNat
  | _ => none

/-- Integers are brought into one form by their values. -/
theorem normalized_eq_of_number? {s t : Scalar} {n : Int} (hs : s.number? = some n)
    (ht : t.number? = some n) : s.normalized = t.normalized := by
  have hpow : Nat.pow 2 63 = 9223372036854775808 := by decide
  -- an unsigned integer of the value of a signed one becomes that one
  have hmixed : ∀ (m : Int64) (k : UInt64), m.toInt = k.toNat →
      (Scalar.int m).normalized = (Scalar.uint k).normalized := by
    intro m k h
    have hlt : k.toNat < Nat.pow 2 63 := by
      have := m.toInt_lt
      omega
    have hsigned : (Scalar.uint k).normalized = .int k.toInt64 := if_pos hlt
    rw [hsigned]
    exact congrArg Scalar.int (Int64.toInt_inj.mp (by rw [h, toInt_toInt64 hlt]))
  cases s <;> cases t <;> simp only [number?, Option.some.injEq, reduceCtorEq] at hs ht
  case int.int m k => rw [Int64.toInt_inj.mp (hs.trans ht.symm)]
  case int.uint m k => exact hmixed m k (hs.trans ht.symm)
  case uint.int k m => exact (hmixed m k (ht.trans hs.symm)).symm
  case uint.uint m k =>
    have hvalue : (m.toNat : Int) = k.toNat := hs.trans ht.symm
    rw [UInt64.toNat_inj.mp (Int.ofNat.inj hvalue)]

/-- The literal of an integer is its numeral. -/
theorem literal_of_number? {s : Scalar} {n : Int} (h : s.number? = some n) :
    s.literal = Decimal.ofInt n := by
  cases s <;> simp only [number?, Option.some.injEq, reduceCtorEq] at h
  case int m => rw [literal, h]
  case uint m =>
    rw [← h]
    rfl

/-- Numerals are not words: they begin with a digit or a sign. -/
theorem ofInt_ne_of_head? {w : String} {c : Char} (hhead : w.toList.head? = some c)
    (hdigit : c.isDigit = false) (hsign : c ≠ '-') (n : Int) : w ≠ Decimal.ofInt n := by
  intro h
  obtain ⟨d, ds, htext, hd⟩ := Decimal.exists_ofInt_eq_cons n
  rw [h, htext] at hhead
  obtain rfl := Option.some.inj hhead
  rcases hd with hd | hd
  · exact absurd hd (by simp [hdigit])
  · exact hsign hd

/-- **What has the numeral of an integer as its literal is that integer**, if it is spelt out and no
text. -/
theorem number?_eq_some_iff {s : Scalar} (hspelt : s.Spelt) (htext : s.asText? = none) {n : Int} :
    s.number? = some n ↔ s.literal = Decimal.ofInt n := by
  refine ⟨literal_of_number?, fun h => ?_⟩
  have hnumber : ∀ m, s.number? = some m → s.number? = some n := by
    intro m hm
    rw [literal_of_number? hm] at h
    rw [hm, Decimal.ofInt_inj.mp h]
  cases s with
  | null => exact absurd h (ofInt_ne_of_head? rfl (by decide) (by decide) n)
  | bool b =>
    cases b
    · exact absurd h (ofInt_ne_of_head? rfl (by decide) (by decide) n)
    · exact absurd h (ofInt_ne_of_head? rfl (by decide) (by decide) n)
  | int m => exact hnumber _ rfl
  | uint m => exact hnumber _ rfl
  | float x => exact hspelt.elim
  | text x => exact absurd htext (by simp [asText?])
  | blob bytes => exact hspelt.elim

/-- **Scalars other than texts are known by their literals**, in one form. -/
theorem normalized_eq_of_literal_eq {s t : Scalar} (hs : s.Spelt) (ht : t.Spelt)
    (hsText : s.asText? = none) (htText : t.asText? = none) (h : s.literal = t.literal) :
    s.normalized = t.normalized := by
  have hnumber : s.number? = t.number? := by
    refine Option.ext fun n => ?_
    rw [number?_eq_some_iff hs hsText, number?_eq_some_iff ht htText, h]
  cases hn : s.number? with
  | some n => exact normalized_eq_of_number? hn (hnumber ▸ hn)
  | none =>
    -- what is no integer is one of three words
    have hword : ∀ s : Scalar, s.Spelt → s.asText? = none → s.number? = none →
        s ∈ [null, bool true, bool false] := by
      rintro (_ | (_ | _) | _ | _ | _ | _ | _) hspelt htext hnone <;>
        simp_all [Spelt, asText?, number?]
    have hmemS := hword s hs hsText hn
    have hmemT := hword t ht htText (hnumber ▸ hn)
    have hdistinct : ∀ s ∈ [null, bool true, bool false], ∀ t ∈ [null, bool true, bool false],
        s.literal = t.literal → s = t := by
      decide
    rw [hdistinct s hmemS t hmemT h]

/-- **What a value is read as determines it**, in one form. -/
theorem normalized_eq_of_tokens_eq {s t : Scalar} (hs : s.Spelt) (ht : t.Spelt)
    (h : (Piece.value s).tokens = (Piece.value t).tokens) : s.normalized = t.normalized := by
  -- a text is read as one literal, anything else as characters outside of literals
  have hmixed : ∀ (content : String) (cs : List Char), [Token.literal content] ≠ cs.map .plain := by
    rintro content (_ | ⟨c, cs⟩) heq <;> simp at heq
  cases hsText : s.asText? with
  | none =>
    rw [Piece.tokens_value_of_asText? hsText] at h
    cases htText : t.asText? with
    | none =>
      rw [Piece.tokens_value_of_asText? htText] at h
      have hplain : Function.Injective Token.plain := fun c d hcd => Token.plain.inj hcd
      have hchars := List.map_injective_iff.mpr hplain h
      exact normalized_eq_of_literal_eq hs ht hsText htText (String.toList_inj.mp hchars)
    | some content =>
      obtain rfl := eq_text_of_asText? htText
      exact absurd h.symm (hmixed content _)
  | some content =>
    obtain rfl := eq_text_of_asText? hsText
    cases htText : t.asText? with
    | none =>
      rw [Piece.tokens_value_of_asText? htText] at h
      exact absurd h (hmixed content _)
    | some content' =>
      obtain rfl := eq_text_of_asText? htText
      obtain rfl : content = content' := by simpa [Piece.tokens] using h
      rfl

/-! ### The forms of literals -/

/-- **The forms that a literal may have.** -/
inductive Form : List Char → Prop
  /-- One of three words. -/
  | word {w : String} (h : w ∈ ["NULL", "TRUE", "FALSE"]) : Form w.toList
  /-- An integer. -/
  | whole {cs : List Char} {n : Int} (h : Decimal.Spells cs n) : Form cs
  /-- A number with places: an integer, a point and more digits. -/
  | placed {cs places : List Char} {n : Int} (h : Decimal.Spells cs n) (hplaces : places ≠ [])
      (digital : ∀ c ∈ places, c.isDigit = true) : Form (cs ++ '.' :: places)
  /-- A text between quotes, with its own quotes written twice. -/
  | text (content : List Char) : Form ('\x27' :: (doubled content ++ ['\x27']))

/-- There is something in a literal of one of these forms. -/
theorem Form.ne_nil {cs : List Char} (h : Form cs) : cs ≠ [] := by
  cases h with
  | @word w hw =>
    intro hempty
    rw [String.toList_eq_nil_iff.mp hempty] at hw
    exact absurd hw (by decide)
  | whole h =>
    cases h with
    | plain hne h => exact hne
    | plus hne h => exact List.cons_ne_nil _ _
    | minus hne h => exact List.cons_ne_nil _ _
  | placed h hplaces digital => exact List.append_ne_nil_of_right_ne_nil _ (List.cons_ne_nil _ _)
  | text content => exact List.cons_ne_nil _ _

/-- Digits, a point and digits filled up with zeros have the form of a number with places, with a
sign or without. -/
theorem form_placed (negative : Bool) (whole width rest : Nat) :
    Form ((if negative then "-" else "") ++ Decimal.ofNat whole ++ "." ++
      String.ofList (Decimal.filled '0' width rest)).toList := by
  have hform : ∀ {cs : List Char} {n : Int}, Decimal.Spells cs n →
      Form (cs ++ '.' :: Decimal.filled '0' width rest) :=
    fun h => .placed h (Decimal.filled_ne_nil _ _ _) fun _ => Decimal.isDigit_of_mem_filled
  have hdigits := Decimal.digits_ne_nil whole
  cases negative with
  | false =>
    simpa [Decimal.ofNat] using hform (.plain hdigits fun _ => Decimal.isDigit_of_mem_digits)
  | true =>
    simpa [Decimal.ofNat] using hform (.minus hdigits fun _ => Decimal.isDigit_of_mem_digits)

/-- **Every scalar but bytes has a literal** of one of the forms. -/
theorem form_literal {s : Scalar} (h : ∀ bytes, s ≠ .blob bytes) : Form s.literal.toList := by
  cases s with
  | null => exact .word (by decide)
  | bool b => cases b <;> exact .word (by decide)
  | int n => exact .whole (Decimal.spells_ofInt n.toInt)
  | uint n => exact .whole (Decimal.spells_ofInt n.toNat)
  | float x =>
    rw [literal]
    split
    · rw [Binary64.fixed]
      exact form_placed _ _ _ _
    · exact .word (by decide)
  | text content =>
    have hchars : (Scalar.text content).literal.toList =
        '\x27' :: (doubled content.toList ++ ['\x27']) := by
      simp [literal]
    exact hchars ▸ .text content.toList
  | blob bytes => exact absurd rfl (h bytes)

/-- **Bytes are written as nothing**, and nothing else is. -/
theorem literal_eq_empty_iff {s : Scalar} : s.literal = "" ↔ ∃ bytes, s = .blob bytes := by
  constructor
  · intro hempty
    by_contra hbytes
    have hform := form_literal fun bytes h => hbytes ⟨bytes, h⟩
    rw [hempty] at hform
    exact hform.ne_nil rfl
  · rintro ⟨bytes, rfl⟩
    rfl

end Scalar

end QueryGate
