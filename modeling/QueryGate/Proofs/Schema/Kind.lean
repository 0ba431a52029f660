import QueryGate.Proofs.Number.Finite
import QueryGate.Proofs.Number.Integer
import QueryGate.Schema.Field

/-!
# Kinds of fields

A field is made by one of a few constructors and then given a check and grants, as may be. The
constructor settles its *kind* (`QueryGate.Field.IsOf`), and the kind settles what values the field
can be read as (`QueryGate.Field.Kind.Takes`): integers of the width that was asked for, real
numbers that are finite, truth values or texts. This module shows that a reader keeps to its kind,
whatever text it is given (`QueryGate.Field.Kind.takes_of_reader`).

## What a kind does not say

A moment is a text as far as the database is concerned, and which texts are spellings of a moment is
not said here. Nor is it said that a real number of 32 bits is one that this format has; it is
finite, and that is what a statement needs to know of it.
-/

namespace QueryGate

namespace Field

/-- **How wide an integer is**, in bits. -/
inductive Width where
  | eight
  | sixteen
  | thirtyTwo
  | sixtyFour
  deriving DecidableEq, Repr

/-- The number of bits. -/
def Width.bits : Width → Nat
  | .eight => 8
  | .sixteen => 16
  | .thirtyTwo => 32
  | .sixtyFour => 64

/-- **The kinds of fields.** -/
inductive Kind where
  /-- Texts. -/
  | text
  /-- Signed integers. -/
  | signed (width : Width)
  /-- Unsigned integers. -/
  | unsigned (width : Width)
  /-- Real numbers of 32 bits. -/
  | single
  /-- Real numbers of 64 bits. -/
  | double
  /-- Truth values. -/
  | truth
  /-- Moments, spelt by a pattern. -/
  | moment (pattern : String)
  deriving DecidableEq, Repr

namespace Kind

/-- The field of a kind, as its constructor makes it. -/
def field (name : String) : Kind → Field
  | .text => Field.text name
  | .signed width => Field.signed width.bits name
  | .unsigned width => Field.unsigned width.bits name
  | .single => Field.single name
  | .double => Field.double name
  | .truth => Field.truth name
  | .moment pattern => Field.moment pattern name

/-- **That a scalar is a value of a kind.** -/
inductive Takes : Kind → Scalar → Prop
  /-- Any text is one. -/
  | text (s : String) : Takes .text (.text s)
  /-- A signed integer within its width. -/
  | signed {width : Width} {n : Int64} (h : (IntegerRange.signed width.bits).Holds n.toInt) :
      Takes (.signed width) (.int n)
  /-- An unsigned integer within its width. -/
  | unsigned {width : Width} {n : UInt64} (h : (IntegerRange.unsigned width.bits).Holds n.toNat) :
      Takes (.unsigned width) (.uint n)
  /-- A finite number that was read into 32 bits. -/
  | single {x : Binary64} (h : x.isFinite = true) : Takes .single (.float x)
  /-- A finite number that was read into 64 bits. -/
  | double {x : Binary64} (h : x.isFinite = true) : Takes .double (.float x)
  /-- A truth value. -/
  | truth (b : Bool) : Takes .truth (.bool b)
  /-- The text of a moment. -/
  | moment {pattern : String} (s : String) : Takes (.moment pattern) (.text s)

end Kind

/-- **That a field is of a kind**: it was made as the kind makes fields, and it may have been given
a check and grants. -/
def IsOf (field : Field) (kind : Kind) : Prop :=
  field = { kind.field field.name with check := field.check, grants := field.grants }

/-! ### What is read -/

/-- What a reader makes of a text is made of something that was read. -/
theorem exists_of_verdict_map {ε α : Type} {fault : ε → ValueFault} {raw : String}
    {read : Except ε α} {f : α → Scalar} {s : Scalar}
    (h : verdict fault raw (read.map f) = .ok s) : ∃ a, read = .ok a ∧ f a = s := by
  cases read with
  | ok a => exact ⟨a, rfl, Except.ok.inj h⟩
  | error e => cases h

/-- **What a verdict accepts** is what was read. -/
theorem verdict_map_eq_ok_iff {ε α : Type} {fault : ε → ValueFault} {raw : String}
    {read : Except ε α} {f : α → Scalar} {s : Scalar} :
    verdict fault raw (read.map f) = .ok s ↔ ∃ a, read = .ok a ∧ f a = s := by
  refine ⟨exists_of_verdict_map, ?_⟩
  rintro ⟨a, rfl, rfl⟩
  rfl

/-- **What a verdict refuses** is the text, with the fault of the reading. -/
theorem verdict_map_eq_error_iff {ε α : Type} {fault : ε → ValueFault} {raw : String}
    {read : Except ε α} {f : α → Scalar} {e : Stop RejectedValue} :
    verdict fault raw (read.map f) = .error e ↔
      ∃ found, read = .error found ∧ e = .refused ⟨raw, fault found⟩ := by
  cases read with
  | ok a => exact iff_of_false (fun h => nomatch h) fun ⟨_, h, _⟩ => nomatch h
  | error found =>
    constructor
    · intro h
      exact ⟨found, rfl, (Except.error.inj h).symm⟩
    · rintro ⟨_, hfound, rfl⟩
      obtain rfl := Except.error.inj hfound
      rfl

namespace Width

variable {width : Width} {n : Int}

/-- A signed integer of a width keeps its value in a word of 64 bits. -/
theorem toInt_ofInt (h : (IntegerRange.signed width.bits).Holds n) :
    (Int64.ofInt n).toInt = n := by
  obtain ⟨hleast, hgreatest⟩ := h
  have hwidest : -9223372036854775808 ≤ (IntegerRange.signed width.bits).least ∧
      (IntegerRange.signed width.bits).greatest ≤ 9223372036854775807 := by
    cases width <;> decide
  exact Int64.toInt_ofInt_of_le (by omega) (by omega)

/-- An unsigned integer of a width keeps its value in a word of 64 bits. -/
theorem toNat_ofNat (h : (IntegerRange.unsigned width.bits).Holds n) :
    ((UInt64.ofNat n.toNat).toNat : Int) = n := by
  obtain ⟨hleast, hgreatest⟩ := h
  have hwidest : 0 ≤ (IntegerRange.unsigned width.bits).least ∧
      (IntegerRange.unsigned width.bits).greatest ≤ 18446744073709551615 := by
    cases width <;> decide
  rw [UInt64.toNat_ofNat']
  omega

end Width

namespace Kind

/-- **A reader keeps to the kind of its field.** -/
theorem takes_of_reader {kind : Kind} {name raw : String} {s : Scalar}
    (h : (kind.field name).reader raw = .ok s) : kind.Takes s := by
  cases kind with
  | text =>
    obtain rfl := Except.ok.inj h
    exact .text raw
  | signed width =>
    obtain ⟨n, hread, rfl⟩ := exists_of_verdict_map h
    have hholds := IntegerRange.holds_of_read (by cases width <;> decide) hread
    exact .signed (by rwa [Width.toInt_ofInt hholds])
  | unsigned width =>
    obtain ⟨n, hread, rfl⟩ := exists_of_verdict_map h
    have hholds := IntegerRange.holds_of_read (by cases width <;> decide) hread
    exact .unsigned (by rwa [Width.toNat_ofNat hholds])
  | single =>
    obtain ⟨x, hread, rfl⟩ := exists_of_verdict_map h
    exact .single (Binary64.isFinite_of_readSingle hread)
  | double =>
    obtain ⟨x, hread, rfl⟩ := exists_of_verdict_map h
    exact .double (Binary64.isFinite_of_readDouble hread)
  | truth =>
    simp only [field, Field.truth] at h
    split at h
    · obtain rfl := Except.ok.inj h
      exact .truth _
    · cases h
  | moment pattern =>
    simp only [field, Field.moment] at h
    split at h
    · obtain rfl := Except.ok.inj h
      exact .moment _
    · cases h

end Kind

/-- **What a field of a kind is read as** is a value of the kind. -/
theorem IsOf.takes_of_reader {field : Field} {kind : Kind} (hkind : field.IsOf kind) {raw : String}
    {s : Scalar} (h : field.reader raw = .ok s) : kind.Takes s := by
  rw [hkind] at h
  exact Kind.takes_of_reader h

end Field

end QueryGate
