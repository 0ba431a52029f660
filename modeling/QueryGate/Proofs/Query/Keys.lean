import Mathlib.Data.List.Forall2
import QueryGate.Proofs.Number.Numeral
import QueryGate.Proofs.Sql.Label
import QueryGate.Query.Expansion

/-!
# Keys

A key is the values of some columns, each of them brought into one form, and there is a key only if
there are all of them (`QueryGate.mapM_eq_some_iff`). Keys are compared value by value with
`QueryGate.Scalar.equals`, which is symmetric and transitive although an undefined number does not
equal itself; so leaving out repetitions loses nothing that a value could be equal to
(`QueryGate.Relation.any_distinct`).
-/

namespace QueryGate

/-! ### Equality as matching sees it -/

theorem Binary64.equals_comm (x y : Binary64) : x.equals y = y.equals x := by
  rw [Bool.eq_iff_iff]
  simp only [equals, Bool.and_eq_true, Bool.or_eq_true, beq_iff_eq, Bool.not_eq_true']
  constructor
  · rintro ⟨⟨hx, hy⟩, rfl | ⟨h, h'⟩⟩
    · exact ⟨⟨hy, hx⟩, Or.inl rfl⟩
    · exact ⟨⟨hy, hx⟩, Or.inr ⟨h', h⟩⟩
  · rintro ⟨⟨hy, hx⟩, rfl | ⟨h', h⟩⟩
    · exact ⟨⟨hx, hy⟩, Or.inl rfl⟩
    · exact ⟨⟨hx, hy⟩, Or.inr ⟨h, h'⟩⟩

theorem Binary64.equals_trans {x y z : Binary64} (hxy : x.equals y = true)
    (hyz : y.equals z = true) : x.equals z = true := by
  simp only [equals, Bool.and_eq_true, Bool.or_eq_true, beq_iff_eq, Bool.not_eq_true'] at hxy hyz ⊢
  obtain ⟨⟨hx, -⟩, hxy⟩ := hxy
  obtain ⟨⟨-, hz⟩, hyz⟩ := hyz
  refine ⟨⟨hx, hz⟩, ?_⟩
  rcases hxy with rfl | ⟨hx0, hy0⟩
  · exact hyz
  · rcases hyz with rfl | ⟨-, hz0⟩
    · exact Or.inr ⟨hx0, hy0⟩
    · exact Or.inr ⟨hx0, hz0⟩

namespace Scalar

/-- Scalars that are not both floating-point numbers are equal when they are the same. -/
theorem equals_iff_eq {a b : Scalar} (h : ∀ x y, a = .float x → b ≠ .float y) :
    a.equals b = true ↔ a = b := by
  cases a <;> cases b <;> simp_all [equals]

theorem equals_comm (a b : Scalar) : a.equals b = b.equals a := by
  by_cases h : (∃ x, a = .float x) ∧ ∃ y, b = .float y
  · obtain ⟨⟨x, rfl⟩, ⟨y, rfl⟩⟩ := h
    exact x.equals_comm y
  · have hab : a.equals b = true ↔ a = b :=
      equals_iff_eq fun x y ha hb => h ⟨⟨x, ha⟩, ⟨y, hb⟩⟩
    have hba : b.equals a = true ↔ b = a :=
      equals_iff_eq fun y x hb ha => h ⟨⟨x, ha⟩, ⟨y, hb⟩⟩
    rw [Bool.eq_iff_iff, hab, hba, eq_comm]

/-- **Equality is transitive**: where it is not sameness it is that of numbers. -/
theorem equals_trans {a b c : Scalar} (hab : a.equals b = true) (hbc : b.equals c = true) :
    a.equals c = true := by
  by_cases hb : ∃ y, b = .float y
  · obtain ⟨y, rfl⟩ := hb
    cases a <;> simp only [equals, beq_iff_eq, reduceCtorEq] at hab
    cases c <;> simp only [equals, beq_iff_eq, reduceCtorEq] at hbc
    exact Binary64.equals_trans hab hbc
  · have hb' : a = b := (equals_iff_eq fun _ y _ hy => hb ⟨y, hy⟩).mp hab
    rw [hb']
    exact hbc

end Scalar

/-! ### Values without repetitions -/

namespace Relation

/-- One value more is left out only if an equal one has been seen. -/
private theorem any_foldl_distinct (seen values : List Scalar) (v : Scalar) :
    (values.foldl (fun seen s => if seen.any (·.equals s) then seen else seen ++ [s]) seen).any
        (·.equals v) =
      (seen.any (·.equals v) || values.any (·.equals v)) := by
  induction values generalizing seen with
  | nil => simp
  | cons s rest ih =>
    rw [List.foldl_cons, ih, List.any_cons]
    split
    · next hseen =>
      obtain ⟨other, hother, hequal⟩ := List.any_eq_true.mp hseen
      cases hs : s.equals v with
      | false => simp
      | true =>
        have hv : seen.any (·.equals v) = true :=
          List.any_eq_true.mpr ⟨other, hother, Scalar.equals_trans hequal hs⟩
        simp [hv]
    · simp [Bool.or_assoc]

/-- **Leaving out repetitions loses nothing that a value could be equal to.** -/
theorem any_distinct (values : List Scalar) (v : Scalar) :
    (distinct values).any (·.equals v) = values.any (·.equals v) := by
  rw [distinct, any_foldl_distinct]
  simp

end Relation

/-! ### Keys of rows -/

/-- A list is read in full when each of its parts is. -/
theorem mapM_eq_some_iff {α β : Type} {f : α → Option β} {as : List α} {bs : List β} :
    as.mapM f = some bs ↔ as.map f = bs.map some := by
  induction as generalizing bs with
  | nil => cases bs <;> simp
  | cons a as ih =>
    cases bs with
    | nil => simp [Option.bind_eq_some_iff]
    | cons b bs =>
      have hcons : (a :: as).mapM f = some (b :: bs) ↔ f a = some b ∧ as.mapM f = some bs := by
        simp [Option.bind_eq_some_iff]
      rw [hcons, ih, List.map_cons, List.map_cons, List.cons_eq_cons]

/-- Lists with the same readings are read alike. -/
theorem mapM_congr_map {α β γ : Type} {f : α → Option γ} {g : β → Option γ} {as : List α}
    {bs : List β} (h : as.map f = bs.map g) : as.mapM f = bs.mapM g := by
  refine Option.ext fun cs => ?_
  rw [mapM_eq_some_iff, mapM_eq_some_iff, h]

namespace Relation

/-- Keys that are the same are equally long, and equal at each place. -/
theorem sameKey_iff {key other : List Scalar} :
    sameKey key other = true ↔ List.Forall₂ (fun a b => a.equals b = true) key other := by
  induction key generalizing other with
  | nil => cases other <;> simp [sameKey]
  | cons a as ih => cases other <;> simp [sameKey, ih]

/-- Names of key columns are told apart by their numbers. -/
theorem keyName_inj {i j : Nat} : keyName i = keyName j ↔ i = j := by
  refine ⟨fun h => Decimal.ofNat_inj.mp ?_, congrArg keyName⟩
  have hlist : "__expand_key_".toList ++ (Decimal.ofNat i).toList =
      "__expand_key_".toList ++ (Decimal.ofNat j).toList := by
    rw [← String.toList_append, ← String.toList_append]
    exact congrArg String.toList h
  exact String.toList_inj.mp (List.append_cancel_left hlist)

/-- Names of key columns have no blanks. -/
theorem blank_not_mem_keyName (i : Nat) : ' ' ∉ (keyName i).toList := by
  rw [keyName, String.toList_append, List.mem_append]
  rintro (h | h)
  · exact absurd h (by decide)
  · rw [Decimal.ofNat, String.toList_ofList] at h
    exact Decimal.not_mem_digits (by decide) i h

end Relation

end QueryGate
