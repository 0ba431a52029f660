import Mathlib.Data.List.Nodup
import QueryGate.Filter.Directive

/-!
# Ranked directives

Directives are put in order by their numbers (`QueryGate.Directive.precedes`), and directives
without a number come last (`QueryGate.Directive.precedes_iff`). Where no number occurs twice, the
order in which the directives came does not show any more
(`QueryGate.Directive.mergeSort_eq_of_perm`). Where one does, the order in which they came decides,
and so taking some of them away leaves the others as they stood
(`QueryGate.Directive.mergeSort_filter`).

What clauses then come to is said field by field: each list of the clauses is made by the directives
of its own kind, in order, and of several limits or offsets the last one counts
(`QueryGate.Clauses.foldl_add`).
-/

namespace QueryGate

namespace Directive

/-- The places of things in a list ascend. -/
theorem pairwise_zipIdx {α : Type} (xs : List α) : xs.zipIdx.Pairwise fun x y => x.2 < y.2 := by
  refine List.pairwise_map.mp ?_
  rw [List.zipIdx_map_snd]
  exact List.pairwise_lt_range' 1

/-! ### The order of ranks -/

/-- **The place of a rank** among all: that of its number, or behind all numbers. -/
def Ranked.place (ranked : Ranked) : Nat :=
  match ranked.number with
  | some n => n.toNat
  | none => UInt64.size

theorem Ranked.place_of_some {ranked : Ranked} {n : UInt64} (h : ranked.number = some n) :
    ranked.place = n.toNat := by
  rw [place, h]

theorem Ranked.place_of_none {ranked : Ranked} (h : ranked.number = none) :
    ranked.place = UInt64.size := by
  rw [place, h]

/-- A number is before the place of what has none. -/
theorem Ranked.place_lt_size {ranked : Ranked} {n : UInt64} (h : ranked.number = some n) :
    ranked.place < UInt64.size := by
  rw [place_of_some h]
  exact n.toNat_lt

/-- Ranks are ordered by their places. -/
theorem precedes_iff (a b : Ranked) : precedes a b = true ↔ a.place ≤ b.place := by
  cases ha : a.number with
  | none =>
    cases hb : b.number with
    | none => simp [precedes, ha, hb, Ranked.place_of_none]
    | some n =>
      simpa [precedes, ha, hb, Ranked.place_of_none ha] using Ranked.place_lt_size hb
  | some m =>
    cases hb : b.number with
    | none =>
      simpa [precedes, ha, hb, Ranked.place_of_none hb] using
        Nat.le_of_lt (Ranked.place_lt_size ha)
    | some n =>
      simp [precedes, ha, hb, Ranked.place_of_some, UInt64.le_iff_toNat_le]

/-- Ranks in the same place have the same number. -/
theorem number_eq_of_place_eq {a b : Ranked} (h : a.place = b.place) : a.number = b.number := by
  cases ha : a.number with
  | none =>
    cases hb : b.number with
    | none => rfl
    | some n =>
      rw [Ranked.place_of_none ha] at h
      exact absurd h.symm (Nat.ne_of_lt (Ranked.place_lt_size hb))
  | some m =>
    cases hb : b.number with
    | none =>
      rw [Ranked.place_of_none hb] at h
      exact absurd h (Nat.ne_of_lt (Ranked.place_lt_size ha))
    | some n =>
      rw [Ranked.place_of_some ha, Ranked.place_of_some hb] at h
      rw [UInt64.toNat_inj.mp h]

theorem precedes_trans (a b c : Ranked) :
    precedes a b = true → precedes b c = true → precedes a c = true := by
  rw [precedes_iff, precedes_iff, precedes_iff]
  exact Nat.le_trans

theorem precedes_total (a b : Ranked) : (precedes a b || precedes b a) = true := by
  rw [Bool.or_eq_true, precedes_iff, precedes_iff]
  exact Nat.le_total _ _

/-- **Sorted directives are in the order of their places.** -/
theorem pairwise_mergeSort_precedes (ranked : List Ranked) :
    (ranked.mergeSort precedes).Pairwise fun a b => precedes a b = true :=
  List.pairwise_mergeSort precedes_trans precedes_total ranked

/-- **One thing more** goes between those that it may not stand before and all the others. -/
theorem mergeSort_cons_eq {α : Type} {le : α → α → Bool}
    (htrans : ∀ a b c, le a b = true → le b c = true → le a c = true)
    (htotal : ∀ a b, (le a b || le b a) = true) (a : α) (xs : List α) :
    (a :: xs).mergeSort le =
      (xs.mergeSort le).filter (!le a ·) ++ a :: (xs.mergeSort le).filter (le a ·) := by
  obtain ⟨before, behind, hcons, hrest, hbefore⟩ := List.mergeSort_cons htrans htotal a xs
  have hsorted := List.pairwise_mergeSort htrans htotal (a :: xs)
  rw [hcons] at hsorted
  have hbehind : ∀ b ∈ behind, le a b = true :=
    (List.pairwise_cons.mp (List.pairwise_append.mp hsorted).2.1).1
  have hsmaller : (before ++ behind).filter (!le a ·) = before := by
    rw [List.filter_append, List.filter_eq_self.mpr hbefore, List.filter_eq_nil_iff.mpr,
      List.append_nil]
    intro b hb
    simp [hbehind b hb]
  have hothers : (before ++ behind).filter (le a ·) = behind := by
    rw [List.filter_append, List.filter_eq_self.mpr hbehind, List.filter_eq_nil_iff.mpr,
      List.nil_append]
    intro b hb
    simpa using hbefore b hb
  rw [hcons, hrest, hsmaller, hothers]

/-- **The order of some directives is not changed by what stands between them.** -/
theorem mergeSort_filter (p : Ranked → Bool) (ranked : List Ranked) :
    (ranked.filter p).mergeSort precedes = (ranked.mergeSort precedes).filter p := by
  induction ranked with
  | nil => simp
  | cons a rest ih =>
    cases ha : p a with
    | true =>
      have hswap : ∀ q : Ranked → Bool, ((rest.filter p).mergeSort precedes).filter q =
          ((rest.mergeSort precedes).filter q).filter p := by
        intro q
        rw [ih, List.filter_filter, List.filter_filter]
        exact List.filter_congr fun b _ => Bool.and_comm _ _
      rw [List.filter_cons_of_pos ha, mergeSort_cons_eq precedes_trans precedes_total,
        mergeSort_cons_eq precedes_trans precedes_total, hswap, hswap, List.filter_append,
        List.filter_cons_of_pos ha]
    | false =>
      have hnot : ¬p a = true := Bool.eq_false_iff.mp ha
      obtain ⟨before, behind, hcons, hrest, -⟩ :=
        List.mergeSort_cons precedes_trans precedes_total a rest
      rw [List.filter_cons_of_neg hnot, ih, hcons, hrest, List.filter_append, List.filter_append,
        List.filter_cons_of_neg hnot]

/-- **Where no number occurs twice, the order of the directives does not matter.** -/
theorem mergeSort_eq_of_perm {ranked ranked' : List Ranked} (h : ranked.Perm ranked')
    (hnumbers : (ranked.map Ranked.number).Nodup) :
    ranked.mergeSort precedes = ranked'.mergeSort precedes := by
  have hperm : (ranked.mergeSort precedes).Perm (ranked'.mergeSort precedes) :=
    (List.mergeSort_perm ranked _).trans (h.trans (List.mergeSort_perm ranked' _).symm)
  refine hperm.eq_of_pairwise (fun a b ha hb hab hba => ?_) (pairwise_mergeSort_precedes _)
    (pairwise_mergeSort_precedes _)
  have ha : a ∈ ranked := (List.mergeSort_perm ranked _).mem_iff.mp ha
  have hb : b ∈ ranked := h.mem_iff.mpr ((List.mergeSort_perm ranked' _).mem_iff.mp hb)
  have hplace := Nat.le_antisymm ((precedes_iff a b).mp hab) ((precedes_iff b a).mp hba)
  exact List.inj_on_of_nodup_map hnumbers ha hb (number_eq_of_place_eq hplace)

/-! ### Directives of one kind -/

/-- The condition on rows that a directive asks for. -/
def filter? : Directive → Option Condition
  | .filter condition => some condition
  | _ => none

/-- The field to group by, with the condition on its groups. -/
def group? : Directive → Option (String × Condition)
  | .group field having => some (field, having)
  | _ => none

theorem group?_eq_some_iff {directive : Directive} {field : String} {having : Condition} :
    directive.group? = some (field, having) ↔ directive = .group field having := by
  cases directive <;> simp [group?]

/-- The field to order by. -/
def order? : Directive → Option SortKey
  | .order key => some key
  | _ => none

/-- The limit. -/
def limit? : Directive → Option UInt64
  | .limit count => some count
  | _ => none

theorem limit?_eq_some_iff {directive : Directive} {count : UInt64} :
    directive.limit? = some count ↔ directive = .limit count := by
  cases directive <;> simp [limit?]

/-- The offset. -/
def offset? : Directive → Option UInt64
  | .offset count => some count
  | _ => none

theorem offset?_eq_some_iff {directive : Directive} {count : UInt64} :
    directive.offset? = some count ↔ directive = .offset count := by
  cases directive <;> simp [offset?]

/-- Each directive is of one kind. -/
theorem length_eq (directives : List Directive) :
    directives.length =
      (directives.filterMap filter?).length + (directives.filterMap group?).length +
        (directives.filterMap order?).length + (directives.filterMap limit?).length +
          (directives.filterMap offset?).length := by
  induction directives with
  | nil => rfl
  | cons directive rest ih =>
    cases directive <;>
      simp [List.filterMap_cons, filter?, group?, order?, limit?, offset?, ih] <;> omega

end Directive

/-- **What directives add to clauses**, field by field. -/
theorem Clauses.foldl_add (directives : List Directive) (clauses : Clauses) :
    directives.foldl add clauses =
      { filters := clauses.filters ++ directives.filterMap Directive.filter?
        groups := clauses.groups ++ (directives.filterMap Directive.group?).map Prod.fst
        having := clauses.having ++ (directives.filterMap Directive.group?).map Prod.snd
        order := clauses.order ++ directives.filterMap Directive.order?
        limit := (directives.filterMap Directive.limit?).getLast?.or clauses.limit
        offset := (directives.filterMap Directive.offset?).getLast?.or clauses.offset } := by
  induction directives generalizing clauses with
  | nil => simp
  | cons directive rest ih =>
    rw [List.foldl_cons, ih]
    cases directive <;>
      simp [add, List.filterMap_cons, Directive.filter?, Directive.group?, Directive.order?,
        Directive.limit?, Directive.offset?, List.getLast?_cons]

end QueryGate
