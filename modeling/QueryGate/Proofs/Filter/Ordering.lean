import QueryGate.Proofs.Filter.Key
import QueryGate.Proofs.Filter.Origin
import QueryGate.Proofs.Filter.Ranking

/-!
# Directives in order

The directives of some parameters are those of the keys that make one, each of them once, and they
are ordered first by number and then by the place in which their keys first appeared
(`QueryGate.Directive.Standing.Before`). Each list of the clauses is in that order
(`QueryGate.Clauses.ofParams_in_order`).

## Where the places are

The directives that are sorted do not know their places: the sort compares numbers alone, and is
relied on to keep what it finds in order. So the directives are sorted here together with their
places (`QueryGate.Params.ordered`), by the same comparison, which gives the same list, and the
order is shown for that one (`QueryGate.Directive.Placed.pairwise_before_mergeSort`): the directive
of the first key goes behind those of smaller numbers and before all others, of which none has an
earlier key.
-/

namespace QueryGate

namespace Directive

/-! ### Places -/

/-- **Where a directive stands** among others. -/
structure Standing where
  /-- The number of its key, if there is one. -/
  number : Option UInt64
  /-- How many keys come before its own. -/
  position : Nat
  deriving DecidableEq, Repr

/-- **That one directive goes before another**: numbers ascend, what has a number goes before what
has none, and what has the same number, or none either, keeps the order of the keys. -/
inductive Standing.Before (a b : Standing) : Prop
  /-- The number is smaller. -/
  | smaller {m n : UInt64} (ha : a.number = some m) (hb : b.number = some n) (h : m < n)
  /-- There is a number, and the other has none. -/
  | numbered {m : UInt64} (ha : a.number = some m) (hb : b.number = none)
  /-- The numbers do not tell, and the key comes earlier. -/
  | earlier (hnumber : a.number = b.number) (hposition : a.position < b.position)

/-- **A directive where it stands.** -/
structure Placed extends Standing where
  /-- The directive. -/
  directive : Directive
  deriving DecidableEq, Repr

namespace Placed

/-- The directive with its number alone. -/
def ranked (placed : Placed) : Ranked := ⟨placed.number, placed.directive⟩

/-- That one directive goes before another. -/
def Before (a b : Placed) : Prop := a.toStanding.Before b.toStanding

/-- Directives go by the places of their numbers, and by the order of their keys where these
agree. -/
theorem before_iff {a b : Placed} :
    a.Before b ↔
      a.ranked.place < b.ranked.place ∨
        a.ranked.place = b.ranked.place ∧ a.position < b.position := by
  constructor
  · rintro (⟨ha, hb, h⟩ | ⟨ha, hb⟩ | ⟨hnumber, hposition⟩)
    · have hplace : a.ranked.place = _ := Ranked.place_of_some ha
      have hplace' : b.ranked.place = _ := Ranked.place_of_some hb
      rw [hplace, hplace']
      exact Or.inl (UInt64.lt_iff_toNat_lt.mp h)
    · have hplace' : b.ranked.place = _ := Ranked.place_of_none hb
      rw [hplace']
      exact Or.inl (Ranked.place_lt_size ha)
    · refine Or.inr ⟨?_, hposition⟩
      simp only [Ranked.place, ranked, hnumber]
  · rintro (hplace | ⟨hplace, hposition⟩)
    · cases ha : a.ranked.number with
      | none =>
        -- there is no place behind that of what has no number
        rw [Ranked.place_of_none ha] at hplace
        cases hb : b.ranked.number with
        | none =>
          rw [Ranked.place_of_none hb] at hplace
          exact absurd hplace (Nat.lt_irrefl _)
        | some n => exact absurd hplace (Nat.not_lt_of_gt (Ranked.place_lt_size hb))
      | some m =>
        cases hb : b.ranked.number with
        | none => exact .numbered ha hb
        | some n =>
          rw [Ranked.place_of_some ha, Ranked.place_of_some hb] at hplace
          exact .smaller ha hb (UInt64.lt_iff_toNat_lt.mpr hplace)
    · exact .earlier (number_eq_of_place_eq hplace) hposition

/-- Of two directives at most one goes before the other. -/
theorem Before.asymm {a b : Placed} (hab : a.Before b) : ¬b.Before a := by
  rw [before_iff] at hab ⊢
  omega

/-! ### Sorting -/

/-- Whether a directive may stand before another, by their numbers alone. -/
def precedes (a b : Placed) : Bool := Directive.precedes a.ranked b.ranked

theorem precedes_trans (a b c : Placed) :
    precedes a b = true → precedes b c = true → precedes a c = true :=
  Directive.precedes_trans a.ranked b.ranked c.ranked

theorem precedes_total (a b : Placed) : (precedes a b || precedes b a) = true :=
  Directive.precedes_total a.ranked b.ranked

/-- **Sorting by number keeps what has one number in its order.** -/
theorem pairwise_before_mergeSort {placed : List Placed}
    (h : placed.Pairwise fun a b => a.position < b.position) :
    (placed.mergeSort precedes).Pairwise Before := by
  induction placed with
  | nil => simp
  | cons a rest ih =>
    obtain ⟨hearlier, hrest⟩ := List.pairwise_cons.mp h
    have hsorted := ih hrest
    have hbefore : ∀ b ∈ (rest.mergeSort precedes).filter (!precedes a ·),
        b.ranked.place < a.ranked.place := by
      intro b hb
      have hnot := (List.mem_filter.mp hb).2
      rw [Bool.not_eq_true', Bool.eq_false_iff] at hnot
      exact Nat.lt_of_not_le fun hle => hnot ((precedes_iff _ _).mpr hle)
    have hbehind : ∀ b ∈ (rest.mergeSort precedes).filter (precedes a ·),
        a.ranked.place ≤ b.ranked.place ∧ a.position < b.position := by
      intro b hb
      obtain ⟨hmem, hprecedes⟩ := List.mem_filter.mp hb
      exact ⟨(precedes_iff _ _).mp hprecedes, hearlier b (List.mem_mergeSort.mp hmem)⟩
    rw [mergeSort_cons_eq precedes_trans precedes_total]
    refine List.pairwise_append.mpr
      ⟨hsorted.filter _, List.pairwise_cons.mpr ⟨fun b hb => ?_, hsorted.filter _⟩,
        fun b hb c hc => before_iff.mpr (Or.inl ?_)⟩
    · rw [before_iff]
      have hb := hbehind b hb
      omega
    · rcases List.mem_cons.mp hc with rfl | hc
      · exact hbefore b hb
      · exact Nat.lt_of_lt_of_le (hbefore b hb) (hbehind c hc).1

end Placed

/-- The directives of some parameters with their places, in the order of the parameters. -/
def placed (entries : List (String × List String)) : List Placed :=
  entries.zipIdx.filterMap fun entry =>
    (ofEntry entry.1).toOption.map fun ranked => ⟨⟨ranked.number, entry.2⟩, ranked.directive⟩

/-- Without their places they are the directives that are sorted. -/
theorem value_ofEntries_eq (entries : List (String × List String)) :
    (ofEntries entries).value = (placed entries).map Placed.ranked := by
  have hplaces : entries.zipIdx.map Prod.fst = entries := List.zipIdx_map_fst 0 entries
  rw [ofEntries, Noted.value_sift, placed, List.map_filterMap]
  conv_lhs => rw [← hplaces, List.filterMap_map]
  refine List.filterMap_congr fun entry _ => ?_
  rw [Function.comp_apply, Option.map_map]
  exact Option.map_id'.symm

/-- The places ascend. -/
theorem pairwise_position_placed (entries : List (String × List String)) :
    (placed entries).Pairwise fun a b => a.position < b.position := by
  refine List.Pairwise.filterMap _ (fun x y hlt a ha b hb => ?_) (pairwise_zipIdx entries)
  obtain ⟨ranked, -, rfl⟩ := Option.map_eq_some_iff.mp ha
  obtain ⟨ranked', -, rfl⟩ := Option.map_eq_some_iff.mp hb
  exact hlt

end Directive

namespace Params

open Directive (Placed)

/-- **That parameters give a directive a place**: its key stands there and makes it of its values,
and its number is the one that the key begins with, if a word can hold that. -/
def Places (params : Params) (placed : Placed) : Prop :=
  ∃ text values key, params.entries[placed.position]? = some (text, values) ∧
    Key.parse? text = some key ∧ Directive.of? key values = some placed.directive ∧
      ∀ n, placed.number = some n ↔ Key.Numbered text n

/-- The directives of parameters are those to which the parameters give a place. -/
theorem mem_placed_iff {params : Params} {placed : Placed} :
    placed ∈ Directive.placed params.entries ↔ params.Places placed := by
  rw [Directive.placed, List.mem_filterMap]
  constructor
  · rintro ⟨⟨⟨text, values⟩, position⟩, hentry, hplaced⟩
    obtain ⟨ranked, hranked, rfl⟩ := Option.map_eq_some_iff.mp hplaced
    obtain ⟨key, hkey, hdirective, hnumber⟩ :=
      Directive.ofEntry_eq_ok_iff.mp (Noted.toOption_eq_some_iff.mp hranked)
    refine ⟨text, values, key, List.mem_zipIdx_iff_getElem?.mp hentry, hkey, hdirective,
      fun n => ?_⟩
    rw [← Key.number_eq_some_iff hkey, ← hnumber]
  · rintro ⟨text, values, key, hentry, hkey, hdirective, hnumber⟩
    have hranked : Directive.ofEntry (text, values) = .ok placed.ranked := by
      refine Directive.ofEntry_eq_ok_iff.mpr ⟨key, hkey, hdirective, Option.ext fun n => ?_⟩
      exact (hnumber n).trans (Key.number_eq_some_iff hkey).symm
    refine ⟨((text, values), placed.position), List.mem_zipIdx_iff_getElem?.mpr hentry, ?_⟩
    rw [hranked]
    rfl

/-- **The directives of parameters, in order.** -/
def ordered (params : Params) : List Placed :=
  (Directive.placed params.entries).mergeSort Placed.precedes

/-- No directive is lost, and none is made up. -/
theorem mem_ordered_iff {params : Params} {placed : Placed} :
    placed ∈ params.ordered ↔ params.Places placed := by
  rw [ordered, List.mem_mergeSort, mem_placed_iff]

/-- Each directive goes before those behind it. -/
theorem pairwise_before_ordered (params : Params) : params.ordered.Pairwise Placed.Before :=
  Placed.pairwise_before_mergeSort (Directive.pairwise_position_placed params.entries)

end Params

namespace Clauses

/-- Each list of the clauses is made by the directives of its kind, in order. -/
theorem value_ofParams (params : Params) :
    (ofParams params).value =
      { filters := params.ordered.filterMap fun placed => placed.directive.filter?
        groups := (params.ordered.filterMap fun placed => placed.directive.group?).map Prod.fst
        having := (params.ordered.filterMap fun placed => placed.directive.group?).map Prod.snd
        order := params.ordered.filterMap fun placed => placed.directive.order?
        limit := (params.ordered.filterMap fun placed => placed.directive.limit?).getLast?
        offset := (params.ordered.filterMap fun placed => placed.directive.offset?).getLast? } := by
  have hmap : ∀ a ∈ Directive.placed params.entries, ∀ b ∈ Directive.placed params.entries,
      a.precedes b = Directive.precedes a.ranked b.ranked := fun a _ b _ => rfl
  have hsorted : (Directive.ofEntries params.entries).value.mergeSort Directive.precedes =
      params.ordered.map Directive.Placed.ranked := by
    rw [Directive.value_ofEntries_eq, Params.ordered]
    exact (List.map_mergeSort hmap).symm
  have hdirectives : ((params.ordered.map Directive.Placed.ranked).map
      Directive.Ranked.directive) = params.ordered.map fun placed => placed.directive := by
    rw [List.map_map]
    rfl
  rw [ofParams, Noted.map, hsorted, hdirectives, ofDirectives, foldl_add]
  simp [List.filterMap_map]

/-- **The clauses of parameters are in order.** They are made of the directives of all keys that
make one, and of no others; each of these directives goes before those behind it, so that none
occurs twice; and each list of the clauses is in the order of the directives. -/
theorem ofParams_in_order (params : Params) :
    ∃ ordered : List Directive.Placed,
      (∀ placed, placed ∈ ordered ↔ params.Places placed) ∧
      ordered.Pairwise Directive.Placed.Before ∧
      (ofParams params).value =
        { filters := ordered.filterMap fun placed => placed.directive.filter?
          groups := (ordered.filterMap fun placed => placed.directive.group?).map Prod.fst
          having := (ordered.filterMap fun placed => placed.directive.group?).map Prod.snd
          order := ordered.filterMap fun placed => placed.directive.order?
          limit := (ordered.filterMap fun placed => placed.directive.limit?).getLast?
          offset := (ordered.filterMap fun placed => placed.directive.offset?).getLast? } :=
  ⟨params.ordered, fun _ => Params.mem_ordered_iff, params.pairwise_before_ordered,
    value_ofParams params⟩

/-- The greatest number goes before a number that is too great, which counts as none. -/
example : (ofParams
      ⟨[("a", ["1"]), ("18446744073709551616:like[b]", ["x"]),
        ("18446744073709551615:like[c]", ["y"]), ("07:like[d]", ["z"]),
        ("7:like[e]", ["w"])]⟩).value.filters.map Condition.field = ["d", "e", "c", "a", "b"] := by
  cbv

end Clauses

end QueryGate
