import QueryGate.Proofs.Filter.Abandoning
import QueryGate.Proofs.Filter.Fitting

/-!
# What is left of clauses

Which parts of some clauses are left by an allow-list, and as what, is said here without going
through the screening. A condition is *admitted* if its field has a reader that accepts its operand
(`QueryGate.AllowList.Admits`), and it then becomes what the reader makes of it
(`QueryGate.AllowList.Becomes`); it is admitted just if it becomes something
(`QueryGate.AllowList.admits_iff`). What is left of the clauses is settled part by part from that
(`QueryGate.AllowList.Leaves`), and the screening leaves this and nothing else
(`QueryGate.Clauses.screened_leaves`), whether the clauses were read from a request or made by a
program.

## What is not asked of the readers

A reader may refuse texts, read two texts alike, or read a text as the absence of a value. The last
is the only way in which a condition that does not ask for the absence of a value gets a scalar
without one, so the origin of scalars is said of the others.
-/

namespace QueryGate

/-- Everything in a list is related to something if the list is related to one, item by item. -/
theorem exists_forall₂_iff {α β : Type} {R : α → β → Prop} {xs : List α} :
    (∃ ys, List.Forall₂ R xs ys) ↔ ∀ x ∈ xs, ∃ y, R x y := by
  induction xs with
  | nil => simp
  | cons x rest ih =>
    rw [List.forall_mem_cons, ← ih]
    constructor
    · rintro ⟨_, h⟩
      obtain ⟨y, ys, hy, hys, -⟩ := List.forall₂_cons_left_iff.mp h
      exact ⟨⟨y, hy⟩, ys, hys⟩
    · rintro ⟨⟨y, hy⟩, ys, hys⟩
      exact ⟨y :: ys, .cons hy hys⟩

/-- **A sieve leaves what its test accepts**, each item as what the test makes of it. -/
theorem Noted.value_sift_eq_iff {ν α β : Type} {test : α → Except ν β} {R : α → β → Prop}
    {p : α → Prop} [DecidablePred p] (hR : ∀ a b, test a = .ok b ↔ R a b)
    (hp : ∀ a, p a ↔ ∃ b, R a b) {xs : List α} {ys : List β} :
    (sift test xs).value = ys ↔ List.Forall₂ R (xs.filter p) ys := by
  induction xs generalizing ys with
  | nil => simp [eq_comm]
  | cons a rest ih =>
    cases ha : test a with
    | ok b =>
      have hb : R a b := (hR a b).mp ha
      have hunique : ∀ c, R a c → c = b := fun c hc =>
        Except.ok.inj (((hR a c).mpr hc).symm.trans ha)
      rw [sift, ha, List.filter_cons_of_pos (by simpa using (hp a).mpr ⟨b, hb⟩),
        List.forall₂_cons_left_iff]
      constructor
      · rintro rfl
        exact ⟨b, _, hb, ih.mp rfl, rfl⟩
      · rintro ⟨c, cs, hc, hcs, rfl⟩
        rw [hunique c hc, ih.mpr hcs]
    | error notice =>
      have hnone : ¬p a := by
        intro h
        obtain ⟨b, hb⟩ := (hp a).mp h
        rw [(hR a b).mpr hb] at ha
        cases ha
      rw [sift, ha, List.filter_cons_of_neg (by simpa using hnone)]
      exact ih

namespace AllowList

variable {list : AllowList}

/-! ### Admitted conditions -/

/-- **That a reader accepts an operand**, under an operator. -/
inductive Accepts (reader : Reader) (operator : Operator) : Operand → Prop
  /-- The absence of a value, where it is asked for. -/
  | absent (h : operator = .isNull) : Accepts reader operator (.single .null)
  /-- A text that the reader takes. -/
  | single {item : Scalar} (h : ∃ s, reader.Makes item s) : Accepts reader operator (.single item)
  /-- Texts, of which there is one at least and the reader takes each. -/
  | many {items : List Scalar} (hne : items ≠ []) (h : ∀ item ∈ items, ∃ s, reader.Makes item s) :
      Accepts reader operator (.many items)

/-- **Accepted are the operands that a reader makes something of.** -/
theorem exists_reads_iff {reader : Reader} {operator : Operator} {operand : Operand} :
    (∃ passed, Reads reader operator operand passed) ↔ Accepts reader operator operand := by
  constructor
  · rintro ⟨passed, h⟩
    cases h with
    | absent h => exact .absent h
    | single h => exact .single ⟨_, h⟩
    | many hne h => exact .many hne (exists_forall₂_iff.mp ⟨_, h⟩)
  · intro h
    cases h with
    | absent h => exact ⟨_, .absent h⟩
    | single h =>
      obtain ⟨s, hs⟩ := h
      exact ⟨_, .single hs⟩
    | many hne h =>
      obtain ⟨scalars, hscalars⟩ := exists_forall₂_iff.mpr h
      exact ⟨_, .many hne hscalars⟩

/-- **That a list admits a condition**: its field has a reader, and this accepts its operand. -/
def Admits (list : AllowList) (condition : Condition) : Prop :=
  ∃ reader, list.reader? condition.field = some reader ∧
    Accepts reader condition.operator condition.operand

/-- **A condition is admitted if it becomes something.** -/
theorem admits_iff {condition : Condition} :
    list.Admits condition ↔ ∃ passed, list.Becomes condition passed := by
  constructor
  · rintro ⟨reader, hreader, h⟩
    obtain ⟨operand, hoperand⟩ := exists_reads_iff.mpr h
    exact ⟨_, reader, hreader, operand, hoperand, rfl⟩
  · rintro ⟨passed, reader, hreader, operand, hoperand, -⟩
    exact ⟨reader, hreader, exists_reads_iff.mp ⟨operand, hoperand⟩⟩

/-- A condition is admitted if it passes. -/
theorem isSome_screen_iff {condition : Condition} :
    (list.screen condition).toOption.isSome = true ↔ list.Admits condition := by
  rw [admits_iff, Option.isSome_iff_exists]
  exact exists_congr fun passed => Noted.toOption_eq_some_iff.trans screen_eq_ok_iff

instance (list : AllowList) : DecidablePred list.Admits := fun _ =>
  decidable_of_iff _ isSome_screen_iff

/-! ### Clauses -/

/-- Items with a field pass as they are, if the field is on the list. -/
theorem value_sift_pass {α : Type} (list : AllowList) (field : α → String) (items : List α) :
    (Noted.sift (list.pass field) items).value =
      items.filter fun item => list.allows (field item) := by
  rw [Noted.value_sift, ← List.filterMap_eq_filter]
  refine List.filterMap_congr fun item _ => ?_
  cases hallowed : list.allows (field item) <;>
    simp [pass, hallowed, Except.toOption, Option.guard]

/-- **What a list leaves of clauses**, part by part and in order. -/
structure Leaves (list : AllowList) (clauses left : Clauses) : Prop where
  /-- Of the conditions on rows, the admitted ones, each as what it becomes. -/
  filters : List.Forall₂ list.Becomes (clauses.filters.filter list.Admits) left.filters
  /-- The groups that are on the list. -/
  groups : left.groups = clauses.groups.filter list.allows
  /-- Of the conditions on groups, the admitted ones, each as what it becomes. -/
  having : List.Forall₂ list.Becomes (clauses.having.filter list.Admits) left.having
  /-- The sort keys with fields that are on the list. -/
  order : left.order = clauses.order.filter fun key => list.allows key.field
  /-- The greatest number of rows, as it was. -/
  limit : left.limit = clauses.limit
  /-- The number of rows to leave out, as it was. -/
  offset : left.offset = clauses.offset

end AllowList

namespace Clauses

variable {clauses left : Clauses} {list : AllowList}

/-- **Screening leaves of clauses what the list leaves of them.** -/
theorem value_screened_eq_iff :
    (clauses.screened list).value = left ↔ list.Leaves clauses left := by
  have hconditions : ∀ conditions passed, (Noted.sift list.screen conditions).value = passed ↔
      List.Forall₂ list.Becomes (conditions.filter list.Admits) passed :=
    fun _ _ => Noted.value_sift_eq_iff (fun _ _ => AllowList.screen_eq_ok_iff)
      fun _ => AllowList.admits_iff
  obtain ⟨filters, groups, having, order, limit, offset⟩ := left
  simp only [screened, Clauses.mk.injEq, hconditions, AllowList.value_sift_pass, id]
  constructor
  · rintro ⟨hfilters, rfl, hhaving, rfl, rfl, rfl⟩
    exact ⟨hfilters, rfl, hhaving, rfl, rfl, rfl⟩
  · rintro ⟨hfilters, rfl, hhaving, rfl, rfl, rfl⟩
    exact ⟨hfilters, rfl, hhaving, rfl, rfl, rfl⟩

/-- A condition that is left became of one that was there. -/
theorem exists_becomes_of_mem {passed : Condition}
    (h : passed ∈ (clauses.screened list).value.conditions) :
    ∃ condition ∈ clauses.conditions, list.Becomes condition passed := by
  have horigin : ∀ conditions ⊆ clauses.conditions,
      passed ∈ (Noted.sift list.screen conditions).value →
        ∃ condition ∈ clauses.conditions, list.Becomes condition passed := by
    intro conditions hsub hmem
    obtain ⟨condition, hcondition, hscreen⟩ := Noted.mem_value_sift.mp hmem
    exact ⟨condition, hsub hcondition, AllowList.screen_eq_ok_iff.mp hscreen⟩
  rcases List.mem_append.mp h with hfilter | hhaving
  · exact horigin _ (List.subset_append_left _ _) hfilter
  · exact horigin _ (List.subset_append_right _ _) hhaving

/-- **Exactly what screening does.** It leaves the admitted conditions, each as what the reader of
its field makes of it and in every other respect as it was, the groups and sort keys whose fields
are on the list, and the window, all of it in its order; and that is the result, unless a condition
ends the run. So a scalar in a condition that is left was
read by the reader of the condition's own field, unless there is no value, and one item of a list
that the reader does not take keeps the condition from being left. -/
theorem screened_leaves (clauses : Clauses) (list : AllowList) :
    (∀ left, (clauses.screened list).value = left ↔ list.Leaves clauses left) ∧
    (∀ left, (clauses.screened list).run.value = some left ↔
      list.Leaves clauses left ∧ ∀ condition ∈ clauses.conditions, ¬list.Abandons condition) ∧
    (∀ passed ∈ (clauses.screened list).value.conditions, ∀ s ∈ passed.operand.scalars,
      s ≠ .null → ∃ reader, list.reader? passed.field = some reader ∧
        ∃ condition ∈ clauses.conditions, condition.field = passed.field ∧
          ∃ item ∈ condition.operand.scalars, reader.Makes item s) ∧
    ∀ condition ∈ clauses.conditions, ∀ items, condition.operand = .many items →
      (∃ item ∈ items, ∀ reader, list.reader? condition.field = some reader →
        ¬∃ s, reader.Makes item s) → ¬list.Admits condition := by
  refine ⟨fun _ => value_screened_eq_iff, fun _ => ?_, ?_, ?_⟩
  · rw [value_run_screened_eq_some_iff, value_screened_eq_iff]
  · intro passed hpassed s hs hvalue
    obtain ⟨condition, hcondition, reader, hreader, operand, hreads, rfl⟩ :=
      exists_becomes_of_mem hpassed
    rcases hreads.makes_or_absent hs with ⟨item, hitem, hmakes⟩ | ⟨hnull, -⟩
    · exact ⟨reader, hreader, condition, hcondition, rfl, item, hitem, hmakes⟩
    · exact absurd hnull hvalue
  · rintro condition - items hitems ⟨item, hitem, hrefused⟩ ⟨reader, hreader, haccepts⟩
    rw [hitems] at haccepts
    cases haccepts with
    | many _ h => exact hrefused reader hreader (h item hitem)

end Clauses

end QueryGate
