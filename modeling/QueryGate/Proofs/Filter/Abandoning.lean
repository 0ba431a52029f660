import QueryGate.Proofs.Filter.Screening

/-!
# Where a screening ends

A reader may end the run in which it is called, and then the screening has no result. When that
happens is said here without going through the screening: a condition *ends the run*
(`QueryGate.AllowList.Abandons`) if the reader of its field makes scalars of its first texts and
ends the run at the next one. Nothing else of clauses is given to a reader, so a screening has a
result unless one of the conditions ends the run
(`QueryGate.Clauses.value_run_screened_eq_none_iff`), and the result is what is left of the clauses
(`QueryGate.Clauses.value_run_screened_eq_some_iff`).

## The order of the texts

The texts of a condition are read in their order, up to the first that there is no scalar for. So a
text that is refused saves the run from those behind it in its condition, and from no others: a
condition that is dropped does not keep the next one from being read.
-/

namespace QueryGate

/-! ### Texts -/

namespace Reader

/-- **That a reader ends the run over some scalars**: it makes something of the first ones, and the
next one is a text at which it ends the run. -/
def Abandons (reader : Reader) (items : List Scalar) : Prop :=
  ∃ before raw behind, items = before ++ .text raw :: behind ∧
    (∀ item ∈ before, ∃ s, reader.Makes item s) ∧ reader raw = .error .abandoned

variable {reader : Reader}

/-- A reader that is given nothing does not end the run. -/
theorem not_abandons_nil : ¬reader.Abandons [] := by
  rintro ⟨before, raw, behind, h, -⟩
  exact absurd h.symm (by simp)

/-- **A reader ends the run at the first of some scalars**, or it makes something of that one and
ends the run over the others. -/
theorem abandons_cons_iff {item : Scalar} {rest : List Scalar} :
    reader.Abandons (item :: rest) ↔
      (∃ raw, item = .text raw ∧ reader raw = .error .abandoned) ∨
        (∃ s, reader.Makes item s) ∧ reader.Abandons rest := by
  constructor
  · rintro ⟨before, raw, behind, h, hbefore, hraw⟩
    cases before with
    | nil => exact Or.inl ⟨raw, (List.cons.inj h).1, hraw⟩
    | cons first before =>
      obtain ⟨rfl, rfl⟩ := List.cons.inj h
      obtain ⟨hfirst, hbefore⟩ := List.forall_mem_cons.mp hbefore
      exact Or.inr ⟨hfirst, before, raw, behind, rfl, hbefore, hraw⟩
  · rintro (⟨raw, rfl, hraw⟩ | ⟨hfirst, before, raw, behind, rfl, hbefore, hraw⟩)
    · exact ⟨[], raw, rest, rfl, nofun, hraw⟩
    · exact ⟨item :: before, raw, behind, rfl, List.forall_mem_cons.mpr ⟨hfirst, hbefore⟩, hraw⟩

/-- A reader ends the run over a single scalar if this is a text at which it does. -/
theorem abandons_singleton_iff {item : Scalar} :
    reader.Abandons [item] ↔ ∃ raw, item = .text raw ∧ reader raw = .error .abandoned := by
  simp [abandons_cons_iff, not_abandons_nil]

end Reader

/-! ### Conditions -/

namespace AllowList

variable {list : AllowList}

/-- The run ends after a change of the result if it ended before. -/
theorem map_eq_abandoned_iff {ε α β : Type} {f : α → β} {x : Except (Stop ε) α} :
    x.map f = .error .abandoned ↔ x = .error .abandoned := by
  cases x <;> simp [Except.map]

/-- The reading of texts ends the run where the reader does. -/
theorem readAll_eq_abandoned_iff {reader : Reader} {items : List Scalar} :
    readAll reader items = .error .abandoned ↔ reader.Abandons items := by
  induction items with
  | nil => simp [readAll, Reader.not_abandons_nil]
  | cons item rest ih =>
    rw [Reader.abandons_cons_iff]
    cases item with
    | text raw =>
      cases hraw : reader raw with
      | ok s => simp [readAll, hraw, map_eq_abandoned_iff, ih, Reader.Makes]
      | error stop => simp [readAll, hraw, Reader.Makes]
    | _ => simp [readAll, Reader.Makes]

/-- **An operand ends the run** if the reader does over its scalars. -/
theorem coerce_eq_abandoned_iff {reader : Reader} {operator : Operator} {operand : Operand} :
    coerce reader operator operand = .error .abandoned ↔ reader.Abandons operand.scalars := by
  rcases operand with s | (_ | ⟨item, items⟩)
  · rw [Operand.scalars, Reader.abandons_singleton_iff]
    cases s with
    | null =>
      rw [coerce]
      split <;> simp
    | text raw => cases hraw : reader raw <;> simp [coerce, hraw]
    | _ => simp [coerce]
  · simp [coerce, Operand.scalars, Reader.not_abandons_nil]
  · rw [coerce, map_eq_abandoned_iff, readAll_eq_abandoned_iff, Operand.scalars]

/-- **That a condition ends the run** when it is screened: the reader of its field does over its
scalars. -/
def Abandons (list : AllowList) (condition : Condition) : Prop :=
  ∃ reader, list.reader? condition.field = some reader ∧
    reader.Abandons condition.operand.scalars

/-- **The run is abandoned over a condition** if this ends the run. -/
theorem screen_eq_abandoned_iff {condition : Condition} :
    list.screen condition = .error .abandoned ↔ list.Abandons condition := by
  rw [screen, Abandons]
  cases list.reader? condition.field with
  | none => simp
  | some reader =>
    have hoperand : coerce reader condition.operator condition.operand = .error .abandoned ↔
        reader.Abandons condition.operand.scalars := coerce_eq_abandoned_iff
    simp only [Option.some.injEq, exists_eq_left', ← hoperand]
    cases coerce reader condition.operator condition.operand <;> simp

end AllowList

/-! ### Clauses -/

/-- **What is noted of a sieve** is why its test did not let something pass. -/
theorem Noted.mem_notices_sift {ν α β : Type} {test : α → Except ν β} {xs : List α} {e : ν} :
    e ∈ (sift test xs).notices ↔ ∃ a ∈ xs, test a = .error e := by
  induction xs with
  | nil => simp
  | cons a rest ih => cases h : test a <;> simp [sift, h, ih, eq_comm]

namespace Clauses

variable {clauses : Clauses} {list : AllowList}

/-- The run is abandoned in a screening if a condition ends it. -/
theorem abandoned_mem_notices_screened_iff :
    .abandoned ∈ (clauses.screened list).notices ↔
      ∃ condition ∈ clauses.conditions, list.Abandons condition := by
  have hconditions : ∀ conditions, .abandoned ∈ (Noted.sift list.screen conditions).notices ↔
      ∃ condition ∈ conditions, list.Abandons condition := fun _ =>
    Noted.mem_notices_sift.trans (exists_congr fun _ =>
      and_congr_right fun _ => AllowList.screen_eq_abandoned_iff)
  have hitems : ∀ notices : List Notice, Stop.abandoned ∉ notices.map Stop.refused := by
    simp
  simp only [screened, List.mem_append, hconditions, hitems, or_false, conditions, or_and_right,
    exists_or]

/-- **A screening has no result if a condition ends the run.** -/
theorem value_run_screened_eq_none_iff :
    (clauses.screened list).run.value = none ↔
      ∃ condition ∈ clauses.conditions, list.Abandons condition :=
  Noted.value_run_eq_none_iff.trans abandoned_mem_notices_screened_iff

/-- **The result of a screening** is what is left of the clauses, if no condition ends the run. -/
theorem value_run_screened_eq_some_iff {left : Clauses} :
    (clauses.screened list).run.value = some left ↔
      (clauses.screened list).value = left ∧
        ∀ condition ∈ clauses.conditions, ¬list.Abandons condition := by
  rw [Noted.value_run_eq_some_iff, abandoned_mem_notices_screened_iff]
  simp only [not_exists, not_and]

/-- Screenings have one result if they leave the same and end the run alike. -/
theorem value_run_screened_congr {others : Clauses}
    (hvalue : (clauses.screened list).value = (others.screened list).value)
    (habandons : (∃ condition ∈ clauses.conditions, list.Abandons condition) ↔
      ∃ condition ∈ others.conditions, list.Abandons condition) :
    (clauses.screened list).run.value = (others.screened list).run.value := by
  refine Option.ext fun left => ?_
  rw [Noted.value_run_eq_some_iff, Noted.value_run_eq_some_iff, hvalue,
    abandoned_mem_notices_screened_iff, abandoned_mem_notices_screened_iff, habandons]

end Clauses

end QueryGate
