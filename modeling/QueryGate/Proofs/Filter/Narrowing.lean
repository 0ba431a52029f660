import QueryGate.Proofs.Filter.Fitting

/-!
# Narrowing an allow-list

Taking names off an allow-list takes away the parts of the screened clauses that are about these
names, and does nothing to the others (`QueryGate.Clauses.value_screened_only`). So a list may be
widened without harm to what passed before: whatever the wider list leaves of some clauses, what the
narrower one leaves is among it, unchanged and in the same order
(`QueryGate.Clauses.screened_narrowed`).

Both come from one fact about a look-up in a narrower list (`QueryGate.AllowList.reader?_only`) and
from the screening looking at nothing else of a list (`QueryGate.Clauses.screened_congr`): the fate
of a part depends on the reader of its own field.
-/

namespace QueryGate

/-- What stands under another name makes no difference. -/
theorem Named.last?_cons_of_ne {α : Type} {k name : String} (h : k ≠ name) (a : α)
    (rest : Named α) : last? name ((k, a) :: rest) = last? name rest := by
  rw [last?, if_neg h]
  cases last? name rest <;> rfl

/-- What stands last under a name still does if the name is kept, and nothing does otherwise. -/
theorem Named.last?_filter {α : Type} (kept : String → Bool) (name : String) (things : Named α) :
    last? name (things.filter fun thing => kept thing.1) =
      if kept name then last? name things else none := by
  induction things with
  | nil => simp [last?]
  | cons thing rest ih =>
    obtain ⟨k, a⟩ := thing
    by_cases hk : k = name
    · subst hk
      cases hkept : kept k <;> simp [last?, ih, hkept]
    · rw [last?_cons_of_ne hk, ← ih]
      cases hkept : kept k with
      | true => rw [List.filter_cons_of_pos (by simp [hkept]), last?_cons_of_ne hk]
      | false => rw [List.filter_cons_of_neg (by simp [hkept])]

/-- **A sieve with a test that refuses more** leaves what else is not refused. -/
theorem Noted.value_sift_filter {ν α β : Type} {test narrow : α → Except ν β} {p : β → Bool}
    (h : ∀ a b, narrow a = .ok b ↔ test a = .ok b ∧ p b = true) (xs : List α) :
    (sift narrow xs).value = (sift test xs).value.filter p := by
  rw [value_sift, value_sift, List.filter_filterMap]
  refine List.filterMap_congr fun a _ => Option.ext fun b => ?_
  rw [Option.filter_eq_some_iff, toOption_eq_some_iff, toOption_eq_some_iff, h]

namespace AllowList

variable {list wider : AllowList} {kept : String → Bool}

/-- **The list with some of its names alone.** -/
def only (list : AllowList) (kept : String → Bool) : AllowList :=
  ⟨list.entries.filter fun entry => kept entry.1⟩

/-- **A name that is kept keeps its reader**, and any other loses it. -/
theorem reader?_only (field : String) :
    (list.only kept).reader? field = if kept field then list.reader? field else none :=
  Named.last?_filter kept field list.entries

/-- A condition becomes the same as before, if its field is kept. -/
theorem screen_only_eq_ok_iff {condition passed : Condition} :
    (list.only kept).screen condition = .ok passed ↔
      list.screen condition = .ok passed ∧ kept passed.field = true := by
  rw [screen_eq_ok_iff, screen_eq_ok_iff, Becomes, reader?_only]
  constructor
  · rintro ⟨reader, hreader, operand, hreads, rfl⟩
    split at hreader
    · next hkept => exact ⟨⟨reader, hreader, operand, hreads, rfl⟩, hkept⟩
    · cases hreader
  · rintro ⟨⟨reader, hreader, operand, hreads, rfl⟩, hkept⟩
    exact ⟨reader, (if_pos hkept).trans hreader, operand, hreads, rfl⟩

/-- An item passes as before, if its field is kept. -/
theorem pass_only_eq_ok_iff {α : Type} {field : α → String} {item passed : α} :
    (list.only kept).pass field item = .ok passed ↔
      list.pass field item = .ok passed ∧ kept (field passed) = true := by
  rw [pass_eq_ok_iff, pass_eq_ok_iff, allows, reader?_only]
  constructor
  · rintro ⟨rfl, hreader⟩
    split at hreader
    · next hkept => exact ⟨⟨rfl, hreader⟩, hkept⟩
    · cases hreader
  · rintro ⟨⟨rfl, hreader⟩, hkept⟩
    exact ⟨rfl, by rwa [if_pos hkept]⟩

/-- **That a list is part of a wider one**: whatever reader a field has on it, the field has on the
wider one. -/
def PartOf (list wider : AllowList) : Prop :=
  ∀ field reader, list.reader? field = some reader → wider.reader? field = some reader

/-- A list with some of its names alone is part of it. -/
theorem only_partOf (list : AllowList) (kept : String → Bool) : (list.only kept).PartOf list := by
  intro field reader h
  rw [AllowList.reader?_only] at h
  split at h
  · exact h
  · cases h

/-- A list that is part of a wider one is the wider one with its own names alone, as far as readers
go. -/
theorem PartOf.reader?_only (h : list.PartOf wider) (field : String) :
    list.reader? field = (wider.only list.allows).reader? field := by
  rw [AllowList.reader?_only, allows]
  cases hreader : list.reader? field with
  | none => rfl
  | some reader => exact (h field reader hreader).symm

end AllowList

namespace Clauses

variable {clauses : Clauses} {list wider : AllowList}

/-- **The parts of clauses that are about some fields**, with the window as it is. -/
def only (clauses : Clauses) (kept : String → Bool) : Clauses :=
  { clauses with
    filters := clauses.filters.filter fun condition => kept condition.field
    groups := clauses.groups.filter kept
    having := clauses.having.filter fun condition => kept condition.field
    order := clauses.order.filter fun key => kept key.field }

/-- **That clauses are part of others**: list by list they have some of their parts, in the same
order, and they have the same window. -/
structure PartOf (clauses others : Clauses) : Prop where
  /-- The conditions on rows are among those of the others. -/
  filters : clauses.filters.Sublist others.filters
  /-- So are the groups, -/
  groups : clauses.groups.Sublist others.groups
  /-- the conditions on groups, -/
  having : clauses.having.Sublist others.having
  /-- and the sort keys. -/
  order : clauses.order.Sublist others.order
  /-- The greatest number of rows is the same. -/
  limit : clauses.limit = others.limit
  /-- So is the number of rows to leave out. -/
  offset : clauses.offset = others.offset

/-- The parts about some fields are part of the whole. -/
theorem only_partOf (clauses : Clauses) (kept : String → Bool) :
    (clauses.only kept).PartOf clauses where
  filters := List.filter_sublist
  groups := List.filter_sublist
  having := List.filter_sublist
  order := List.filter_sublist
  limit := rfl
  offset := rfl

/-- **Screening looks at nothing of a list but its readers.** -/
theorem screened_congr (h : ∀ field, list.reader? field = wider.reader? field) :
    clauses.screened list = clauses.screened wider := by
  have hscreen : list.screen = wider.screen := by
    funext condition
    rw [AllowList.screen, AllowList.screen, h]
  have hpass : ∀ {α : Type} (field : α → String), list.pass field = wider.pass field := by
    intro α field
    funext item
    rw [AllowList.pass, AllowList.pass, AllowList.allows, AllowList.allows, h]
  rw [screened, screened, hscreen, hpass, hpass]

/-- **Taking names off a list** takes away what is about them. -/
theorem value_screened_only (clauses : Clauses) (list : AllowList) (kept : String → Bool) :
    (clauses.screened (list.only kept)).value = (clauses.screened list).value.only kept := by
  have hconditions : ∀ conditions, (Noted.sift (list.only kept).screen conditions).value =
      (Noted.sift list.screen conditions).value.filter fun passed => kept passed.field :=
    Noted.value_sift_filter fun _ _ => AllowList.screen_only_eq_ok_iff
  have hitems : ∀ {α : Type} (field : α → String) (items : List α),
      (Noted.sift ((list.only kept).pass field) items).value =
        (Noted.sift (list.pass field) items).value.filter fun item => kept (field item) :=
    fun field => Noted.value_sift_filter fun _ _ => AllowList.pass_only_eq_ok_iff
  simp only [screened, only, hconditions, hitems, id]

/-- **A narrower list leaves less and nothing else.** With some names taken off a list, what is left
is what was left before without the parts about these names; and what is left by a part of a list is
part of what the whole list leaves, so a field that is granted in addition neither takes away a
condition nor changes one. -/
theorem screened_narrowed (clauses : Clauses) (list : AllowList) :
    (∀ kept, (clauses.screened (list.only kept)).value = (clauses.screened list).value.only kept) ∧
      ∀ wider, list.PartOf wider →
        (clauses.screened list).value.PartOf (clauses.screened wider).value := by
  refine ⟨value_screened_only clauses list, fun wider h => ?_⟩
  rw [screened_congr h.reader?_only, value_screened_only]
  exact only_partOf _ _

/-- What is left of the visits if days are not on the list was left before. -/
theorem screened_narrowed_visits :
    (AllowList.visits.only fun name => name = "guest").PartOf .visits ∧
      ((ofQueryString visits).value.screened
          (AllowList.visits.only fun name => name = "guest")).value.PartOf
        ((ofQueryString visits).value.screened .visits).value :=
  ⟨AllowList.only_partOf _ _, (screened_narrowed _ _).2 .visits (AllowList.only_partOf _ _)⟩

end Clauses

end QueryGate
