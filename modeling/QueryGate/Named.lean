/-!
# Named things

Lists of things under names. Where the names have an order, it is the ascending one, by code
points; `QueryGate.Named.insert` keeps it. Looking up and erasing do not depend on it, so what they
do to each other holds of every list.
-/

namespace QueryGate

/-- Things under names. -/
abbrev Named (α : Type) := List (String × α)

namespace Named

variable {α : Type}

/-- The first thing under a name. -/
def get? (name : String) (things : Named α) : Option α := things.lookup name

/-- The last thing under a name. -/
def last? (name : String) : Named α → Option α
  | [] => none
  | (k, a) :: rest =>
    match last? name rest with
    | some b => some b
    | none => if k = name then some a else none

/-- **A thing put under a name**, in place of the one that stood there. -/
def insert (name : String) (a : α) : Named α → Named α
  | [] => [(name, a)]
  | (k, b) :: rest =>
    if k = name then (k, a) :: rest
    else if name < k then (name, a) :: (k, b) :: rest
    else (k, b) :: insert name a rest

/-- The list without what stands under a name. -/
def erase (name : String) (things : Named α) : Named α := things.filter fun thing => thing.1 ≠ name

/-- **Things put under their names one after another.** -/
def sorted (things : List (String × α)) : Named α :=
  things.foldl (fun list thing => insert thing.1 thing.2 list) []

/-- The names of a list. -/
def names (things : Named α) : List String := things.map Prod.fst

/-- What was put under a name stands under it. -/
theorem get?_insert_self (name : String) (a : α) (things : Named α) :
    get? name (insert name a things) = some a := by
  induction things with
  | nil => simp [insert, get?]
  | cons thing rest ih =>
    obtain ⟨k, b⟩ := thing
    by_cases hk : k = name
    · simp [insert, hk, get?]
    · by_cases hlt : name < k
      · simp [insert, hk, hlt, get?]
      · have hne : (name == k) = false := beq_eq_false_iff_ne.mpr fun h => hk h.symm
        simp only [insert, hk, hlt, if_false, get?, List.lookup_cons, hne]
        exact ih

/-- What stands under another name stays. -/
theorem get?_insert_of_ne {name other : String} (h : other ≠ name) (a : α) (things : Named α) :
    get? other (insert name a things) = get? other things := by
  have hne : (other == name) = false := beq_eq_false_iff_ne.mpr h
  induction things with
  | nil => simp [insert, get?, List.lookup_cons, hne]
  | cons thing rest ih =>
    obtain ⟨k, b⟩ := thing
    by_cases hk : k = name
    · subst hk
      simp [insert, get?, List.lookup_cons, hne]
    · by_cases hlt : name < k
      · simp [insert, hk, hlt, get?, List.lookup_cons, hne]
      · simp only [insert, hk, hlt, if_false, get?, List.lookup_cons]
        split
        · rfl
        · exact ih

/-- What is in a list with something put under a name. -/
theorem eq_or_mem_of_mem_insert {name : String} {a : α} {things : Named α}
    {thing : String × α} (h : thing ∈ insert name a things) :
    thing = (name, a) ∨ thing ∈ things := by
  induction things with
  | nil => exact Or.inl (List.mem_singleton.mp h)
  | cons first rest ih =>
    obtain ⟨k, b⟩ := first
    rw [insert] at h
    split at h
    · next hk =>
      rcases List.mem_cons.mp h with rfl | h
      · exact Or.inl (by rw [hk])
      · exact Or.inr (List.mem_cons_of_mem _ h)
    · split at h
      · exact (List.mem_cons.mp h)
      · rcases List.mem_cons.mp h with rfl | h
        · exact Or.inr List.mem_cons_self
        · exact (ih h).imp id (List.mem_cons_of_mem _)

/-- What is left of a row after some names were erased one after another. -/
theorem mem_foldl_erase {nameOf : Nat → String} {thing : String × α}
    (places : List Nat) (things : Named α) :
    thing ∈ places.foldl (fun things i => erase (nameOf i) things) things ↔
      thing ∈ things ∧ ∀ i ∈ places, thing.1 ≠ nameOf i := by
  induction places generalizing things with
  | nil => simp
  | cons i rest ih =>
    rw [List.foldl_cons, ih, erase, List.mem_filter, List.forall_mem_cons, decide_eq_true_eq,
      and_assoc]

end Named

end QueryGate
