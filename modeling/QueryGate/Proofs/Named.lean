import QueryGate.Named

/-!
# What stands under which name

A list of named things is known by what stands under each name. This module says what putting a
thing under a name does to the names (`QueryGate.Named.mem_names_insert`), that it keeps them in
order (`QueryGate.Named.Ascending.insert`), and that things put under different names may be put
there in either order (`QueryGate.Named.insert_comm`). So a list that is made in this way is in
order (`QueryGate.Named.ascending_sorted`). The same is said of changing what stands under a name
(`QueryGate.Named.modify`).
-/

namespace QueryGate.Named

variable {α : Type}

/-! ### Names -/

/-- What stands under a name once a thing was put under one. -/
theorem get?_insert (name other : String) (a : α) (things : Named α) :
    get? other (insert name a things) = if other = name then some a else get? other things := by
  by_cases h : other = name
  · rw [if_pos h, h, get?_insert_self]
  · rw [if_neg h, get?_insert_of_ne h]

/-- The names of a list are those under which something stands. -/
theorem mem_names_iff {name : String} {things : Named α} :
    name ∈ names things ↔ (get? name things).isSome = true := by
  induction things with
  | nil => simp [names, get?]
  | cons thing rest ih =>
    obtain ⟨k, b⟩ := thing
    have hnames : names ((k, b) :: rest) = k :: names rest := rfl
    rw [hnames, List.mem_cons, ih]
    by_cases hk : name = k
    · simp [get?, hk]
    · simp [get?, List.lookup_cons, hk, beq_false_of_ne hk]

/-- A list with something put under a name has that name and those it had. -/
theorem mem_names_insert {name other : String} {a : α} {things : Named α} :
    other ∈ names (insert name a things) ↔ other = name ∨ other ∈ names things := by
  rw [mem_names_iff, mem_names_iff, get?_insert]
  by_cases h : other = name <;> simp [h]

/-! ### Order -/

/-- A name that is neither another one nor below it is above it. -/
private theorem lt_of_ne_of_not_lt {k name : String} (hne : ¬k = name) (hlt : ¬name < k) :
    k < name :=
  String.not_le.mp fun hle => hne (String.le_antisymm (String.not_lt.mp hlt) hle)

/-- **That the names of a list ascend**, so that none of them occurs twice. -/
def Ascending (things : Named α) : Prop := (names things).Pairwise (· < ·)

/-- **Putting a thing under a name keeps the names in order.** -/
theorem Ascending.insert {things : Named α} (h : Ascending things) (name : String) (a : α) :
    Ascending (insert name a things) := by
  induction things with
  | nil => exact List.pairwise_singleton _ _
  | cons thing rest ih =>
    obtain ⟨k, b⟩ := thing
    obtain ⟨hfirst, hrest⟩ := List.pairwise_cons.mp h
    rw [Named.insert]
    split
    · exact List.pairwise_cons.mpr ⟨hfirst, hrest⟩
    · next hne =>
      split
      · next hlt =>
        refine List.pairwise_cons.mpr ⟨List.forall_mem_cons.mpr ⟨hlt, fun other hother => ?_⟩, h⟩
        exact String.lt_trans hlt (hfirst other hother)
      · next hge =>
        refine List.pairwise_cons.mpr ⟨fun other hother => ?_, ih hrest⟩
        rcases mem_names_insert.mp hother with rfl | hother
        · exact lt_of_ne_of_not_lt hne hge
        · exact hfirst other hother

/-- A smaller name and a greater one may be put into a list in either order, whatever the list. -/
private theorem insert_comm_of_lt {name other : String} (hlt : name < other) (a b : α)
    (things : Named α) :
    insert name a (insert other b things) = insert other b (insert name a things) := by
  have hne : ¬name = other := fun h => String.lt_irrefl name (h ▸ hlt)
  have hge : ¬other < name := String.lt_asymm hlt
  induction things with
  | nil => simp [insert, hlt, hne, Ne.symm hne, hge]
  | cons thing rest ih =>
    obtain ⟨k, c⟩ := thing
    -- the smaller name stands at `k`, before it, or behind it; only then is the other one compared
    by_cases hk : k = name
    · subst hk
      simp [insert, hne, hge]
    · by_cases hklt : name < k
      · by_cases hk' : k = other
        · subst hk'
          simp [insert, hk, hlt, hne, hge]
        · by_cases hklt' : other < k <;>
            simp [insert, hk, hklt, hk', hklt', hlt, hge, hne, Ne.symm hne]
      · have hkname : k < name := lt_of_ne_of_not_lt hk hklt
        have hk' : ¬k = other := fun h => String.lt_irrefl k (String.lt_trans hkname (h ▸ hlt))
        have hklt' : ¬other < k := String.lt_asymm (String.lt_trans hkname hlt)
        simp [insert, hk, hklt, hk', hklt', ih]

/-- **Things under different names may be put there in either order**, into any list. -/
theorem insert_comm {name other : String} (hne : name ≠ other) (a b : α) (things : Named α) :
    insert name a (insert other b things) = insert other b (insert name a things) := by
  by_cases hlt : name < other
  · exact insert_comm_of_lt hlt a b things
  · exact (insert_comm_of_lt (lt_of_ne_of_not_lt (Ne.symm hne) hlt) b a things).symm

/-- Of two things put under one name the second one stays. -/
theorem insert_insert (name : String) (a b : α) (things : Named α) :
    insert name a (insert name b things) = insert name a things := by
  induction things with
  | nil => simp [insert]
  | cons thing rest ih =>
    obtain ⟨k, c⟩ := thing
    by_cases hk : k = name
    · simp [insert, hk]
    · by_cases hlt : name < k <;> simp [insert, hk, hlt, ih]

/-! ### Things put there one after another -/

/-- **Things put under their names one after another are in order.** -/
theorem ascending_sorted (things : List (String × α)) : Ascending (sorted things) :=
  List.foldlRecOn things _ List.Pairwise.nil fun _ h thing _ => h.insert thing.1 thing.2

/-- What stands in the list is one of the things that were put there. -/
theorem sorted_subset (things : List (String × α)) : sorted things ⊆ things := by
  refine List.foldlRecOn (motive := (· ⊆ things)) things _ (List.nil_subset _) ?_
  intro list hlist put hput thing hthing
  rcases eq_or_mem_of_mem_insert hthing with rfl | hold
  · exact hput
  · exact hlist hold

/-! ### Changes in place -/

/-- **A list with what stands under a name changed.** -/
def modify (name : String) (f : α → α) : Named α → Named α
  | [] => []
  | (k, a) :: rest => if k = name then (k, f a) :: rest else (k, a) :: modify name f rest

/-- What was put under a name and then changed might as well have been put there changed. -/
theorem modify_insert_self (name : String) (f : α → α) (a : α) (things : Named α) :
    modify name f (insert name a things) = insert name (f a) things := by
  induction things with
  | nil => simp [insert, modify]
  | cons thing rest ih =>
    obtain ⟨k, b⟩ := thing
    by_cases hk : k = name
    · simp [insert, modify, hk]
    · by_cases hlt : name < k <;> simp [insert, modify, hk, hlt, ih]

end QueryGate.Named
