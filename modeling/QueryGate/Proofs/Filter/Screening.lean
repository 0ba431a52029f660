import Mathlib.Data.List.Forall2
import QueryGate.Filter.AllowList
import QueryGate.Proofs.Sql.Chain

/-!
# What passes an allow-list

Screening takes each part of some clauses by itself, so what is to be known of the whole is known
of one condition and of one item that has a field. A condition passes by the reader of its field,
as what the reader makes of it (`QueryGate.AllowList.screen_eq_ok_iff`), so what passes has a field
on the list (`QueryGate.AllowList.allows_of_screen`, `QueryGate.AllowList.pass_eq_ok_iff`). Clauses
that were screened therefore name fields on the list and no others
(`QueryGate.Clauses.allows_of_mem_fields`), wherever they name one.

## Readers and operands

What a reader makes of an operand is a relation here (`QueryGate.AllowList.Reads`), with a case for
each way in which an operand can be read. The screening computes it
(`QueryGate.AllowList.coerce_eq_ok_iff`), and whatever is to hold of what passes is shown of these
cases.
-/

namespace QueryGate

/-- **That a reader makes a scalar of another one**, which has to be a text. -/
def Reader.Makes (reader : Reader) (item s : Scalar) : Prop :=
  ∃ raw, item = .text raw ∧ reader raw = .ok s

/-- **What passes a sieve is what its test makes of something that went in.** -/
theorem Noted.mem_value_sift {ν α β : Type} {test : α → Except ν β} {xs : List α} {b : β} :
    b ∈ (sift test xs).value ↔ ∃ a ∈ xs, test a = .ok b := by
  rw [value_sift, List.mem_filterMap]
  exact exists_congr fun a => and_congr_right fun _ => toOption_eq_some_iff

/-- The last thing under a name is found if there is one. -/
theorem Named.isSome_last? {α : Type} {name : String} {things : Named α} :
    (last? name things).isSome = true ↔ name ∈ names things := by
  induction things with
  | nil => simp [last?, names]
  | cons thing rest ih =>
    obtain ⟨k, a⟩ := thing
    have hnames : names ((k, a) :: rest) = k :: names rest := rfl
    rw [hnames, List.mem_cons, ← ih, last?]
    cases last? name rest with
    | some b => simp
    | none =>
      by_cases hk : k = name
      · simp [hk]
      · simp [hk, Ne.symm hk]

/-- What a list is related to, item by item, has only things that an item is related to. -/
theorem exists_mem_of_forall₂ {α β : Type} {R : α → β → Prop} {xs : List α} {ys : List β}
    (h : List.Forall₂ R xs ys) {y : β} (hy : y ∈ ys) : ∃ x ∈ xs, R x y := by
  induction h with
  | nil => exact absurd hy List.not_mem_nil
  | cons hfirst _ ih =>
    rcases List.mem_cons.mp hy with rfl | hrest
    · exact ⟨_, List.mem_cons_self, hfirst⟩
    · obtain ⟨x, hx, hxy⟩ := ih hrest
      exact ⟨x, List.mem_cons_of_mem _ hx, hxy⟩

namespace AllowList

variable {list : AllowList}

/-- A field is on the list if there is an entry under its name. -/
theorem allows_iff {field : String} : list.allows field = true ↔ field ∈ Named.names list.entries :=
  Named.isSome_last?

/-! ### Operands -/

/-- What was made of a result was made of one that is there. -/
theorem exists_of_map_eq_ok {ε α β : Type} {f : α → β} {x : Except ε α} {b : β}
    (h : x.map f = .ok b) : ∃ a, x = .ok a ∧ f a = b := by
  cases x with
  | error e => cases h
  | ok a => exact ⟨a, rfl, Except.ok.inj h⟩

/-- The first of some scalars that are read is a text, and the reader makes the first result. -/
theorem exists_of_readAll_cons {reader : Reader} {item : Scalar} {rest scalars : List Scalar}
    (h : readAll reader (item :: rest) = .ok scalars) :
    ∃ raw s others, item = .text raw ∧ reader raw = .ok s ∧ readAll reader rest = .ok others ∧
      scalars = s :: others := by
  cases item with
  | text raw =>
    rw [readAll] at h
    split at h
    · cases h
    · next s hs =>
      obtain ⟨others, hothers, rfl⟩ := exists_of_map_eq_ok h
      exact ⟨raw, s, others, rfl, hs, hothers, rfl⟩
  | _ => cases h

/-- **Texts are read one by one.** -/
theorem readAll_eq_ok_iff {reader : Reader} {items scalars : List Scalar} :
    readAll reader items = .ok scalars ↔ List.Forall₂ reader.Makes items scalars := by
  induction items generalizing scalars with
  | nil => rw [readAll, List.forall₂_nil_left_iff, Except.ok.injEq, eq_comm]
  | cons item rest ih =>
    rw [List.forall₂_cons_left_iff]
    constructor
    · intro h
      obtain ⟨raw, s, others, rfl, hs, hothers, rfl⟩ := exists_of_readAll_cons h
      exact ⟨s, others, ⟨raw, rfl, hs⟩, ih.mp hothers, rfl⟩
    · rintro ⟨s, others, ⟨raw, rfl, hs⟩, hothers, rfl⟩
      rw [readAll, hs, ih.mpr hothers]
      rfl

/-- **What a reader makes of an operand**, under an operator. -/
inductive Reads (reader : Reader) (operator : Operator) : Operand → Operand → Prop
  /-- The absence of a value is left as it is, where it is asked for. -/
  | absent (h : operator = .isNull) : Reads reader operator (.single .null) (.single .null)
  /-- A text becomes a scalar. -/
  | single {item s : Scalar} (h : reader.Makes item s) :
      Reads reader operator (.single item) (.single s)
  /-- Texts, of which there is one at least, become as many scalars. -/
  | many {items scalars : List Scalar} (hne : items ≠ [])
      (h : List.Forall₂ reader.Makes items scalars) :
      Reads reader operator (.many items) (.many scalars)

/-- **What becomes of an operand is what the reader makes of it.** -/
theorem coerce_eq_ok_iff {reader : Reader} {operator : Operator} {operand passed : Operand} :
    coerce reader operator operand = .ok passed ↔ Reads reader operator operand passed := by
  constructor
  · intro h
    rcases operand with s | (_ | ⟨item, items⟩)
    · cases s with
      | null =>
        rw [coerce] at h
        split at h
        · next habsent =>
          obtain rfl := Except.ok.inj h
          exact .absent habsent
        · cases h
      | text raw =>
        rw [coerce] at h
        split at h
        · next s hs =>
          obtain rfl := Except.ok.inj h
          exact .single ⟨raw, rfl, hs⟩
        · cases h
      | _ => cases h
    · cases h
    · obtain ⟨scalars, hscalars, rfl⟩ := exists_of_map_eq_ok h
      exact .many (List.cons_ne_nil _ _) (readAll_eq_ok_iff.mp hscalars)
  · intro h
    cases h with
    | absent h => rw [coerce, if_pos h]
    | single h =>
      obtain ⟨raw, rfl, hs⟩ := h
      rw [coerce, hs]
    | many hne h =>
      obtain ⟨item, rest, rfl⟩ := List.exists_cons_of_ne_nil hne
      rw [coerce, readAll_eq_ok_iff.mpr h]
      rfl

/-- **Where the scalars of an operand come from** that a reader made: from one of its scalars, or
there is no value in a condition that asks for the absence. -/
theorem Reads.makes_or_absent {reader : Reader} {operator : Operator} {operand passed : Operand}
    (h : Reads reader operator operand passed) {s : Scalar} (hs : s ∈ passed.scalars) :
    (∃ item ∈ operand.scalars, reader.Makes item s) ∨ s = .null ∧ operator = .isNull := by
  cases h with
  | absent h => exact Or.inr ⟨List.mem_singleton.mp hs, h⟩
  | single h =>
    obtain rfl := List.mem_singleton.mp hs
    exact Or.inl ⟨_, List.mem_singleton_self _, h⟩
  | many _ h => exact Or.inl (exists_mem_of_forall₂ h hs)

/-- **Every scalar of an operand that is read has to be made something of**, unless there is no
value. -/
theorem Reads.exists_of_mem {reader : Reader} {operator : Operator} {operand passed : Operand}
    (h : Reads reader operator operand passed) {item : Scalar} (hitem : item ∈ operand.scalars)
    (hvalue : item ≠ .null) : ∃ s ∈ passed.scalars, reader.Makes item s := by
  cases h with
  | absent => exact absurd (List.mem_singleton.mp hitem) hvalue
  | single h =>
    obtain rfl := List.mem_singleton.mp hitem
    exact ⟨_, List.mem_singleton_self _, h⟩
  | many _ h => exact exists_mem_of_forall₂ h.flip hitem

/-! ### Conditions and items -/

/-- **What a condition becomes**: the reader of its field makes another operand of its operand, and
everything else stays. -/
def Becomes (list : AllowList) (condition passed : Condition) : Prop :=
  ∃ reader, list.reader? condition.field = some reader ∧
    ∃ operand, Reads reader condition.operator condition.operand operand ∧
      passed = { condition with operand }

/-- **A condition passes as what it becomes.** -/
theorem screen_eq_ok_iff {condition passed : Condition} :
    list.screen condition = .ok passed ↔ list.Becomes condition passed := by
  constructor
  · intro h
    rw [screen] at h
    split at h
    · cases h
    · next reader hreader =>
      split at h
      · next operand hoperand =>
        exact ⟨reader, hreader, operand, coerce_eq_ok_iff.mp hoperand, (Except.ok.inj h).symm⟩
      · cases h
  · rintro ⟨reader, hreader, operand, hoperand, rfl⟩
    simp only [screen, hreader, coerce_eq_ok_iff.mpr hoperand]

/-- **A condition that passes keeps its field**, and the field is on the list. -/
theorem allows_of_screen {condition passed : Condition} (h : list.screen condition = .ok passed) :
    passed.field = condition.field ∧ list.allows condition.field = true := by
  obtain ⟨reader, hreader, operand, -, rfl⟩ := screen_eq_ok_iff.mp h
  exact ⟨rfl, by rw [allows, hreader, Option.isSome_some]⟩

/-- **An item passes as it is**, if its field is on the list. -/
theorem pass_eq_ok_iff {α : Type} {field : α → String} {item passed : α} :
    list.pass field item = .ok passed ↔ passed = item ∧ list.allows (field item) = true := by
  rw [pass]
  split
  · next hallowed => simp [hallowed, eq_comm]
  · next hallowed => simp [hallowed]

end AllowList

namespace Clauses

/-- The conditions of clauses, on rows and on groups. -/
def conditions (clauses : Clauses) : List Condition := clauses.filters ++ clauses.having

/-- **The fields that clauses name**, in conditions, in groups and in the order. -/
def fields (clauses : Clauses) : List String :=
  clauses.filters.map Condition.field ++ clauses.groups ++ clauses.having.map Condition.field ++
    clauses.order.map SortKey.field

/-- **Clauses that were screened name no field that is not on the list.** -/
theorem allows_of_mem_fields {clauses : Clauses} {list : AllowList} {name : String}
    (h : name ∈ (clauses.screened list).value.fields) : list.allows name = true := by
  have hconditions : ∀ conditions : List Condition,
      ∀ passed ∈ (Noted.sift list.screen conditions).value, list.allows passed.field = true := by
    intro conditions passed hpassed
    obtain ⟨condition, -, hscreen⟩ := Noted.mem_value_sift.mp hpassed
    obtain ⟨hfield, hallowed⟩ := AllowList.allows_of_screen hscreen
    rw [hfield]
    exact hallowed
  have hitems : ∀ {α : Type} (field : α → String) (items : List α),
      ∀ passed ∈ (Noted.sift (list.pass field) items).value,
        list.allows (field passed) = true := by
    intro α field items passed hpassed
    obtain ⟨item, -, hpass⟩ := Noted.mem_value_sift.mp hpassed
    obtain ⟨rfl, hallowed⟩ := AllowList.pass_eq_ok_iff.mp hpass
    exact hallowed
  simp only [fields, screened, List.mem_append, List.mem_map] at h
  rcases h with ((⟨passed, hpassed, rfl⟩ | hgroup) | ⟨passed, hpassed, rfl⟩) |
    ⟨key, hkey, rfl⟩
  · exact hconditions _ passed hpassed
  · exact hitems id _ name hgroup
  · exact hconditions _ passed hpassed
  · exact hitems SortKey.field _ key hkey

end Clauses

end QueryGate
