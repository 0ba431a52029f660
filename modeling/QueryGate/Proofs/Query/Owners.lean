import Mathlib.Data.List.Induction
import QueryGate.Proofs.Query.Keys
import QueryGate.Proofs.Query.Turn

/-!
# What is asked for some owners

When it is a relation's turn, one request is made for all of its owners together
(`QueryGate.Relation.AsksFor`). It asks for the keys under names of their own and for what the role
may read, and it has one list for each pair of columns: the values that the owners have in the
column of this side, in one form. An owner that lacks a value in one of the columns has no part in
any of the lists, not even with the values it has (`QueryGate.Relation.components`).

## Once each

A value is listed where it first appears, and nowhere else (`QueryGate.Relation.firsts`). Whether it
has appeared is decided by the equality that matching uses, so that nothing is listed twice which
would match the same rows, and an undefined number, which matches none, is listed wherever it
appears. The list is put together value by value, each compared with what has been listed so far;
that this comes to comparing it with all the values before it is
`QueryGate.Relation.distinct_concat`, from which everything about such lists is shown.
-/

namespace QueryGate

variable {σ : Type}

namespace Relation

/-! ### Lists without repetitions -/

section Firsts

variable {values items : List Scalar}

/-- **The values that stand at the places of first appearances**: before such a place there is no
value that is equal to the one that stands there. -/
def firsts (values : List Scalar) : List Scalar :=
  (values.zipIdx.filter fun place => !(values.take place.2).any (·.equals place.1)).map Prod.fst

/-- **That some values are listed once each.** -/
structure ListsOnce (values items : List Scalar) : Prop where
  /-- They are listed in the order of their first appearances. -/
  appearance : items = firsts values
  /-- No two of those that are listed are equal. -/
  once : items.Pairwise fun v w => v.equals w = false
  /-- To each value that is equal to itself, one that is listed is equal. -/
  complete : ∀ v ∈ values, v.equals v = true → ∃ w ∈ items, w.equals v = true

/-- **One value more is listed if no value before it is equal to it.** -/
theorem distinct_concat (values : List Scalar) (v : Scalar) :
    distinct (values ++ [v]) =
      if values.any (·.equals v) then distinct values else distinct values ++ [v] := by
  rw [← any_distinct values v, distinct, List.foldl_append, List.foldl_cons, List.foldl_nil]
  rfl

/-- With one value more, the first appearances are those there were and, if no value before it is
equal to it, the new one. -/
theorem firsts_concat (values : List Scalar) (v : Scalar) :
    firsts (values ++ [v]) =
      if values.any (·.equals v) then firsts values else firsts values ++ [v] := by
  have hold : (values.zipIdx.filter fun place =>
        !((values ++ [v]).take place.2).any (·.equals place.1)) =
      values.zipIdx.filter fun place => !(values.take place.2).any (·.equals place.1) := by
    refine List.filter_congr fun place hplace => ?_
    have hlt := List.snd_lt_of_mem_zipIdx hplace
    rw [List.take_append_of_le_length (by omega)]
  have hnew : (values ++ [v]).take (0 + values.length) = values := by simp
  rw [firsts, List.zipIdx_append, List.filter_append, hold, List.zipIdx_singleton,
    List.filter_singleton, hnew, List.map_append, firsts]
  cases values.any (·.equals v) <;> simp

/-- **What is listed are the values at the places of first appearances.** -/
theorem distinct_eq_firsts (values : List Scalar) : distinct values = firsts values := by
  induction values using List.reverseRecOn with
  | nil => rfl
  | append_singleton values v ih => rw [distinct_concat, firsts_concat, ih]

/-- No two values that are listed are equal. -/
theorem pairwise_distinct (values : List Scalar) :
    (distinct values).Pairwise fun v w => v.equals w = false := by
  induction values using List.reverseRecOn with
  | nil => exact .nil
  | append_singleton values v ih =>
    rw [distinct_concat]
    split
    · exact ih
    · next hnew =>
      refine List.pairwise_append.mpr ⟨ih, List.pairwise_singleton _ _, fun w hw u hu => ?_⟩
      obtain rfl := List.mem_singleton.mp hu
      rw [← any_distinct, List.any_eq_true] at hnew
      exact Bool.eq_false_iff.mpr fun hequal => hnew ⟨w, hw, hequal⟩

/-- **Values are listed once each.** -/
theorem listsOnce_distinct (values : List Scalar) : ListsOnce values (distinct values) where
  appearance := distinct_eq_firsts values
  once := pairwise_distinct values
  complete v hv hself := by
    have hany : values.any (·.equals v) = true := List.any_eq_true.mpr ⟨v, hv, hself⟩
    rw [← any_distinct] at hany
    exact List.any_eq_true.mp hany

/-- Nothing else than the values is listed, and in their order. -/
theorem ListsOnce.sublist (h : ListsOnce values items) : items.Sublist values := by
  have hfirsts : (firsts values).Sublist (values.zipIdx.map Prod.fst) :=
    List.filter_sublist.map _
  rw [h.appearance]
  rwa [List.zipIdx_map_fst] at hfirsts

/-- If there are any values, the first of them is listed. -/
theorem ListsOnce.ne_nil (h : ListsOnce values items) (hvalues : values ≠ []) : items ≠ [] := by
  obtain ⟨v, rest, rfl⟩ := List.exists_cons_of_ne_nil hvalues
  rw [h.appearance, firsts, List.zipIdx_cons, List.filter_cons_of_pos (by simp)]
  exact List.cons_ne_nil _ _

/-- A value that is no floating-point number is listed if it is one of the values. -/
theorem ListsOnce.mem_iff (h : ListsOnce values items) {v : Scalar} (hv : ∀ x, v ≠ .float x) :
    v ∈ items ↔ v ∈ values := by
  refine ⟨fun hmem => h.sublist.subset hmem, fun hmem => ?_⟩
  have hequals : ∀ w : Scalar, w.equals v = true ↔ w = v :=
    fun w => Scalar.equals_iff_eq fun _ y _ hy => hv y hy
  obtain ⟨w, hw, hequal⟩ := h.complete v hmem ((hequals v).mpr rfl)
  exact (hequals w).mp hequal ▸ hw

end Firsts

/-! ### The values of owners -/

section Components

variable {M : Type} (relation : Relation M)

/-- **Whether an owner has a key**: a value in each column of this side. -/
def keyed (owner : Row) : Bool :=
  relation.internal.all fun column => (owner.value? column).isSome

/-- **The values that owners with a key have in the column at some place**, in one form. -/
def components (owners : List Row) (place : Nat) : List Scalar :=
  (owners.filter relation.keyed).filterMap fun owner =>
    (relation.internal[place]?.bind (Row.value? · owner)).map Scalar.normalized

variable {relation} {owner : Row} {owners : List Row} {place : Nat}

/-- The key of an owner is made of the values that it has. -/
theorem getElem?_key {key : List Scalar} (h : owner.key? relation.internal = some key) :
    key[place]? =
      (relation.internal[place]?.bind (Row.value? · owner)).map Scalar.normalized := by
  have hmap := congrArg (·[place]?) (mapM_eq_some_iff.mp h)
  simp only [List.getElem?_map] at hmap
  cases hcolumn : relation.internal[place]? with
  | none =>
    rw [hcolumn, Option.map_none] at hmap
    rw [Option.map_eq_none_iff.mp hmap.symm]
    rfl
  | some column =>
    rw [hcolumn, Option.map_some] at hmap
    obtain ⟨v, hv, hvalue⟩ := Option.map_eq_some_iff.mp hmap.symm
    rw [hv, hvalue]
    rfl

/-- **The values at one place of the keys** are those that the owners with a key have there. -/
theorem column_keys (owners : List Row) (place : Nat) :
    column (relation.keys owners) place = relation.components owners place := by
  rw [column, keys, components, List.filterMap_filterMap, List.filterMap_filter]
  refine List.filterMap_congr fun owner _ => ?_
  have hkeyed : relation.keyed owner = (owner.key? relation.internal).isSome :=
    (Row.isSome_key? relation.internal owner).symm
  cases hkey : owner.key? relation.internal with
  | none => simp [hkeyed, hkey]
  | some key => simp [hkeyed, hkey, getElem?_key hkey]

/-- If some owner has a key, there is a value for each column. -/
theorem components_ne_nil (hkeys : relation.keys owners ≠ [])
    (hplace : place < relation.internal.length) : relation.components owners place ≠ [] := by
  obtain ⟨key, hmem⟩ := List.exists_mem_of_ne_nil _ hkeys
  obtain ⟨owner, howner, hkey⟩ := List.mem_filterMap.mp hmem
  have hlength : key.length = relation.internal.length := by
    have hmap := congrArg List.length (mapM_eq_some_iff.mp hkey)
    simpa using hmap.symm
  have hcomponent : key[place] ∈ column (relation.keys owners) place :=
    List.mem_filterMap.mpr ⟨key, hmem, List.getElem?_eq_getElem (hlength ▸ hplace)⟩
  rw [← column_keys]
  exact List.ne_nil_of_mem hcomponent

end Components

/-! ### The request -/

/-- **That a request asks for just the keys of some owners.** -/
structure AsksFor (role : Role) (relation : Relation Model) (owners : List Row)
    (selection : Selection) : Prop where
  /-- It is a request for rows of the target. -/
  table : selection.table = relation.target.table
  /-- The columns of the two sides pair up. -/
  paired : relation.internal.length = relation.external.length
  /-- It asks for each key under a name of its own, and then for what the role may read. -/
  columns : selection.columns =
    relation.external.mapIdx (fun place key => { name := key ++ " AS " ++ keyName place }) ++
      relation.target.projection role
  /-- There is one condition for each key. -/
  conditions : selection.clauses.filters.length = relation.external.length
  /-- The condition for a key is that it is one of the values that the owners with a key have in
  the column of this side, each listed once; there is at least one. -/
  lists : ∀ place key, relation.external[place]? = some key →
    ∃ items, items ≠ [] ∧ ListsOnce (relation.components owners place) items ∧
      selection.clauses.filters[place]? =
        some { field := key, operand := .many items, operator := .oneOf, connective := .and,
               negated := false }
  /-- Rows are limited if the relation limits them, to the same number. -/
  limit : ∀ count, selection.clauses.limit = some count ↔ relation.limit = .rows count
  /-- Nothing else is asked for. -/
  alone : selection.clauses =
    { filters := selection.clauses.filters, limit := selection.clauses.limit }

/-- **A relation that is not mute asks for just the keys of its owners.** -/
theorem asksFor_selection {role : Role} {relation : Relation Model} {owners : List Row}
    (h : ¬relation.Mute role owners) :
    relation.AsksFor role owners (relation.selection role owners) := by
  obtain ⟨husable, hkeys, -⟩ := asks_iff_not_mute.mpr h
  have hpaired : relation.internal.length = relation.external.length := by
    simp only [isUsable, Bool.and_eq_true, beq_iff_eq] at husable
    exact husable.2
  refine ⟨rfl, hpaired, rfl, List.length_mapIdx, fun place key hkey => ?_, fun count => ?_, rfl⟩
  · have hplace : place < relation.internal.length := by
      rw [hpaired]
      exact (List.getElem?_eq_some_iff.mp hkey).1
    have hlists := listsOnce_distinct (relation.components owners place)
    refine ⟨_, hlists.ne_nil (components_ne_nil hkeys hplace), hlists, ?_⟩
    have hfilter : (relation.keyConditions (relation.keys owners))[place]? =
        some (Condition.oneOf key (distinct (column (relation.keys owners) place))) := by
      rw [keyConditions, List.getElem?_mapIdx, hkey, Option.map_some]
    rw [column_keys] at hfilter
    exact hfilter
  · change relation.limit.count? = some count ↔ relation.limit = .rows count
    cases relation.limit <;> simp [RowLimit.count?]

end Relation

/-- **Each request of an expansion asks for just the keys of some owners**: with any database, it is
made at the turn of some relation, for the rows that are its owners then; and each turn of a
relation that is not mute makes such a request. -/
theorem Model.asksFor_of_expand (database : Database σ) (role : Role) (model : Model)
    (rows : List Row) (state : σ) :
    (∀ selection ∈ ((model.expand role rows).run database state).asked,
      ∃ relation owners moment,
        Relation.Turn database role (model.relationsFor role) rows state relation owners moment ∧
          relation.AsksFor role owners selection) ∧
      ∀ relation owners moment,
        Relation.Turn database role (model.relationsFor role) rows state relation owners moment →
          ¬relation.Mute role owners →
            ∃ selection ∈ ((model.expand role rows).run database state).asked,
              relation.AsksFor role owners selection := by
  constructor
  · intro selection hselection
    obtain ⟨relation, owners, moment, turn, hmute, rfl⟩ := mem_asked_expand_iff.mp hselection
    exact ⟨relation, owners, moment, turn, Relation.asksFor_selection hmute⟩
  · intro relation owners moment turn hmute
    refine ⟨relation.selection role owners, ?_, Relation.asksFor_selection hmute⟩
    exact mem_asked_expand_iff.mpr ⟨relation, owners, moment, turn, hmute, rfl⟩

/-- Two houses of a town, one of them given twice, and a house of no town. -/
def Row.someHouses : List Row :=
  [.house (.uint 1) "b", .house .null "c", .house (.int 1) "a", .house (.int 1) "b"]

/-- One request is made for all of them. -/
theorem Model.asked_expand_someHouses :
    ((houses.expand .default Row.someHouses).run Canned.database .parcels).asked =
      [Relation.parcels.selection .default Row.someHouses] := by
  with_unfolding_all rfl

/-- The town and the two houses are asked for once each, and the house of no town is not. -/
theorem Model.asksFor_of_expand_houses :
    ∃ selection ∈ ((houses.expand .default Row.someHouses).run Canned.database .parcels).asked,
      selection.clauses.filters =
          [.oneOf "to_town" [.int 1], .oneOf "to_house" [.text "b", .text "a"]] ∧
        ∃ relation owners moment,
          Relation.Turn Canned.database .default (houses.relationsFor .default) Row.someHouses
              .parcels relation owners moment ∧
            relation.AsksFor .default owners selection := by
  have hmem := asked_expand_someHouses.symm ▸ List.mem_singleton_self
    (Relation.parcels.selection .default Row.someHouses)
  refine ⟨_, hmem, by with_unfolding_all rfl, ?_⟩
  exact (asksFor_of_expand Canned.database .default houses Row.someHouses .parcels).1 _ hmem

end QueryGate
