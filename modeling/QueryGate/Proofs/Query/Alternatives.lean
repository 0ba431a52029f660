import QueryGate.Proofs.Query.Owners
import QueryGate.Proofs.Sql.Literal
import QueryGate.Proofs.Sql.Restriction

/-!
# How a request is written

The text of a request for the keys of some owners says of each key that it is one of the literals of
the values that the owners have (`QueryGate.Relation.WrittenFor`). Nothing keeps a value from being
listed because of how it is written. So what a list looks like is a matter of the literals alone,
and these have one of a few forms, with something in it (`QueryGate.Scalar.Form`), unless they are
those of bytes.

## Bytes

Bytes have no literal: nothing stands where they are listed. An owner that has bytes in one of the
columns therefore leaves a gap in the list for this column (`QueryGate.Model.gap_of_expand_bytes`),
and there is no gap but for such an owner. This holds for each request of an expansion, of whichever
relation it is and from whichever rows this is followed (`QueryGate.Model.writtenFor_of_expand`).
-/

namespace QueryGate

variable {σ : Type}

/-- The literals of the scalars that an operand is made of. -/
def Operand.literals : Operand → List String
  | .single s => [s.literal]
  | .many items => items.map Scalar.literal

/-- **A field and the literals that it is to be one of**, written out. -/
def Condition.listText (c : Condition) : String :=
  c.field ++ " IN (" ++ ", ".intercalate c.operand.literals ++ ")"

/-! ### The text of a request with alternatives -/

/-- Where there are alternatives, they are written one after the other. -/
theorem Condition.text?_oneOf {field : String} {items : List Scalar} (h : items ≠ []) :
    (Condition.oneOf field items).text? = some (Condition.oneOf field items).listText := by
  obtain ⟨first, rest, rfl⟩ := List.exists_cons_of_ne_nil h
  rfl

/-- **Conditions that each give some alternatives** are all written, one list after the other. -/
theorem Statement.chain?_of_alternatives {conditions : List Condition} (hne : conditions ≠ [])
    (h : ∀ c ∈ conditions, ∃ field items, items ≠ [] ∧ c = .oneOf field items) :
    Statement.chain? conditions =
      some (" AND ".intercalate (conditions.map fun c => "(" ++ c.listText ++ ")")) := by
  have joined : ∀ c ∈ conditions, c.connective = .and := by
    intro c hc
    obtain ⟨field, items, -, rfl⟩ := h c hc
    rfl
  have hwritten : conditions.filterMap Condition.text? = conditions.map Condition.listText := by
    rw [← List.filterMap_eq_map]
    refine List.filterMap_congr fun c hc => ?_
    obtain ⟨field, items, hitems, rfl⟩ := h c hc
    exact Condition.text?_oneOf hitems
  rw [Statement.chain?_of_joined joined, hwritten, if_neg (by simpa using hne), List.map_map]
  rfl

/-- **A request with nothing but alternatives and a limit** is written without the other clauses. -/
theorem Statement.text_of_alternatives {selection : Selection} (hcolumns : selection.columns ≠ [])
    (hne : selection.clauses.filters ≠ [])
    (h : ∀ c ∈ selection.clauses.filters, ∃ field items, items ≠ [] ∧ c = .oneOf field items)
    (alone : selection.clauses =
      { filters := selection.clauses.filters, limit := selection.clauses.limit }) :
    (Statement.select selection).text =
      "SELECT " ++ names selection.columns ++ "\nFROM " ++ selection.table ++ "\nWHERE " ++
        " AND ".intercalate (selection.clauses.filters.map fun c => "(" ++ c.listText ++ ")") ++
        countLine "LIMIT" selection.clauses.limit ++ ";" := by
  have hcolumns : selection.columns.isEmpty = false := by simpa using hcolumns
  have hwhere : ∀ chain, line (some ("WHERE " ++ chain)) = "\nWHERE " ++ chain := by
    intro chain
    rw [line, ← String.append_assoc]
    rfl
  have hchain := congrArg (Option.map ("WHERE " ++ ·)) (chain?_of_alternatives hne h)
  have hfilters : line (clause? "WHERE" selection.clauses.filters) = "\nWHERE " ++
      " AND ".intercalate (selection.clauses.filters.map fun c => "(" ++ c.listText ++ ")") := by
    rw [← hwhere]
    exact congrArg line hchain
  -- the lines of the clauses that are not there are empty
  have hhaving : line (clause? "HAVING" []) = "" := rfl
  have hoffset : countLine "OFFSET" none = "" := rfl
  rw [text]
  delta selectText
  rw [alone]
  simp only [hcolumns, hfilters, hhaving, hoffset, listLine, List.map_nil, String.append_empty,
    String.append_assoc, Bool.false_eq_true, if_false]

/-! ### What is listed -/

namespace Relation

section

variable {M : Type}

/-- **That a request lists literals** for the keys of some owners. -/
structure WrittenFor (relation : Relation M) (owners : List Row) (selection : Selection) :
    Prop where
  /-- Its text has one list for each of its conditions, and no other clause than a limit. -/
  text : (Statement.select selection).text =
    "SELECT " ++ Statement.names selection.columns ++ "\nFROM " ++ selection.table ++ "\nWHERE " ++
      " AND ".intercalate (selection.clauses.filters.map fun c => "(" ++ c.listText ++ ")") ++
      Statement.countLine "LIMIT" selection.clauses.limit ++ ";"
  /-- There is one condition for each key. -/
  fields : selection.clauses.filters.map Condition.field = relation.external
  /-- Something is listed for each key. -/
  listed : ∀ c ∈ selection.clauses.filters, c.operand.literals ≠ []
  /-- What is listed are literals, or else it is nothing at all. -/
  form : ∀ c ∈ selection.clauses.filters, ∀ item ∈ c.operand.literals,
    item = "" ∨ Scalar.Form item.toList
  /-- There is a gap in a list for the bytes in the column of an owner with a key, and for nothing
  else. -/
  gap : ∀ (place : Nat) (column : String) (c : Condition),
    relation.internal[place]? = some column →
    selection.clauses.filters[place]? = some c →
      ("" ∈ c.operand.literals ↔ ∃ owner ∈ owners, relation.keyed owner = true ∧
        ∃ bytes, owner.value? column = some (.blob bytes))

/-- What is listed has a form, or it is nothing at all. -/
theorem form_of_mem_literals {operand : Operand} {item : String} (h : item ∈ operand.literals) :
    item = "" ∨ Scalar.Form item.toList := by
  have hscalar : ∃ s : Scalar, item = s.literal := by
    cases operand with
    | single s => exact ⟨s, List.mem_singleton.mp h⟩
    | many items =>
      obtain ⟨s, -, hs⟩ := List.mem_map.mp h
      exact ⟨s, hs.symm⟩
  obtain ⟨s, rfl⟩ := hscalar
  by_cases hbytes : ∃ bytes, s = .blob bytes
  · exact Or.inl (Scalar.literal_eq_empty_iff.mpr hbytes)
  · exact Or.inr (Scalar.form_literal fun bytes h => hbytes ⟨bytes, h⟩)

variable {relation : Relation M} {owners : List Row} {place : Nat} {column : String}

/-- **Bytes are listed for a key** if an owner that has a key has them in the column. -/
theorem blob_mem_components_iff (hcolumn : relation.internal[place]? = some column)
    {bytes : List UInt8} :
    .blob bytes ∈ relation.components owners place ↔
      ∃ owner ∈ owners, relation.keyed owner = true ∧ owner.value? column = some (.blob bytes) := by
  have hbytes : ∀ s : Scalar, s.normalized = .blob bytes ↔ s = .blob bytes := by
    intro s
    cases s with
    | uint n =>
      rw [Scalar.normalized]
      split <;> simp
    | _ => simp [Scalar.normalized]
  simp [components, hcolumn, hbytes, and_assoc]

/-- There is a gap in a list if bytes are listed. -/
theorem empty_mem_literals_iff {items : List Scalar} :
    "" ∈ (Operand.many items).literals ↔ ∃ bytes, .blob bytes ∈ items := by
  simp only [Operand.literals, List.mem_map, Scalar.literal_eq_empty_iff]
  constructor
  · rintro ⟨s, hs, bytes, rfl⟩
    exact ⟨bytes, hs⟩
  · rintro ⟨bytes, hbytes⟩
    exact ⟨_, hbytes, bytes, rfl⟩

end

namespace AsksFor

variable {role : Role} {relation : Relation Model} {owners : List Row} {selection : Selection}

/-- The conditions of a request for the keys of some owners are about the keys, in their order. -/
theorem map_field (h : relation.AsksFor role owners selection) :
    selection.clauses.filters.map Condition.field = relation.external := by
  refine List.ext_getElem? fun place => ?_
  rw [List.getElem?_map]
  cases hkey : relation.external[place]? with
  | none =>
    rw [Option.map_eq_none_iff, List.getElem?_eq_none_iff, h.conditions]
    exact List.getElem?_eq_none_iff.mp hkey
  | some key =>
    obtain ⟨items, -, -, hcondition⟩ := h.lists place key hkey
    rw [hcondition]
    rfl

/-- Each of them gives the values that the owners have in one of the columns. -/
theorem exists_of_getElem?_filters (h : relation.AsksFor role owners selection) {place : Nat}
    {c : Condition} (hc : selection.clauses.filters[place]? = some c) :
    ∃ key items, items ≠ [] ∧ ListsOnce (relation.components owners place) items ∧
      c = .oneOf key items := by
  have hplace : place < relation.external.length := by
    rw [← h.conditions]
    exact (List.getElem?_eq_some_iff.mp hc).1
  obtain ⟨items, hitems, honce, hcondition⟩ :=
    h.lists place _ (List.getElem?_eq_getElem hplace)
  rw [hc] at hcondition
  exact ⟨_, items, hitems, honce, Option.some.inj hcondition⟩

/-- **A request for the keys of some owners is written as lists of literals**, with a gap for bytes
alone, if there are any keys. -/
theorem writtenFor (h : relation.AsksFor role owners selection) (hkeys : relation.external ≠ []) :
    relation.WrittenFor owners selection := by
  have halternatives : ∀ c ∈ selection.clauses.filters,
      ∃ field items, items ≠ [] ∧ c = .oneOf field items := by
    intro c hc
    obtain ⟨place, hplace⟩ := List.mem_iff_getElem?.mp hc
    obtain ⟨key, items, hitems, -, hcondition⟩ := h.exists_of_getElem?_filters hplace
    exact ⟨key, items, hitems, hcondition⟩
  have hcolumns : selection.columns ≠ [] := by
    rw [h.columns]
    simp [hkeys]
  have hfilters : selection.clauses.filters ≠ [] := by
    rw [← List.length_pos_iff, h.conditions]
    exact List.length_pos_iff.mpr hkeys
  refine ⟨Statement.text_of_alternatives hcolumns hfilters halternatives h.alone, h.map_field,
    fun c hc => ?_, fun c _ item => form_of_mem_literals, fun place column c hcolumn hc => ?_⟩
  · obtain ⟨field, items, hitems, rfl⟩ := halternatives c hc
    simpa [Condition.oneOf, Operand.literals] using hitems
  · obtain ⟨key, items, -, honce, rfl⟩ := h.exists_of_getElem?_filters hc
    have hmem : ∀ bytes, .blob bytes ∈ items ↔ .blob bytes ∈ relation.components owners place :=
      fun bytes => honce.mem_iff (by simp)
    simp only [Condition.oneOf, empty_mem_literals_iff, hmem, blob_mem_components_iff hcolumn]
    constructor
    · rintro ⟨bytes, owner, howner, hkeyed, hvalue⟩
      exact ⟨owner, howner, hkeyed, bytes, hvalue⟩
    · rintro ⟨owner, howner, hkeyed, bytes, hvalue⟩
      exact ⟨bytes, owner, howner, hkeyed, hvalue⟩

end AsksFor

end Relation

/-- **Each request of an expansion is written as lists of literals**, with gaps for the bytes of
owners alone: with any database, it is made at the turn of some relation, for the rows that are its
owners then. -/
theorem Model.writtenFor_of_expand (database : Database σ) (role : Role) (model : Model)
    (rows : List Row) (state : σ) :
    ∀ selection ∈ ((model.expand role rows).run database state).asked,
      ∃ relation owners moment,
        Relation.Turn database role (model.relationsFor role) rows state relation owners moment ∧
          relation.WrittenFor owners selection := by
  intro selection hselection
  obtain ⟨relation, owners, moment, turn, hmute, rfl⟩ := mem_asked_expand_iff.mp hselection
  have hasks := Relation.asksFor_selection hmute
  have hkeys : relation.external ≠ [] := by
    rw [← List.length_pos_iff, ← hasks.paired]
    exact List.length_pos_iff.mpr fun hkeyless => hmute (.keyless hkeyless)
  exact ⟨relation, owners, moment, turn, hasks.writtenFor hkeys⟩

/-- A town and two houses are written as literals, each once. -/
theorem Model.writtenFor_of_expand_houses :
    ∃ selection ∈ ((houses.expand .default Row.someHouses).run Canned.database .parcels).asked,
      (Statement.select selection).text =
          "SELECT to_town AS __expand_key_0, to_house AS __expand_key_1, sender\n" ++
            "FROM parcels\nWHERE (to_town IN (1)) AND (to_house IN ('b', 'a'));" ∧
        ∃ relation owners moment,
          Relation.Turn Canned.database .default (houses.relationsFor .default) Row.someHouses
              .parcels relation owners moment ∧
            relation.WrittenFor owners selection := by
  have hmem := asked_expand_someHouses.symm ▸ List.mem_singleton_self
    (Relation.parcels.selection .default Row.someHouses)
  refine ⟨_, hmem, by decide +kernel, ?_⟩
  exact writtenFor_of_expand Canned.database .default houses Row.someHouses .parcels _ hmem

/-- **Bytes in a key leave a gap**: a house of a town that is given as bytes is asked for together
with another one, and its town is written as nothing. -/
theorem Model.gap_of_expand_bytes :
    ∃ selection ∈ ((houses.expand .default [.house (.int 1) "a", .house (.blob [0]) "a"]).run
        Canned.database .parcels).asked,
      (∃ c ∈ selection.clauses.filters, c.operator = .oneOf ∧ "" ∈ c.operand.literals) ∧
        (Statement.select selection).text =
          "SELECT to_town AS __expand_key_0, to_house AS __expand_key_1, sender\n" ++
            "FROM parcels\nWHERE (to_town IN (1, )) AND (to_house IN ('a'));" := by
  have hasked : ((houses.expand .default [.house (.int 1) "a", .house (.blob [0]) "a"]).run
      Canned.database .parcels).asked =
        [Relation.parcels.selection .default [.house (.int 1) "a", .house (.blob [0]) "a"]] := by
    with_unfolding_all rfl
  have hfilters : (Relation.parcels.selection .default
      [.house (.int 1) "a", .house (.blob [0]) "a"]).clauses.filters =
        [.oneOf "to_town" [.int 1, .blob [0]], .oneOf "to_house" [.text "a"]] := by
    with_unfolding_all rfl
  refine ⟨_, hasked ▸ List.mem_singleton_self _, ⟨_, hfilters ▸ List.mem_cons_self, rfl, ?_⟩, ?_⟩
  · decide +kernel
  · decide +kernel

end QueryGate
