import Mathlib.Data.List.Basic
import QueryGate.Proofs.Database.Tables
import QueryGate.Proofs.Query.Gate
import QueryGate.Proofs.Query.Keys
import QueryGate.Proofs.Query.Related
import QueryGate.Proofs.Schema.Tree
import QueryGate.Query.Compiled

/-!
# What a role gets to see

A result is a tree: rows, and in them the rows of other models. At each node of it stands a row of
some model, and what may stand there is what the role may read of that model and what it sees
related to it (`QueryGate.Model.Shows`). This module shows that a fetched result is such a tree, for
every model, role, filter and database that answers with the columns it was asked for
(`QueryGate.CompiledQuery.showsRow_of_fetch`).

## Keys

Rows are found by their external keys, which the role may not be allowed to read. They are asked for
under labels of their own, and these are erased from every row before anything else is done with it;
what is left is what the projection asked for (`QueryGate.Relation.showsRow_of_detach?`).

## Labels

A readable field is asked for by its name, and what comes back bears its *label*: where the name is
an expression with an alias, that is the alias, which need not be the name of any field
(`QueryGate.CompiledQuery.fetch_letters_alias`).
-/

namespace QueryGate

/-! ### What a row may show -/

/-- **That a role may see an attribute in a row of a model**: a value under the label of a column
that the role may read, or rows under the name of a relation that it sees, with attributes that it
may see in rows of the other model. -/
inductive Model.Shows (role : Role) : Model → String × Datum → Prop
  /-- A value. -/
  | value {model : Model} {column : Column} (readable : column ∈ model.projection role)
      (s : Scalar) : Shows role model (column.label, .scalar s)
  /-- One related row. -/
  | row {model : Model} {relation : Relation Model} (seen : relation ∈ model.relationsFor role)
      {row : Row} (inner : ∀ entry ∈ row, Shows role relation.target entry) :
      Shows role model (relation.name, .object row)
  /-- Related rows. -/
  | rows {model : Model} {relation : Relation Model} (seen : relation ∈ model.relationsFor role)
      {rows : List Row} (inner : ∀ row ∈ rows, ∀ entry ∈ row, Shows role relation.target entry) :
      Shows role model (relation.name, .list rows)

/-- That a role may see all that stands in a row of a model. -/
def Model.ShowsRow (model : Model) (role : Role) (row : Row) : Prop :=
  ∀ entry ∈ row, model.Shows role entry

/-- **That a row is an answer to some columns**: it holds nothing but values, under their labels. -/
def Row.AnswersTo (columns : List Column) (row : Row) : Prop :=
  ∀ entry ∈ row, ∃ column ∈ columns, ∃ s, entry = (column.label, Datum.scalar s)

/-- That an answer, if it is one, consists of such rows. -/
def Selection.AnsweredBy (selection : Selection) (answer : Except Failure (List Row)) : Prop :=
  ∀ rows, answer = .ok rows → ∀ row ∈ rows, row.AnswersTo selection.columns

/-- **A database that answers with the columns it is asked for**, in every state. -/
def Database.AnswersColumns {σ : Type} (database : Database σ) : Prop :=
  ∀ (selection : Selection) (state : σ), selection.AnsweredBy (database.select selection state).1

/-- What a role may read, it may see. -/
theorem Model.showsRow_of_answersTo {model : Model} {role : Role} {row : Row}
    (h : row.AnswersTo (model.projection role)) : model.ShowsRow role row := by
  intro entry hentry
  obtain ⟨column, hcolumn, s, rfl⟩ := h entry hentry
  exact .value hcolumn s

/-! ### Taking the keys out -/

namespace Relation

variable {relation : Relation Model} {role : Role}

/-- **A found row without its key shows only what the role may read of it**, though the key was
asked for whether or not it may. -/
theorem showsRow_of_detach? {row rest : Row} {key : List Scalar}
    (hrow : row.AnswersTo (relation.keyColumns ++ relation.target.projection role))
    (h : detach? relation.external.length row = some (key, rest)) :
    relation.target.ShowsRow role rest := by
  obtain ⟨_, -, hpair⟩ := Option.map_eq_some_iff.mp h
  obtain rfl := (Prod.mk.inj hpair).2
  intro entry hentry
  obtain ⟨hmem, hname⟩ := (Named.mem_foldl_erase _ _).mp hentry
  obtain ⟨column, hcolumn, s, rfl⟩ := hrow entry hmem
  rcases List.mem_append.mp hcolumn with hcolumn | hcolumn
  · -- a key: its label is one of those that were erased
    obtain ⟨i, hi, rfl⟩ := List.mem_mapIdx.mp hcolumn
    have hlabel := Column.label_alias relation.external[i] (blank_not_mem_keyName i) none
    exact absurd hlabel (hname i (List.mem_range.mpr hi))
  · exact .value hcolumn s

/-- **A row that gets something from a relation that the role sees** shows no more than before, and
what it gets. -/
theorem showsRow_attach {model : Model} (seen : relation ∈ model.relationsFor role)
    {rows : List Row} (hrows : ∀ row ∈ rows, model.ShowsRow role row)
    {found : List (List Scalar × Row)}
    (hfound : ∀ pair ∈ found, relation.target.ShowsRow role pair.2) :
    ∀ row ∈ relation.attach rows found, model.ShowsRow role row := by
  intro row' hrow'
  obtain ⟨row, hrow, rfl⟩ := List.mem_map.mp hrow'
  have hmatching : ∀ row' ∈ relation.matching row found, relation.target.ShowsRow role row' := by
    intro row' hmem
    obtain ⟨pair, hpair, rfl⟩ := List.mem_map.mp (matching_subset hmem)
    exact hfound pair hpair
  intro entry hentry
  rcases Named.eq_or_mem_of_mem_insert hentry with rfl | hentry
  · -- what the relation gives: one row or a list of them
    rw [datum]
    split
    · refine .row seen ?_
      cases hhead : (relation.matching row found).head? with
      | none => exact fun entry h => absurd h List.not_mem_nil
      | some first => exact hmatching first (List.mem_of_head? hhead)
    · exact .rows seen hmatching
  · exact hrows row hrow entry hentry

/-! ### Every node of the tree -/

/-- **The step of one relation**: what is found shows only what the role may see, if expanding rows
of the target leaves it so. -/
theorem ensures_related
    (target : ∀ rows : List Row, (∀ row ∈ rows, relation.target.ShowsRow role row) →
      (relation.target.expand role rows).Ensures Selection.AnsweredBy
        fun expanded => ∀ row ∈ expanded, relation.target.ShowsRow role row)
    (rows : List Row) :
    (related role relation rows).Ensures Selection.AnsweredBy
      fun found => ∀ pair ∈ found, relation.target.ShowsRow role pair.2 := by
  have hnothing : ∀ pair ∈ ([] : List (List Scalar × Row)), relation.target.ShowsRow role pair.2 :=
    fun pair hpair => absurd hpair List.not_mem_nil
  rw [related_eq]
  by_cases hasks : relation.asks role rows
  · rw [request_of_asks hasks]
    intro answer hanswer
    cases answer with
    | error failure => exact hnothing
    | ok answered =>
      refine Dialogue.Ensures.map (Dialogue.Ensures.mono (fun expanded hexpanded pair hpair => ?_)
        (target _ fun row hrow => ?_))
      · exact hexpanded pair.2 (List.of_mem_zip hpair).2
      · obtain ⟨⟨key, rest⟩, hpair, rfl⟩ := List.mem_map.mp hrow
        obtain ⟨answeredRow, hmem, hdetach⟩ := List.mem_filterMap.mp hpair
        exact showsRow_of_detach? (hanswer answered rfl answeredRow hmem) hdetach
  · rcases request_of_not_asks hasks with h | h <;> rw [h] <;> exact hnothing

/-- The step of all relations, one after the other. -/
theorem ensures_expandAll {model : Model} (relations : List (Relation Model))
    (hrelations : relations ⊆ model.relations)
    (target : ∀ relation ∈ model.relations, ∀ rows : List Row,
      (∀ row ∈ rows, relation.target.ShowsRow role row) →
        (relation.target.expand role rows).Ensures Selection.AnsweredBy
          fun expanded => ∀ row ∈ expanded, relation.target.ShowsRow role row)
    (rows : List Row) (hrows : ∀ row ∈ rows, model.ShowsRow role row) :
    (expandAll role relations rows).Ensures Selection.AnsweredBy
      fun expanded => ∀ row ∈ expanded, model.ShowsRow role row := by
  induction relations generalizing rows with
  | nil => exact hrows
  | cons relation rest ih =>
    -- the rows change from relation to relation, so the induction is over all rows
    obtain ⟨hrelation, hrest⟩ := List.cons_subset.mp hrelations
    rw [expandAll]
    split
    · next hseen =>
      refine (ensures_related (target relation hrelation) rows).bind fun found hfound => ?_
      refine ih hrest _ (showsRow_attach ?_ hrows hfound)
      exact Model.mem_relationsFor.mpr ⟨hrelation, hseen⟩
    · exact ih hrest rows hrows

end Relation

/-- **Expanding rows that show only what the role may see leaves it so**, by induction over the tree
of models. -/
theorem Model.ensures_expand (role : Role) (model : Model) (rows : List Row)
    (hrows : ∀ row ∈ rows, model.ShowsRow role row) :
    (model.expand role rows).Ensures Selection.AnsweredBy
      fun expanded => ∀ row ∈ expanded, model.ShowsRow role row := by
  induction model using Model.induction generalizing rows with
  | step model ih =>
    rw [expand_eq]
    exact Relation.ensures_expandAll model.relations (List.Subset.refl _) ih rows hrows

namespace CompiledQuery

/-- A fetch, as far as it succeeds, ends with rows that show only what the role may see. -/
theorem ensures_fetch {query : CompiledQuery}
    (hcolumns : query.columns = query.model.projection query.role) :
    query.fetch.Ensures Selection.AnsweredBy fun result =>
      ∀ rows, result = .ok rows → ∀ row ∈ rows, query.model.ShowsRow query.role row := by
  intro answer hanswer
  cases answer with
  | error failure => exact fun rows h => absurd h (by simp)
  | ok answered =>
    refine Dialogue.Ensures.map (Dialogue.Ensures.mono (fun expanded hexpanded rows hrows => ?_)
      (Model.ensures_expand query.role query.model answered fun row hrow => ?_))
    · obtain rfl := Except.ok.inj hrows
      exact hexpanded
    · exact Model.showsRow_of_answersTo (hcolumns ▸ hanswer answered rfl row hrow)

end CompiledQuery

/-- **A role sees of a fetched result only what it may see**, in every row at every depth. -/
theorem CompiledQuery.showsRow_of_fetch {σ : Type} {database : Database σ}
    (answers : database.AnswersColumns) {model : Model} {role : Role} {params : Params}
    {query : CompiledQuery} (hcompile : (model.compile role params).value = .ok query) {state : σ}
    {rows : List Row} (hfetch : (query.fetch.run database state).value = .ok rows) :
    ∀ row ∈ rows, model.ShowsRow role row := by
  obtain ⟨-, rfl⟩ := Model.eq_of_compile hcompile
  exact (ensures_fetch rfl).run answers state rows hfetch

/-! ### A letter and its sender -/

/-- A database that puts the columns of its tables into its answers puts nothing else there. -/
theorem Tables.answersColumns (tables : Tables) : tables.keeper.database.AnswersColumns := by
  intro selection _ rows hrows row hrow
  obtain rfl := Except.ok.inj hrows
  obtain ⟨stored, -, rfl⟩ := List.mem_map.mp hrow
  -- one column after another is put into a row that is an answer to all of them
  refine List.foldlRecOn selection.columns _ (motive := Row.AnswersTo selection.columns)
    (fun entry h => absurd h List.not_mem_nil) fun row hrow column hcolumn entry hentry => ?_
  rcases Named.eq_or_mem_of_mem_insert hentry with rfl | hentry
  · exact ⟨column, hcolumn, _, rfl⟩
  · exact hrow entry hentry

section Letters

/-- Letters, each with its sender. Everybody may read one field of a letter and the name of a
sender, but not by what senders are told apart. -/
def Model.letters (field : String) : Model :=
  { table := "letters"
    fields := [(Field.text field).grant (.readOnly .default)]
    relations :=
      [{ name := "sender"
         internal := ["sender_id"]
         external := ["id"]
         target :=
          { table := "people"
            fields := [Field.text "id", (Field.text "name").grant (.readOnly .default)] }
         limit := .rows 1 }] }

/-- A letter and the one who sent it. -/
def Tables.letters : Tables
  | "letters" => [fun _ => .text "seven"]
  | "people" => [fun column => if column = "id" then .text "seven" else .text "somebody"]
  | _ => []

/-- The request for all letters. -/
def CompiledQuery.letters (field : String) : CompiledQuery :=
  { model := Model.letters field, role := .default, columns := [{ name := field }], clauses := {} }

/-- What is fetched of the letter. -/
def Row.letter : Row :=
  [("sender", .object [("name", .scalar (.text "somebody"))]),
    ("sender_id", .scalar (.text "seven"))]

/-- Of the sender only the name is seen. -/
theorem CompiledQuery.showsRow_of_fetch_letters :
    Tables.letters.keeper.database.AnswersColumns ∧
      ((Model.letters "sender_id").compile .default ⟨[]⟩).value = .ok (letters "sender_id") ∧
      ((letters "sender_id").fetch.run Tables.letters.keeper.database ()).value = .ok [Row.letter] ∧
      ∀ row ∈ [Row.letter], (Model.letters "sender_id").ShowsRow .default row := by
  have hcompile : ((Model.letters "sender_id").compile .default ⟨[]⟩).value =
      .ok (letters "sender_id") := by
    with_unfolding_all rfl
  have hfetch : ((letters "sender_id").fetch.run Tables.letters.keeper.database ()).value =
      .ok [Row.letter] := by
    with_unfolding_all rfl
  exact ⟨Tables.answersColumns _, hcompile, hfetch,
    showsRow_of_fetch (Tables.answersColumns _) hcompile hfetch⟩

/-- **A field with an alias is seen under the alias**, which is neither a field that the role may
read nor a relation. -/
theorem CompiledQuery.fetch_letters_alias :
    Tables.letters.keeper.database.AnswersColumns ∧
      ((Model.letters "sender AS sender_id").compile .default ⟨[]⟩).value =
        .ok (letters "sender AS sender_id") ∧
      ((letters "sender AS sender_id").fetch.run Tables.letters.keeper.database ()).value =
        .ok [Row.letter] ∧
      ∃ entry ∈ Row.letter,
        (∀ field ∈ (Model.letters "sender AS sender_id").fieldsFor .default .read,
          field.name ≠ entry.1) ∧
        ∀ relation ∈ (Model.letters "sender AS sender_id").relationsFor .default,
          relation.name ≠ entry.1 := by
  refine ⟨Tables.answersColumns _, by with_unfolding_all rfl, by with_unfolding_all rfl,
    ("sender_id", .scalar (.text "seven")), List.mem_cons_of_mem _ List.mem_cons_self, ?_, ?_⟩
  · intro field hfield
    obtain rfl := List.mem_singleton.mp (List.mem_of_mem_filter hfield)
    decide
  · intro relation hrelation
    obtain rfl := List.mem_singleton.mp (Model.mem_relationsFor.mp hrelation).1
    decide

end Letters

end QueryGate
