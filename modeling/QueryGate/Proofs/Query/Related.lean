import Mathlib.Data.List.Basic
import Mathlib.Tactic.SplitIfs
import QueryGate.Proofs.Database.Answers
import QueryGate.Query.Expansion

/-!
# One step of an expansion

An expansion follows one relation after the other, and following a relation is one request at most.
This module says once what such a step does (`QueryGate.Relation.related_eq`,
`QueryGate.Relation.result_related`), and that a whole expansion turns each row by itself into what
it becomes among the rows it is expanded with (`QueryGate.Model.result_expand`).
-/

namespace QueryGate

/-! ### Following one relation -/

namespace Relation

/-- Whether a relation asks for anything, for some rows. -/
def asks (relation : Relation Model) (role : Role) (rows : List Row) : Prop :=
  relation.isUsable = true ∧ relation.keys rows ≠ [] ∧ relation.target.projection role ≠ []

/-- What a relation asks for, when it asks. -/
def selection (relation : Relation Model) (role : Role) (rows : List Row) : Selection :=
  { table := relation.target.table
    columns := relation.keyColumns ++ relation.target.projection role
    clauses :=
      { filters := relation.keyConditions (relation.keys rows)
        limit := relation.limit.count? } }

variable {relation : Relation Model} {role : Role} {rows : List Row}

theorem request_of_asks (h : relation.asks role rows) :
    relation.request role rows = .rows (relation.selection role rows) := by
  obtain ⟨husable, hkeys, hreadable⟩ := h
  have hkeys : (relation.keys rows).isEmpty = false := by simpa using hkeys
  have hreadable : (relation.target.projection role).isEmpty = false := by simpa using hreadable
  simp [request, husable, hkeys, hreadable, selection]

/-- A relation that does not ask makes no request, whether or not this is worth a notice. -/
theorem request_of_not_asks (h : ¬relation.asks role rows) :
    relation.request role rows = .nothing ∨ relation.request role rows = .unreadable := by
  rw [request]
  split_ifs with husable hkeys hreadable
  · exact Or.inl rfl
  · exact Or.inl rfl
  · exact Or.inr rfl
  · exact absurd ⟨by simpa using husable, by simpa using hkeys, by simpa using hreadable⟩ h

variable (relation role rows)

/-- **The rows that belong to some rows by a relation**, by what the relation asks for. -/
theorem related_eq :
    related role relation rows =
      match relation.request role rows with
      | .nothing => .done []
      | .unreadable => .note (.relationUnreadable relation.name) (.done [])
      | .rows selection =>
        .ask selection fun
          | .error failure =>
            .note (.relationFailed relation.name relation.target.table failure.message) (.done [])
          | .ok answered =>
            let found := answered.filterMap (detach? relation.external.length)
            (relation.target.expand role (found.map Prod.snd)).map fun expanded =>
              (found.map Prod.fst).zip expanded := by
  cases relation
  rfl

variable {relation role rows} {answer : Selection → Except Failure (List Row)}

/-- Of the rows a relation looks at the keys alone. -/
theorem related_congr {rows' : List Row} (h : relation.keys rows = relation.keys rows') :
    related role relation rows = related role relation rows' := by
  have hrequest : relation.request role rows = relation.request role rows' := by
    rw [request, request, h]
  rw [related_eq, related_eq, hrequest]

/-- A relation that does not ask finds nothing, without a request. -/
theorem related_of_not_asks (h : ¬relation.asks role rows) :
    (related role relation rows).result answer = [] ∧
      (related role relation rows).requests answer = [] := by
  rw [related_eq]
  rcases request_of_not_asks h with h | h <;> simp [h]

/-- What a row gets depends only on what belongs to it. -/
theorem datum_congr {row row' : Row} {found found' : List (List Scalar × Row)}
    (h : relation.matching row found = relation.matching row' found') :
    relation.datum row found = relation.datum row' found' := by
  rw [datum, datum, h]

/-- What belongs to a row is what is found, and nothing else. -/
theorem matching_subset {row : Row} {found : List (List Scalar × Row)} :
    relation.matching row found ⊆ found.map Prod.snd := by
  rw [matching]
  split
  · exact List.nil_subset _
  · exact List.map_subset _ (List.filter_subset_self _)

/-- Rows that are made of the found ones belong where those belong. -/
theorem matching_map {row : Row} {found : List (List Scalar × Row)} {f : Row → Row} :
    relation.matching row (found.map fun pair => (pair.1, f pair.2)) =
      (relation.matching row found).map f := by
  rw [matching, matching]
  split
  · rfl
  · rw [List.filter_map, List.map_map, List.map_map]
    rfl

/-- Where nothing was found, a row gets an empty attribute. -/
theorem datum_nil {row : Row} :
    relation.datum row [] = if relation.limit.isSingle then .object [] else .list [] := by
  have hmatching : relation.matching row [] = [] := by
    rw [matching]
    split <;> rfl
  rw [datum, hmatching]
  rfl

/-- Rows get what they are known to get, in whatever form they are. -/
theorem attach_map {found : List (List Scalar × Row)} {form : Row → Row} {give : Row → Datum}
    (h : ∀ row ∈ rows, relation.datum (form row) found = give row) :
    relation.attach (rows.map form) found =
      rows.map fun row => Named.insert relation.name (give row) (form row) := by
  rw [attach, List.map_map]
  refine List.map_congr_left fun row hrow => ?_
  rw [Function.comp_apply, h row hrow]

end Relation

/-! ### Expanding by all of them -/

namespace Model

variable {model : Model} {role : Role} {rows : List Row}

/-- Where there are no rows there is nothing to expand. -/
theorem expand_nil : model.expand role [] = .done [] := by
  cases model
  rfl

/-- Rows are expanded by the relations of their model. -/
theorem expand_of_ne_nil (h : rows ≠ []) :
    model.expand role rows = Relation.expandAll role model.relations rows := by
  have hrows : rows.isEmpty = false := by simpa using h
  cases model
  simp [expand, hrows]

end Model

namespace Relation

variable {role : Role}

/-- Where there are no rows, no relation changes anything. -/
theorem expandAll_nil (relations : List (Relation Model)) :
    expandAll role relations [] = .done [] := by
  induction relations with
  | nil => rfl
  | cons relation rest ih =>
    have hrelated : related role relation [] = .done [] := by
      have hrequest : relation.request role [] = .nothing := by
        simp [request, keys]
      rw [related_eq, hrequest]
    rw [expandAll, hrelated]
    split <;> exact ih

/-- Relations are followed in parts. -/
theorem expandAll_append (before after : List (Relation Model)) (rows : List Row) :
    expandAll role (before ++ after) rows =
      (expandAll role before rows).bind (expandAll role after) := by
  induction before generalizing rows with
  | nil => rfl
  | cons relation rest ih =>
    rw [List.cons_append, expandAll, expandAll]
    split
    · rw [Dialogue.bind_assoc]
      exact congrArg (Dialogue.bind · _) (funext fun found => ih _)
    · exact ih rows

/-- Relations that the role does not see are passed over. -/
theorem expandAll_filter (relations : List (Relation Model)) (rows : List Row) :
    expandAll role (relations.filter (·.visibleTo role)) rows = expandAll role relations rows := by
  induction relations generalizing rows with
  | nil => rfl
  | cons relation rest ih =>
    rw [List.filter_cons, expandAll]
    split
    · next hseen =>
      rw [expandAll, if_pos hseen]
      exact congrArg (Dialogue.bind · _) (funext fun found => ih _)
    · exact ih rows

end Relation

/-- Rows are expanded by the relations of their model, if there are any rows. -/
theorem Model.expand_eq (role : Role) (model : Model) (rows : List Row) :
    model.expand role rows = Relation.expandAll role model.relations rows := by
  by_cases hrows : rows = []
  · rw [hrows, expand_nil, Relation.expandAll_nil]
  · exact expand_of_ne_nil hrows

/-- Rows are expanded by the relations that the role sees. -/
theorem Model.expand_eq_relationsFor (role : Role) (model : Model) (rows : List Row) :
    model.expand role rows = Relation.expandAll role (model.relationsFor role) rows := by
  rw [expand_eq, relationsFor, Relation.expandAll_filter]

section Become

variable (answer : Selection → Except Failure (List Row)) (role : Role)

/-- **What a row becomes** when it is expanded together with some rows. -/
def Relation.become : List (Relation Model) → List Row → Row → Row
  | [], _, row => row
  | relation :: rest, rows, row =>
    if relation.visibleTo role then
      let found := (Relation.related role relation rows).result answer
      Relation.become rest (relation.attach rows found)
        (Named.insert relation.name (relation.datum row found) row)
    else Relation.become rest rows row

/-- An expansion by relations turns each row into what it becomes. -/
theorem Relation.result_expandAll (relations : List (Relation Model)) (rows : List Row) :
    (Relation.expandAll role relations rows).result answer =
      rows.map (Relation.become answer role relations rows) := by
  induction relations generalizing rows with
  | nil => simp [Relation.expandAll, Relation.become]
  | cons relation rest ih =>
    by_cases hseen : relation.visibleTo role = true
    · simp only [Relation.expandAll, if_pos hseen, Dialogue.result_bind, ih]
      rw [Relation.attach, List.map_map]
      refine List.map_congr_left fun row _ => ?_
      rw [Function.comp_apply, Relation.become, if_pos hseen]
      rfl
    · rw [Relation.expandAll, if_neg hseen, ih]
      refine List.map_congr_left fun row _ => ?_
      rw [Relation.become, if_neg hseen]

/-- **An expansion turns each row into what it becomes among all of them.** -/
theorem Model.result_expand (model : Model) (rows : List Row) :
    (model.expand role rows).result answer =
      rows.map (Relation.become answer role model.relations rows) := by
  rw [Model.expand_eq]
  exact Relation.result_expandAll answer role model.relations rows

end Become

/-! ### What a relation comes to -/

namespace Relation

variable {relation : Relation Model} {role : Role} {rows : List Row}
variable {answer : Selection → Except Failure (List Row)}

/-- **A relation that asks and is answered** comes to the answered rows that have a key, each with
its key, and each as it becomes among all of them. -/
theorem result_related (h : relation.asks role rows) {answered : List Row}
    (hanswer : answer (relation.selection role rows) = .ok answered)
    {found : List (List Scalar × Row)}
    (hfound : answered.filterMap (detach? relation.external.length) = found) :
    (related role relation rows).result answer =
      found.map fun pair =>
        (pair.1, become answer role relation.target.relations (found.map Prod.snd) pair.2) := by
  simp only [related_eq, request_of_asks h, Dialogue.result_ask, hanswer, Dialogue.result_map,
    Model.result_expand, hfound, List.map_map]
  exact List.zip_map'

/-- A relation that asks and is answered makes its own request before those of the expansion of what
it finds. -/
theorem requests_related (h : relation.asks role rows) {answered : List Row}
    (hanswer : answer (relation.selection role rows) = .ok answered)
    {found : List (List Scalar × Row)}
    (hfound : answered.filterMap (detach? relation.external.length) = found) :
    (related role relation rows).requests answer =
      relation.selection role rows ::
        (relation.target.expand role (found.map Prod.snd)).requests answer := by
  simp [related_eq, request_of_asks h, hanswer, hfound]

end Relation

end QueryGate
