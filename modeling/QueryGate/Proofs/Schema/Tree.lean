import QueryGate.Schema.Model

/-!
# Models as trees

A model points at whole models, so whatever is to hold of every model is proved from the targets of
its relations upwards (`QueryGate.Model.induction`). What a role can reach of a tree are the
relations that it sees, and below each of them the relations that it sees there
(`QueryGate.Model.Reaches`). They are listed one by one in `QueryGate.Model.reachable`, each before
those below it, and a relation that stands in several places of the tree once for each of them.
-/

namespace QueryGate

namespace Model

/-- **Induction over a tree of models**: what passes from the targets of a model's relations to the
model holds of every model. -/
@[elab_as_elim]
theorem induction {motive : Model → Prop}
    (step : ∀ model : Model, (∀ relation ∈ model.relations, motive relation.target) → motive model)
    (model : Model) : motive model := by
  refine Model.rec (motive_1 := motive)
    (motive_2 := fun relations => ∀ relation ∈ relations, motive relation.target)
    (motive_3 := fun relation => motive relation.target) ?_ ?_ ?_ ?_ model
  · intro table fields relations ih
    exact step ⟨table, fields, relations⟩ ih
  · simp
  · intro relation rest ih ihRest other hother
    rcases List.mem_cons.mp hother with rfl | hother
    · exact ih
    · exact ihRest other hother
  · intro name internal external target limit roles ih
    exact ih

/-- **The relations that a role can reach from a model**: those that it sees, and from their targets
on the same again. -/
inductive Reaches (role : Role) : Model → Relation Model → Prop
  /-- A relation of the model itself. -/
  | direct {model : Model} {relation : Relation Model} (seen : relation ∈ model.relationsFor role) :
      Reaches role model relation
  /-- A relation that is reached from the target of one of the model's. -/
  | further {model : Model} {relation other : Relation Model}
      (seen : relation ∈ model.relationsFor role) (reached : Reaches role relation.target other) :
      Reaches role model other

/-- The relations that a role sees are relations of the model. -/
theorem mem_relationsFor {model : Model} {role : Role} {relation : Relation Model} :
    relation ∈ model.relationsFor role ↔
      relation ∈ model.relations ∧ relation.visibleTo role = true := by
  rw [relationsFor, List.mem_filter]

end Model

/-! ### The relations one by one -/

mutual

/-- **The relations that a role can reach from a model, one by one**: each that it sees, and behind
it those that it can reach from its target. -/
def Model.reachable (role : Role) : Model → List (Relation Model)
  | ⟨_, _, relations⟩ => Relation.allReachable role relations

/-- The relations of a list that a role sees, each with those behind it. -/
def Relation.allReachable (role : Role) : List (Relation Model) → List (Relation Model)
  | [] => []
  | relation :: rest =>
    if relation.visibleTo role then
      relation :: (Relation.reachableBehind role relation ++ Relation.allReachable role rest)
    else Relation.allReachable role rest

/-- The relations that a role can reach from the target of a relation. -/
def Relation.reachableBehind (role : Role) : Relation Model → List (Relation Model)
  | ⟨_, _, _, target, _, _⟩ => target.reachable role

end

variable {role : Role}

theorem Relation.reachableBehind_eq (relation : Relation Model) :
    Relation.reachableBehind role relation = relation.target.reachable role := by
  cases relation
  rfl

/-- The relations that can be reached are those of the model that the role sees, each with those
behind it. -/
theorem Model.reachable_eq_flatMap (model : Model) :
    model.reachable role =
      (model.relationsFor role).flatMap fun relation =>
        relation :: relation.target.reachable role := by
  have hall : ∀ relations : List (Relation Model), Relation.allReachable role relations =
      (relations.filter (·.visibleTo role)).flatMap fun relation =>
        relation :: relation.target.reachable role := by
    intro relations
    induction relations with
    | nil => rfl
    | cons relation rest ih =>
      rw [Relation.allReachable, List.filter_cons, ih, Relation.reachableBehind_eq]
      split <;> rfl
  cases model
  exact hall _

end QueryGate
