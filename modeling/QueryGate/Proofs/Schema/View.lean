import QueryGate.Schema.Model

/-!
# Models as a role sees them

A role does not see all of a model. What it sees is a model again (`QueryGate.Model.seenBy`): the
fields that it may read, for which it does not matter which values they take nor what else anybody
may do with them, and the relations that are visible to it, with what it sees of their targets.

Every question that the library asks about a model on behalf of a reader is one of those below, and
each has the same answer for the model and for what the role sees of it. Two models that look the
same to a role are equal *as the role sees them*, so whatever is settled by these questions is
settled alike for both.
-/

namespace QueryGate

variable {role : Role}

/-! ### What a role sees -/

/-- A readable field as a role sees it. -/
def Field.seenBy (role : Role) (field : Field) : Field :=
  { field with check := none, grants := [.readOnly role] }

mutual

/-- **A model as a role sees it.** -/
def Model.seenBy (role : Role) : Model → Model
  | ⟨table, fields, relations⟩ =>
    ⟨table, (fields.filter (·.allows role .read)).map (·.seenBy role),
      Relation.allSeenBy role relations⟩

/-- The relations of a model that a role sees, as it sees them. -/
def Relation.allSeenBy (role : Role) : List (Relation Model) → List (Relation Model)
  | [] => []
  | relation :: rest =>
    if relation.visibleTo role then Relation.seenBy role relation :: Relation.allSeenBy role rest
    else Relation.allSeenBy role rest

/-- **A visible relation as a role sees it**: it leads to what the role sees of its target. -/
def Relation.seenBy (role : Role) : Relation Model → Relation Model
  | ⟨name, internal, external, target, limit, _⟩ =>
    ⟨name, internal, external, target.seenBy role, limit, []⟩

end

/-! ### Fields -/

/-- The grant to read covers reading. -/
theorem Grant.allows_readOnly : (Grant.readOnly role).allows .read = true := by
  simp [readOnly, of, allows, Access.bit]

/-- A role may read the fields that it sees. -/
theorem Field.allows_seenBy (field : Field) : (field.seenBy role).allows role .read = true :=
  List.any_eq_true.mpr ⟨.readOnly role, List.mem_singleton_self _,
    Bool.and_eq_true_iff.mpr ⟨decide_eq_true rfl, Grant.allows_readOnly⟩⟩

namespace Model

@[simp] theorem table_seenBy (model : Model) : (model.seenBy role).table = model.table := by
  cases model
  rfl

@[simp] theorem relations_seenBy (model : Model) :
    (model.seenBy role).relations = Relation.allSeenBy role model.relations := by
  cases model
  rfl

/-- **A role may read all that it sees**, and sees all that it may read. -/
theorem fieldsFor_seenBy (model : Model) :
    (model.seenBy role).fieldsFor role .read =
      (model.fieldsFor role .read).map (·.seenBy role) := by
  cases model
  rw [seenBy, fieldsFor, fieldsFor, List.filter_eq_self]
  intro field hfield
  obtain ⟨field, -, rfl⟩ := List.mem_map.mp hfield
  exact field.allows_seenBy

/-- A role is shown the same columns. -/
@[simp] theorem projection_seenBy (model : Model) :
    (model.seenBy role).projection role = model.projection role := by
  rw [projection, fieldsFor_seenBy, List.map_map]
  rfl

/-- A role may filter by the same fields, with the same readers. -/
@[simp] theorem allowList_seenBy (model : Model) :
    (model.seenBy role).allowList role .read = model.allowList role .read := by
  rw [allowList, fieldsFor_seenBy, List.map_map]
  rfl

end Model

/-! ### Relations -/

namespace Relation

variable (relation : Relation Model)

@[simp] theorem name_seenBy : (relation.seenBy role).name = relation.name := by
  cases relation
  rfl

@[simp] theorem internal_seenBy : (relation.seenBy role).internal = relation.internal := by
  cases relation
  rfl

@[simp] theorem external_seenBy : (relation.seenBy role).external = relation.external := by
  cases relation
  rfl

@[simp] theorem limit_seenBy : (relation.seenBy role).limit = relation.limit := by
  cases relation
  rfl

@[simp] theorem target_seenBy : (relation.seenBy role).target = relation.target.seenBy role := by
  cases relation
  rfl

/-- A role sees the relations that it sees. -/
@[simp] theorem visibleTo_seenBy : (relation.seenBy role).visibleTo role = true := by
  cases relation
  rfl

end Relation

end QueryGate
