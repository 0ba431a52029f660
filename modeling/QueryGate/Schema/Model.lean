import QueryGate.Schema.Field
import QueryGate.Sql.Statement

/-!
# Models

What is known of a table: its fields and its relations to other models. A relation points at a
whole model, so models form trees.

## What a role sees

A field is visible to a role for reading or for writing, by its grants; a relation is visible to
everybody or to the roles it names. A projection lists the readable fields in the order in which
the model declares them, and the allow-list of a filter is made of the same fields. Names are not
required to be distinct: looked up by name, the first field counts, on an allow-list the last.
-/

namespace QueryGate

/-- **How many related rows a row may get.** -/
inductive RowLimit where
  /-- Any number. -/
  | unbounded
  /-- At most so many. -/
  | rows (count : UInt64)
  deriving DecidableEq, Repr, Inhabited

namespace RowLimit

/-- The limit that a signed number stands for: none if it is negative. -/
def ofSigned (n : Int64) : RowLimit :=
  if 0 ≤ n.toInt then .rows (UInt64.ofNat n.toInt.toNat) else .unbounded

/-- Whether a row gets one related row rather than a list of them. -/
def isSingle (limit : RowLimit) : Bool := limit = .rows 1

/-- Whether a row gets none at all. -/
def isForbidden (limit : RowLimit) : Bool := limit = .rows 0

/-- The number of rows, if there is one. -/
def count? : RowLimit → Option UInt64
  | .unbounded => none
  | .rows count => some count

end RowLimit

/-- **A relation to another model**: rows belong together when the internal keys of the one are
equal to the external keys of the other, pair by pair. -/
structure Relation (M : Type) where
  /-- The name under which related rows are attached. -/
  name : String
  /-- The columns of this side. -/
  internal : List String
  /-- The columns of the other side. -/
  external : List String
  /-- The other side. -/
  target : M
  /-- How many related rows a row may get. -/
  limit : RowLimit := .unbounded
  /-- The roles that see the relation; if there are none, everybody does. -/
  roles : List Role := []

/-- Whether a role sees a relation. -/
def Relation.visibleTo {M : Type} (relation : Relation M) (role : Role) : Bool :=
  relation.roles.isEmpty || relation.roles.contains role

/-- **What is known of a table.** -/
structure Model where
  /-- The name of the table. -/
  table : String
  /-- The fields. -/
  fields : List Field
  /-- The relations. -/
  relations : List (Relation Model) := []

namespace Model

/-- The first field of a name. -/
def field? (model : Model) (name : String) : Option Field :=
  model.fields.find? fun field => field.name = name

/-- The fields that a role has a kind of access to. -/
def fieldsFor (model : Model) (role : Role) (access : Access) : List Field :=
  model.fields.filter fun field => field.allows role access

/-- The relations that a role sees. -/
def relationsFor (model : Model) (role : Role) : List (Relation Model) :=
  model.relations.filter fun relation => relation.visibleTo role

/-- **The fields that a role has a kind of access to, as an allow-list.** -/
def allowList (model : Model) (role : Role) (access : Access) : AllowList :=
  ⟨(model.fieldsFor role access).map fun field => (field.name, field.reader)⟩

/-- **The columns that a role may read.** -/
def projection (model : Model) (role : Role) : List Column :=
  (model.fieldsFor role .read).map fun field => { name := field.name }

end Model

end QueryGate
