import QueryGate.Database.Dialogue
import QueryGate.Schema.Model

/-!
# Expansion

Rows of a model are expanded when every relation that the role sees has been followed: each row
gets, under the relation's name, the rows of the other model that belong to it, themselves
expanded. For all the rows together one request is made per relation.

## Keys

A row takes part in a relation only if it has a scalar value in each of the relation's columns. The
values are brought into one form first (`QueryGate.Scalar.normalized`), on both sides, so that an
identity matches whatever its signedness. The request asks for the external keys under names of
their own, because the role need not be able to read them; they are taken off the rows before
anything else is done with them.

## Requests that are not made

No request is made if nothing could come of it: the relation gives no rows to anybody, its keys do
not pair up, no row has a key, or the role can read nothing of the other model. A request that
fails leaves every row without related rows. In all these cases the rows still get the attribute.

## Order

Relations are followed in the order of their declaration, over rows that already carry what the
relations before them attached. What a request finds is expanded as a whole before it is divided
among the rows, and keeps the order in which the database gave it.
-/

namespace QueryGate

/-- The values of some columns of a row, in one form, if each of them has one. -/
def Row.key? (columns : List String) (row : Row) : Option (List Scalar) :=
  columns.mapM fun column =>
    ((Named.get? column row).bind Datum.asValue?).map Scalar.normalized

namespace Relation

variable {M : Type}

/-- The name under which an external key is asked for. -/
def keyName (i : Nat) : String := "__expand_key_" ++ Decimal.ofNat i

/-- Whether two keys are equal, value by value. -/
def sameKey : List Scalar → List Scalar → Bool
  | [], [] => true
  | a :: as, b :: bs => a.equals b && sameKey as bs
  | _, _ => false

/-- **Values without repetitions**, in the order of first appearance. -/
def distinct (values : List Scalar) : List Scalar :=
  values.foldl (fun seen s => if seen.any (·.equals s) then seen else seen ++ [s]) []

/-- The values at one place of some keys. -/
def column (keys : List (List Scalar)) (i : Nat) : List Scalar := keys.filterMap (·[i]?)

/-- The columns that carry the external keys. -/
def keyColumns (relation : Relation M) : List Column :=
  relation.external.mapIdx fun i key => { name := key ++ " AS " ++ keyName i }

/-- The conditions that each external key is one of the values there are for it. -/
def keyConditions (relation : Relation M) (keys : List (List Scalar)) : List Condition :=
  relation.external.mapIdx fun i key => Condition.oneOf key (distinct (column keys i))

/-- The keys of the rows that have one. -/
def keys (relation : Relation M) (rows : List Row) : List (List Scalar) :=
  rows.filterMap (Row.key? relation.internal)

/-- Whether the relation can give rows to anybody. -/
def isUsable (relation : Relation M) : Bool :=
  !relation.limit.isForbidden && !relation.internal.isEmpty &&
    relation.internal.length == relation.external.length

/-- **What a relation asks for.** -/
inductive Request where
  /-- Nothing. -/
  | nothing
  /-- Nothing, because the role can read nothing of the other model. -/
  | unreadable
  /-- Rows of the other model. -/
  | rows (selection : Selection)
  deriving DecidableEq, Repr

/-- **The request that a relation makes for some rows.** -/
def request (relation : Relation Model) (role : Role) (rows : List Row) : Request :=
  if !relation.isUsable then .nothing
  else if (relation.keys rows).isEmpty then .nothing
  else if (relation.target.projection role).isEmpty then .unreadable
  else
    .rows
      { table := relation.target.table
        columns := relation.keyColumns ++ relation.target.projection role
        clauses :=
          { filters := relation.keyConditions (relation.keys rows)
            limit := relation.limit.count? } }

/-- **A found row divided** into its key and the rest, if each part of the key has a value. -/
def detach? (count : Nat) (row : Row) : Option (List Scalar × Row) :=
  (Row.key? ((List.range count).map keyName) row).map fun key =>
    (key, (List.range count).foldl (fun row i => Named.erase (keyName i) row) row)

/-- The found rows whose key is the key of a row. -/
def matching (relation : Relation M) (row : Row) (found : List (List Scalar × Row)) : List Row :=
  match Row.key? relation.internal row with
  | none => []
  | some key => (found.filter fun pair => sameKey key pair.1).map Prod.snd

/-- **What a row gets**: the first of its related rows as an object, where the relation gives at
most one, and an empty object if there is none; all of them as a list otherwise. -/
def datum (relation : Relation M) (row : Row) (found : List (List Scalar × Row)) : Datum :=
  if relation.limit.isSingle then .object ((relation.matching row found).head?.getD [])
  else .list (relation.matching row found)

/-- The rows with what the relation gives them. -/
def attach (relation : Relation M) (rows : List Row) (found : List (List Scalar × Row)) :
    List Row :=
  rows.map fun row => Named.insert relation.name (relation.datum row found) row

end Relation

mutual

/-- **The expansion of rows of a model.** -/
def Model.expand (role : Role) : Model → List Row → Dialogue (List Row)
  | ⟨_, _, relations⟩, rows =>
    if rows.isEmpty then .done rows else Relation.expandAll role relations rows

/-- The expansion of rows by relations, one after the other. -/
def Relation.expandAll (role : Role) : List (Relation Model) → List Row → Dialogue (List Row)
  | [], rows => .done rows
  | relation :: rest, rows =>
    if relation.visibleTo role then
      (Relation.related role relation rows).bind fun found =>
        Relation.expandAll role rest (relation.attach rows found)
    else Relation.expandAll role rest rows

/-- **The rows that belong to some rows by a relation**, expanded, each with its key. -/
def Relation.related (role : Role) :
    Relation Model → List Row → Dialogue (List (List Scalar × Row))
  | ⟨name, internal, external, target, limit, roles⟩, rows =>
    match Relation.request ⟨name, internal, external, target, limit, roles⟩ role rows with
    | .nothing => .done []
    | .unreadable => .note (.relationUnreadable name) (.done [])
    | .rows selection =>
      .ask selection fun
        | .error failure =>
          .note (.relationFailed name target.table failure.message) (.done [])
        | .ok rows =>
          let found := rows.filterMap (Relation.detach? external.length)
          (target.expand role (found.map Prod.snd)).map fun expanded =>
            (found.map Prod.fst).zip expanded

end

end QueryGate
