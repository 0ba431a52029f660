import QueryGate.Filter.Key
import QueryGate.Filter.Params
import QueryGate.Notice

/-!
# Directives

One key with its values asks for at most one thing: a condition, a group, an order, a limit or an
offset. This module reads that directive, puts the directives of a request in order and makes
clauses of them.

## Order

A directive with a usable number goes before every directive without one, and numbered ones go by
their numbers. Directives of equal rank keep the order in which their keys first appeared, so the
sort has to be stable (`QueryGate.Directive.precedes` compares ranks only).

## What a directive needs

Every directive but a limit and an offset needs a field. A range takes the first and the last of
its values and needs two; a list of alternatives takes all of them; absence takes none; every other
condition takes the first. A group takes its first value that is not empty and may do without. What
a directive cannot use is ignored, what it lacks voids it.
-/

namespace QueryGate

/-- **What one key of a request asks for.** -/
inductive Directive where
  /-- A condition on rows. -/
  | filter (condition : Condition)
  /-- A field to group by, with the condition on its groups. -/
  | group (field : String) (having : Condition)
  /-- A field to order by. -/
  | order (key : SortKey)
  /-- A greatest number of rows. -/
  | limit (count : UInt64)
  /-- A number of rows to leave out. -/
  | offset (count : UInt64)
  deriving DecidableEq, Repr

namespace Directive

/-- A number of rows: the first value, as an integer that a signed word of 64 bits can hold and
that is not negative. -/
def rowCount? (values : List String) : Option UInt64 :=
  match values with
  | [] => none
  | value :: _ =>
    match (IntegerRange.signed 64).read value.toList with
    | .ok n => if 0 ≤ n then some (UInt64.ofNat n.toNat) else none
    | .error _ => none

/-- **The operand that values make for an operator**, if they do. -/
def operand? (operator : Operator) (values : List String) : Option Operand :=
  match operator with
  | .between =>
    match values with
    | first :: second :: rest => some (.texts [first, (second :: rest).getLast (by simp)])
    | _ => none
  | .oneOf => if values.isEmpty then none else some (.texts values)
  | .isNull => some (.single .null)
  | .equal | .group => none
  | .like | .less | .lessOrEqual | .greater | .greaterOrEqual => values.head?.map .text

/-- A condition with the flags of its key. -/
def flagged (key : Key) (field : String) (operator : Operator) (operand : Operand) : Condition :=
  { field, operand, operator, connective := key.connective, negated := key.negated }

/-- The value that a group's condition compares with: the first that is not empty, or none. -/
def groupValue (values : List String) : Scalar :=
  match values.find? (!·.isEmpty) with
  | some value => .text value
  | none => .null

/-- **A directive that its key names.** -/
def ofNamed? (key : Key) (values : List String) : Option Directive :=
  match String.ofList (key.name.toList.map CharClass.lower) with
  | "group" | "group-by" =>
    key.field?.map fun field =>
      .group field (flagged key field .group (.single (groupValue values)))
  | "sort" | "order" | "order-by" =>
    key.field?.map fun field =>
      .order ⟨field, (values.head?.map Direction.ofText).getD .ascending⟩
  | "limit" => (rowCount? values).map .limit
  | "offset" => (rowCount? values).map .offset
  | name => do
    let operator ← Operator.ofName? name
    let field ← key.field?
    let operand ← operand? operator values
    return .filter (flagged key field operator operand)

/-- **A directive whose key is a field**: the field has the first value, or one of all the values
if the key ends with an empty pair of brackets. -/
def ofPlain? (key : Key) (values : List String) : Option Directive :=
  match values with
  | [] => none
  | first :: _ =>
    match key.brackets with
    | "" :: _ => some (.filter (flagged key key.name .oneOf (.texts values)))
    | _ => some (.filter (flagged key key.name .equal (.text first)))

/-- The directive of a key with its values, if they make one. -/
def of? (key : Key) (values : List String) : Option Directive :=
  if key.named then ofNamed? key values else ofPlain? key values

/-! ### Ranked directives -/

/-- **A directive with the number that ranks it**, if it has one. -/
structure Ranked where
  /-- The number. -/
  number : Option UInt64
  /-- The directive. -/
  directive : Directive
  deriving DecidableEq, Repr

/-- **Whether a rank may stand before another**: numbers ascend, and no number comes last. -/
def precedes (a b : Ranked) : Bool :=
  match a.number, b.number with
  | some m, some n => m ≤ n
  | some _, none => true
  | none, some _ => false
  | none, none => true

/-- The ranked directive of a parameter, or the notice that it makes none. -/
def ofEntry (entry : String × List String) : Except Notice Ranked :=
  match Key.parse? entry.1 with
  | none => .error (.malformedKey entry.1)
  | some key =>
    match of? key entry.2 with
    | none => .error (.voidDirective entry.1)
    | some directive => .ok ⟨key.number, directive⟩

/-- The directives of a list of parameters, in the order of the parameters. -/
def ofEntries (entries : List (String × List String)) : Noted Notice (List Ranked) :=
  Noted.sift ofEntry entries

end Directive

namespace Clauses

/-- The clauses with what one directive asks for. A later limit or offset replaces an earlier
one. -/
def add (clauses : Clauses) : Directive → Clauses
  | .filter condition => { clauses with filters := clauses.filters ++ [condition] }
  | .group field having =>
    { clauses with groups := clauses.groups ++ [field], having := clauses.having ++ [having] }
  | .order key => { clauses with order := clauses.order ++ [key] }
  | .limit count => { clauses with limit := some count }
  | .offset count => { clauses with offset := some count }

/-- The clauses that directives make, from the first to the last. -/
def ofDirectives (directives : List Directive) : Clauses := directives.foldl add {}

/-- **The clauses that parameters ask for**, with a notice for each parameter that asks for
none. -/
def ofParams (params : Params) : Noted Notice Clauses :=
  (Directive.ofEntries params.entries).map fun ranked =>
    ofDirectives ((ranked.mergeSort Directive.precedes).map (·.directive))

/-- The clauses that a query string asks for. -/
def ofQueryString (raw : String) : Noted Notice Clauses := ofParams (Params.ofQueryString raw)

end Clauses

end QueryGate
