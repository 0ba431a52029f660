import QueryGate.Scalar
import QueryGate.Text.CharClass

/-!
# Clauses

What a query may ask for beyond its table and its columns: conditions on rows, groups, conditions
on groups, an order, and a window of rows. A filter is read into this form, screened in this form
and written from it.
-/

namespace QueryGate

/-! ### The parts of a condition -/

/-- **How a condition joins the conditions before it.** -/
inductive Connective where
  /-- Both must hold. -/
  | and
  /-- One of them must hold. -/
  | or
  deriving DecidableEq, Repr, Inhabited

/-- The word of a connective. -/
def Connective.word : Connective → String
  | .and => "AND"
  | .or => "OR"

/-- **What a condition says about its field.** -/
inductive Operator where
  /-- The field has the value of the operand. -/
  | equal
  /-- The field lies between the two bounds of the operand. -/
  | between
  /-- The field has one of the values of the operand. -/
  | oneOf
  /-- The field matches the pattern of the operand. -/
  | like
  /-- The field has no value. -/
  | isNull
  /-- The field is below the operand. -/
  | less
  /-- The field is below the operand or equal to it. -/
  | lessOrEqual
  /-- The field is above the operand. -/
  | greater
  /-- The field is above the operand or equal to it. -/
  | greaterOrEqual
  /-- The field, by which rows are grouped, has the value of the operand. -/
  | group
  deriving DecidableEq, Repr, Inhabited

namespace Operator

/-- **The operator that a directive asks for by name.** Case does not matter. Grouping is a
directive of its own and has no name here. -/
def ofName? (name : String) : Option Operator :=
  match String.ofList (name.toList.map CharClass.lower) with
  | "" => some .equal
  | "between" => some .between
  | "in" => some .oneOf
  | "like" => some .like
  | "is_null" => some .isNull
  | "cmp_l" | "<" => some .less
  | "cmp_le" | "<=" => some .lessOrEqual
  | "cmp_b" | ">" => some .greater
  | "cmp_be" | ">=" => some .greaterOrEqual
  | _ => none

/-- The name of an operator; of several, the one that is written. -/
def name : Operator → String
  | .equal => ""
  | .between => "between"
  | .oneOf => "in"
  | .like => "like"
  | .isNull => "is_null"
  | .less => "<"
  | .lessOrEqual => "<="
  | .greater => ">"
  | .greaterOrEqual => ">="
  | .group => "group"

end Operator

/-- **A condition on a field.** -/
structure Condition where
  /-- The field. -/
  field : String
  /-- What it is compared with. -/
  operand : Operand
  /-- How it is compared. -/
  operator : Operator := .equal
  /-- How the condition joins those before it. -/
  connective : Connective := .and
  /-- Whether the condition is denied. -/
  negated : Bool := false
  deriving DecidableEq, Repr

/-- The condition that a field has one of the given values. -/
def Condition.oneOf (field : String) (values : List Scalar) : Condition :=
  { field, operand := .many values, operator := .oneOf }

/-! ### Order -/

/-- **The direction of an order.** -/
inductive Direction where
  /-- From the least to the greatest. -/
  | ascending
  /-- From the greatest to the least. -/
  | descending
  deriving DecidableEq, Repr, Inhabited

namespace Direction

/-- The direction that a text names: descending for one spelling alone, ascending for every
other text. -/
def ofText (text : String) : Direction := if text = "DESC" then .descending else .ascending

/-- The word of a direction. -/
def word : Direction → String
  | .ascending => "ASC"
  | .descending => "DESC"

end Direction

/-- A field to order by, with its direction. -/
structure SortKey where
  /-- The field. -/
  field : String
  /-- The direction. -/
  direction : Direction
  deriving DecidableEq, Repr

/-! ### The whole -/

/-- **The clauses of a query.** -/
structure Clauses where
  /-- Conditions on rows. -/
  filters : List Condition := []
  /-- Fields to group by. -/
  groups : List String := []
  /-- Conditions on groups. -/
  having : List Condition := []
  /-- The order of rows. -/
  order : List SortKey := []
  /-- The greatest number of rows. -/
  limit : Option UInt64 := none
  /-- How many rows to leave out at the beginning. -/
  offset : Option UInt64 := none
  deriving DecidableEq, Repr, Inhabited

end QueryGate
