import QueryGate.Named
import QueryGate.Scalar

/-!
# Rows

A row of a result: attributes under names. What a table holds is a scalar; expansion adds the rows
of other tables, one row as an object or several as a list, so rows are nested.
-/

namespace QueryGate

/-- **An attribute of a row.** -/
inductive Datum where
  /-- A value of a column. -/
  | scalar (s : Scalar)
  /-- A row of another table. -/
  | object (row : List (String × Datum))
  /-- Rows of another table. -/
  | list (rows : List (List (String × Datum)))
  deriving Repr, Inhabited

/-- **A row**: attributes under names, in ascending order of the names. -/
abbrev Row := Named Datum

namespace Datum

/-- The scalar of an attribute that is one. -/
def asScalar? : Datum → Option Scalar
  | .scalar s => some s
  | _ => none

/-- The row of an attribute that is one. -/
def asObject? : Datum → Option Row
  | .object row => some row
  | _ => none

/-- The rows of an attribute that is a list of them. -/
def asList? : Datum → Option (List Row)
  | .list rows => some rows
  | _ => none

/-- The scalar of an attribute that is one and has a value. -/
def asValue? : Datum → Option Scalar
  | .scalar .null => none
  | .scalar s => some s
  | _ => none

end Datum

end QueryGate
