import QueryGate.Clauses

/-!
# Statements and their text

A statement is a value; its text is written once, here. Names of tables and columns are written as
they are, values as literals (`QueryGate.Scalar.literal`).

## Conditions that cannot be written

Not every operator fits every operand: a range needs two bounds, a list of alternatives at least
one. A condition that does not fit is left out of its chain, and the first one that is written
carries no connective, wherever it stood. A selection whose chain is empty has no such clause at
all. A change or a deletion whose chain is empty matches **nothing**: forgetting a condition never
turns into touching every row.
-/

namespace QueryGate

/-- **A column of a statement**: a name, with the value it is to have where the statement gives
one. -/
structure Column where
  /-- The name, or an expression with a name. -/
  name : String
  /-- The value. -/
  value : Option Scalar := none
  deriving DecidableEq, Repr

namespace Condition

/-- The text of a condition before its negation, for the operators that are negated from outside. -/
def bare (field : String) : Operator → Operand → Option String
  | .between, .many [low, high] =>
    some (field ++ " BETWEEN " ++ low.literal ++ " AND " ++ high.literal)
  | .oneOf, .many (item :: items) =>
    some (field ++ " IN (" ++ String.intercalate ", " ((item :: items).map Scalar.literal) ++ ")")
  | .like, .single s => some (field ++ " LIKE " ++ s.literal)
  | .less, .single s => some (field ++ " < " ++ s.literal)
  | .lessOrEqual, .single s => some (field ++ " <= " ++ s.literal)
  | .greater, .single s => some (field ++ " > " ++ s.literal)
  | .greaterOrEqual, .single s => some (field ++ " >= " ++ s.literal)
  | _, _ => none

/-- **The text of a condition**, if its operator fits its operand. Equality and absence have a
negation of their own, the others are negated as a whole. -/
def text? (c : Condition) : Option String :=
  match c.operator, c.operand with
  | .equal, .single s | .group, .single s =>
    some (c.field ++ (if c.negated then " <> " else " = ") ++ s.literal)
  | .isNull, _ => some (c.field ++ (if c.negated then " IS NOT NULL" else " IS NULL"))
  | operator, operand =>
    (bare c.field operator operand).map fun text =>
      if c.negated then "NOT(" ++ text ++ ")" else text

end Condition

namespace Statement

/-- A chain that goes on after a text with further conditions. -/
def chainAfter (written : String) : List Condition → String
  | [] => written
  | c :: rest =>
    match c.text? with
    | none => chainAfter written rest
    | some text => chainAfter (written ++ " " ++ c.connective.word ++ " (" ++ text ++ ")") rest

/-- **The chain of the conditions that can be written**, each in parentheses and each after the
first joined by its own connective; nothing if none can be written. -/
def chain? : List Condition → Option String
  | [] => none
  | c :: rest =>
    match c.text? with
    | none => chain? rest
    | some text => some (chainAfter ("(" ++ text ++ ")") rest)

/-- A clause that opens with a keyword, if its chain is not empty. -/
def clause? (keyword : String) (conditions : List Condition) : Option String :=
  (chain? conditions).map fun chain => keyword ++ " " ++ chain

/-- A chain that restricts a change: if nothing restricts it, nothing is changed. -/
def guarded (conditions : List Condition) : String := (chain? conditions).getD "(false)"

/-- The names of columns. -/
def names (columns : List Column) : String := String.intercalate ", " (columns.map Column.name)

/-- The literal of a column's value. -/
def valueText (column : Column) : String := (column.value.getD .null).literal

end Statement

/-- **A request for rows of a table.** -/
structure Selection where
  /-- The table. -/
  table : String
  /-- The columns; if there are none, all of them. -/
  columns : List Column
  /-- The clauses. -/
  clauses : Clauses
  deriving DecidableEq, Repr

/-- **A statement.** -/
inductive Statement where
  /-- Rows of a table. -/
  | select (selection : Selection)
  /-- A new row of a table. -/
  | insert (table : String) (columns : List Column)
  /-- New values in the rows that meet the conditions. -/
  | update (table : String) (columns : List Column) (conditions : List Condition)
  /-- The removal of the rows that meet the conditions. -/
  | delete (table : String) (conditions : List Condition)
  deriving DecidableEq, Repr

namespace Statement

/-- The line of a clause, with the line break before it, or nothing. -/
def line : Option String → String
  | none => ""
  | some text => "\n" ++ text

/-- A line that lists something, or nothing if there is nothing to list. -/
def listLine (keyword : String) : List String → String
  | [] => ""
  | item :: items => "\n" ++ keyword ++ " " ++ String.intercalate ", " (item :: items)

/-- A line with a number, or nothing. -/
def countLine (keyword : String) : Option UInt64 → String
  | none => ""
  | some n => "\n" ++ keyword ++ " " ++ Decimal.ofNat n.toNat

/-- **The text of a selection.** -/
def selectText (s : Selection) : String :=
  "SELECT " ++ (if s.columns.isEmpty then "*" else names s.columns) ++ "\nFROM " ++ s.table ++
    line (clause? "WHERE" s.clauses.filters) ++
    listLine "GROUP BY" s.clauses.groups ++
    line (clause? "HAVING" s.clauses.having) ++
    listLine "ORDER BY" (s.clauses.order.map fun key => key.field ++ " " ++ key.direction.word) ++
    countLine "LIMIT" s.clauses.limit ++
    countLine "OFFSET" s.clauses.offset ++ ";"

/-- The text of an insertion. -/
def insertText (table : String) (columns : List Column) : String :=
  "INSERT INTO " ++ table ++ " (" ++ names columns ++ ")\nVALUES (" ++
    String.intercalate ", " (columns.map valueText) ++ ");"

/-- The text of a change. -/
def updateText (table : String) (columns : List Column) (conditions : List Condition) : String :=
  "UPDATE " ++ table ++ "\nSET " ++
    String.intercalate ", " (columns.map fun c => c.name ++ " = " ++ valueText c) ++
    "\nWHERE " ++ guarded conditions ++ ";"

/-- The text of a deletion. -/
def deleteText (table : String) (conditions : List Condition) : String :=
  "DELETE FROM " ++ table ++ "\nWHERE " ++ guarded conditions ++ ";"

/-- **The text of a statement.** -/
def text : Statement → String
  | .select selection => selectText selection
  | .insert table columns => insertText table columns
  | .update table columns conditions => updateText table columns conditions
  | .delete table conditions => deleteText table conditions

end Statement

end QueryGate
